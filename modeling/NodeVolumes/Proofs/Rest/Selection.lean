import Mathlib.Data.Prod.Lex
import Mathlib.Logic.Relation
import NodeVolumes.Proofs.Rest.Login

/-!
# Choosing an endpoint

Each endpoint that fits has a place: that of its type in the order of preference, that of its
service in the catalogue, and its own in the service (`StandsAt`).  The endpoint at the least place
is the one that is chosen (`selectEndpoint_least`).  So the services of one type matter to each
other only: what is moved past services of other types, or is of a type that nobody asks for,
changes nothing (`offers_eq_of_eqvGen`).
-/

namespace NodeVolumes.Rest

/-- An endpoint has the interface, and is in the region if one is wanted. -/
structure Endpoint.Fits (e : Endpoint) (interface : String) (region : Option String) : Prop where
  interface_eq : e.interface = interface
  inRegion : ∀ wanted, region = some wanted → e.region = some wanted ∨ e.regionId = some wanted

/-- Places in an order of types, in a catalogue and in a service. -/
structure Place where
  type : Nat
  service : Nat
  endpoint : Nat

/-- Places are compared by the type first and by the endpoint last. -/
def Place.rank (p : Place) : ℕ ×ₗ ℕ ×ₗ ℕ :=
  toLex (p.type, toLex (p.service, p.endpoint))

/-- An endpoint that fits stands at a place, in a service of the type there. -/
structure StandsAt (catalog : List Service) (types : List String) (interface : String)
    (region : Option String) (p : Place) (e : Endpoint) : Prop where
  service : ∃ s, catalog[p.service]? = some s ∧ types[p.type]? = some s.kind ∧
    s.endpoints[p.endpoint]? = some e
  fits : e.Fits interface region

structure IsWithoutSlashes (text bare : String) : Prop where
  slashes : ∃ n, text.toList = bare.toList ++ List.replicate n '/'
  last : bare.toList.getLast? ≠ some '/'

/-- A catalogue becomes another by two services of different types that change places, or by one of
a type that is not asked for. -/
inductive Shifts (types : List String) : List Service → List Service → Prop where
  | swap (front back : List Service) {s t : Service} :
      s.kind ≠ t.kind → Shifts types (front ++ s :: t :: back) (front ++ t :: s :: back)
  | insert (front back : List Service) {s : Service} :
      s.kind ∉ types → Shifts types (front ++ back) (front ++ s :: back)

variable {catalog other : List Service} {types : List String} {interface : String}
variable {region : Option String} {e e' : Endpoint} {p q : Place}

/-! ## Places -/

theorem Endpoint.suits_iff : e.suits interface region = true ↔ e.Fits interface region := by
  rw [Endpoint.suits, Bool.and_eq_true, beq_iff_eq]
  cases region with
  | none =>
      constructor
      · rintro ⟨hinterface, -⟩
        exact ⟨hinterface, fun _ h => by cases h⟩
      · intro h
        exact ⟨h.interface_eq, rfl⟩
  | some wanted =>
      rw [Endpoint.isIn, Bool.or_eq_true, beq_iff_eq, beq_iff_eq]
      constructor
      · rintro ⟨hinterface, hregion⟩
        exact ⟨hinterface, fun _ h => Option.some.inj h ▸ hregion⟩
      · intro h
        exact ⟨h.interface_eq, h.inRegion wanted rfl⟩

theorem rank_le_of_le (htype : p.type ≤ q.type)
    (hservice : p.type = q.type → p.service ≤ q.service)
    (hendpoint : p.type = q.type → p.service = q.service → p.endpoint ≤ q.endpoint) :
    p.rank ≤ q.rank := by
  simp only [Place.rank, Prod.Lex.toLex_le_toLex]
  rcases Nat.lt_or_eq_of_le htype with hlt | heq
  · exact .inl hlt
  rcases Nat.lt_or_eq_of_le (hservice heq) with hlt | heq'
  · exact .inr ⟨heq, .inl hlt⟩
  · exact .inr ⟨heq, .inr ⟨heq', hendpoint heq heq'⟩⟩

theorem rank_injective : Function.Injective Place.rank := by
  rintro ⟨i, j, k⟩ ⟨i', j', k'⟩ h
  cases h
  rfl

/-- There is one endpoint at a place. -/
theorem StandsAt.unique (h : StandsAt catalog types interface region p e)
    (h' : StandsAt catalog types interface region p e') : e = e' := by
  obtain ⟨s, hs, -, he⟩ := h.service
  obtain ⟨s', hs', -, he'⟩ := h'.service
  obtain rfl : s = s' := Option.some.inj (hs.symm.trans hs')
  exact Option.some.inj (he.symm.trans he')

theorem exists_standsAt_iff :
    (∃ p, StandsAt catalog types interface region p e) ↔
      e ∈ offers catalog types interface region := by
  rw [mem_offers_iff]
  constructor
  · rintro ⟨p, ⟨s, hs, htype, he⟩, hfits⟩
    exact ⟨s, List.mem_of_getElem? hs, List.mem_of_getElem? htype, List.mem_of_getElem? he,
      Endpoint.suits_iff.mpr hfits⟩
  · rintro ⟨s, hs, htype, he, hsuits⟩
    obtain ⟨i, hi⟩ := List.getElem?_of_mem htype
    obtain ⟨j, hj⟩ := List.getElem?_of_mem hs
    obtain ⟨k, hk⟩ := List.getElem?_of_mem he
    exact ⟨⟨i, j, k⟩, ⟨s, hj, hi, hk⟩, Endpoint.suits_iff.mp hsuits⟩

/-! ## The first endpoint -/

section First

variable {α β : Type} {l : List α}

/-- The first of what the elements of a list bring comes from the first one that brings anything. -/
theorem exists_of_head?_flatMap {f : α → List β} {b : β} (h : (l.flatMap f).head? = some b) :
    ∃ (i : Nat) (a : α), l[i]? = some a ∧ (f a).head? = some b ∧
      ∀ j < i, ∀ a', l[j]? = some a' → f a' = [] := by
  induction l with
  | nil => cases h
  | cons first rest ih =>
      rw [List.flatMap_cons] at h
      cases hfirst : f first with
      | nil =>
          rw [hfirst, List.nil_append] at h
          obtain ⟨i, a, ha, hb, hbefore⟩ := ih h
          refine ⟨i + 1, a, ha, hb, ?_⟩
          rintro (_ | j) hj a' ha'
          · cases ha'
            exact hfirst
          · exact hbefore j (Nat.lt_of_succ_lt_succ hj) a' ha'
      | cons b' more =>
          rw [hfirst, List.cons_append, List.head?_cons] at h
          exact ⟨0, first, rfl, by rw [hfirst, List.head?_cons, h],
            fun j hj => absurd hj (Nat.not_lt_zero j)⟩

theorem flatMap_filter (q : α → Bool) (f : α → List β) :
    (l.filter q).flatMap f = l.flatMap fun a => if q a then f a else [] := by
  induction l with
  | nil => rfl
  | cons a rest ih => cases hq : q a <;> simp [hq, ih]

end First

/-- The endpoint that is offered first stands before all others. -/
theorem exists_place_of_head? (h : (offers catalog types interface region).head? = some e) :
    ∃ p, StandsAt catalog types interface region p e ∧
      ∀ q e', StandsAt catalog types interface region q e' → p.rank ≤ q.rank := by
  obtain ⟨i, type, hi, htype, hbeforeType⟩ := exists_of_head?_flatMap h
  rw [flatMap_filter] at htype
  obtain ⟨j, s, hj, hs, hbeforeService⟩ := exists_of_head?_flatMap htype
  split at hs
  case isFalse => cases hs
  case isTrue hkind =>
  rw [beq_iff_eq] at hkind
  subst hkind
  rw [List.head?_filter, List.find?_eq_some_iff_getElem] at hs
  obtain ⟨hsuits, k, hk, he, hbeforeEndpoint⟩ := hs
  have hplace : s.endpoints[k]? = some e := List.getElem?_eq_some_iff.mpr ⟨hk, he⟩
  refine ⟨⟨i, j, k⟩, ⟨⟨s, hj, hi, hplace⟩, Endpoint.suits_iff.mp hsuits⟩, ?_⟩
  rintro q e' ⟨⟨t, ht, hkind, he'⟩, hfits⟩
  have hmem : e' ∈ t.endpoints.filter fun e => e.suits interface region :=
    List.mem_filter.mpr ⟨List.mem_of_getElem? he', Endpoint.suits_iff.mpr hfits⟩
  -- at each of the three levels an earlier place would have been offered first
  refine rank_le_of_le ?_ ?_ ?_
  · by_contra hlt
    have hnone := hbeforeType q.type (Nat.lt_of_not_le hlt) _ hkind
    have htmem : t ∈ catalog.filter fun s => s.kind == t.kind :=
      List.mem_filter.mpr ⟨List.mem_of_getElem? ht, beq_self_eq_true _⟩
    exact List.ne_nil_of_mem hmem (List.flatMap_eq_nil_iff.mp hnone t htmem)
  · intro heq
    by_contra hlt
    have hnone := hbeforeService q.service (Nat.lt_of_not_le hlt) _ ht
    have hsame : t.kind = s.kind := Option.some.inj (hkind.symm.trans (heq ▸ hi))
    rw [if_pos (beq_iff_eq.mpr hsame)] at hnone
    exact List.ne_nil_of_mem hmem hnone
  · intro _ heq
    obtain rfl : t = s := Option.some.inj (ht.symm.trans (heq ▸ hj))
    by_contra hlt
    obtain ⟨_, hat⟩ := List.getElem?_eq_some_iff.mp he'
    have hnot := hbeforeEndpoint q.endpoint (Nat.lt_of_not_le hlt)
    rw [hat, (List.mem_filter.mp hmem).2] at hnot
    cases hnot

theorem head?_offers_iff :
    (offers catalog types interface region).head? = some e ↔
      ∃ p, StandsAt catalog types interface region p e ∧
        ∀ q e', StandsAt catalog types interface region q e' → p.rank ≤ q.rank := by
  constructor
  · exact exists_place_of_head?
  · rintro ⟨p, hplace, hleast⟩
    have hmem := exists_standsAt_iff.mp ⟨p, hplace⟩
    have hhead := List.head?_eq_some_head (List.ne_nil_of_mem hmem)
    obtain ⟨q, hplace', hleast'⟩ := exists_place_of_head? hhead
    have hsame : p = q :=
      rank_injective (le_antisymm (hleast q _ hplace') (hleast' p e hplace))
    subst hsame
    exact hhead.trans (congrArg some (hplace'.unique hplace))

/-! ## Its URL -/

theorem isWithoutSlashes_iff {text bare : String} :
    IsWithoutSlashes text bare ↔ withoutSlashes text = bare := by
  constructor
  · rintro ⟨⟨n, htext⟩, hbare⟩
    exact String.toList_injective (withoutSlashes_eq htext hbare)
  · rintro rfl
    refine ⟨exists_slashes text, fun hslash => ?_⟩
    rw [toList_withoutSlashes] at hslash
    have hne : text.toList.rdropWhile (· == '/') ≠ [] := by
      intro hnil
      rw [hnil] at hslash
      cases hslash
    have hlast := List.rdropWhile_last_not (· == '/') text.toList hne
    rw [List.getLast?_eq_some_getLast hne, Option.some.injEq] at hslash
    simp [hslash] at hlast

theorem selectEndpoint_eq_ok_iff {url : String} :
    selectEndpoint catalog types interface region = .ok url ↔
      ∃ e, (offers catalog types interface region).head? = some e ∧ withoutSlashes e.url = url := by
  unfold selectEndpoint
  cases offers catalog types interface region <;> simp

theorem selectEndpoint_eq_error_iff {error : Cloud.Error} :
    selectEndpoint catalog types interface region = .error error ↔
      error = .missingEndpoint ("/".intercalate types) ∧
        offers catalog types interface region = [] := by
  unfold selectEndpoint
  cases offers catalog types interface region <;> simp [eq_comm]

/-! ## Changes of a catalogue -/

theorem Shifts.filter_eq (h : Shifts types catalog other) {type : String} (htype : type ∈ types) :
    (other.filter fun s => s.kind == type) = catalog.filter fun s => s.kind == type := by
  cases h with
  | @swap front back s t hne =>
      by_cases hs : s.kind = type
      · have ht : ¬t.kind = type := fun ht => hne (hs.trans ht.symm)
        simp [hs, ht]
      · by_cases ht : t.kind = type <;> simp [hs, ht]
  | @insert front back s hnone =>
      have hs : ¬s.kind = type := fun hs => hnone (hs ▸ htype)
      simp [hs]

theorem offers_eq_of_shifts (h : Shifts types catalog other) :
    offers other types interface region = offers catalog types interface region := by
  unfold offers
  exact List.flatMap_congr fun type htype => by rw [h.filter_eq htype]

theorem offers_eq_of_eqvGen (h : Relation.EqvGen (Shifts types) catalog other) :
    offers other types interface region = offers catalog types interface region := by
  induction h with
  | rel _ _ hshifts => exact offers_eq_of_shifts hshifts
  | refl => rfl
  | symm _ _ _ ih => exact ih.symm
  | trans _ _ _ _ _ ih ih' => exact ih'.trans ih

theorem offers_append (types others : List String) :
    offers catalog (types ++ others) interface region =
      offers catalog types interface region ++ offers catalog others interface region :=
  List.flatMap_append

/-- A type of which no endpoint fits offers nothing. -/
theorem offers_append_cons {type : String}
    (h : ∀ s ∈ catalog, s.kind = type → ∀ e ∈ s.endpoints, ¬e.Fits interface region)
    (others : List String) :
    offers catalog (types ++ type :: others) interface region =
      offers catalog (types ++ others) interface region := by
  have hnone : offers catalog [type] interface region = [] := by
    refine List.eq_nil_iff_forall_not_mem.mpr fun e he => ?_
    obtain ⟨s, hs, htype, hmem, hsuits⟩ := mem_offers_iff.mp he
    exact h s hs (List.mem_singleton.mp htype) e hmem (Endpoint.suits_iff.mp hsuits)
  rw [← List.singleton_append, offers_append, offers_append, offers_append, hnone]
  rfl

/--
Of all endpoints that fit the one at the least place is chosen, and its URL is given without the
slashes at its end.  That no endpoint fits is told with the types that were asked for, and with
nothing else.  A type of which no endpoint fits does not hide those of the types after it.  Services
of different types may change places in the catalogue, and services of other types may be in it.
-/
theorem selectEndpoint_least (catalog : List Service) (types : List String) (interface : String)
    (region : Option String) :
    (∀ url, selectEndpoint catalog types interface region = .ok url ↔
      ∃ p e, StandsAt catalog types interface region p e ∧
        (∀ q e', StandsAt catalog types interface region q e' → p.rank ≤ q.rank) ∧
        IsWithoutSlashes e.url url) ∧
    (∀ error, selectEndpoint catalog types interface region = .error error ↔
      error = .missingEndpoint ("/".intercalate types) ∧
        ∀ p e, ¬StandsAt catalog types interface region p e) ∧
    (∀ type others,
      (∀ s ∈ catalog, s.kind = type → ∀ e ∈ s.endpoints, ¬e.Fits interface region) →
      ∀ url, selectEndpoint catalog (types ++ type :: others) interface region = .ok url ↔
        selectEndpoint catalog (types ++ others) interface region = .ok url) ∧
    ∀ other, Relation.EqvGen (Shifts types) catalog other →
      selectEndpoint other types interface region =
        selectEndpoint catalog types interface region := by
  refine ⟨fun url => ?_, fun error => ?_, fun type others h url => ?_, fun other h => ?_⟩
  · rw [selectEndpoint_eq_ok_iff]
    simp only [head?_offers_iff, isWithoutSlashes_iff]
    constructor
    · rintro ⟨e, ⟨p, hplace, hleast⟩, hurl⟩
      exact ⟨p, e, hplace, hleast, hurl⟩
    · rintro ⟨p, e, hplace, hleast, hurl⟩
      exact ⟨e, ⟨p, hplace, hleast⟩, hurl⟩
  · rw [selectEndpoint_eq_error_iff, List.eq_nil_iff_forall_not_mem]
    simp only [← exists_standsAt_iff, not_exists]
    exact and_congr_right fun _ => forall_comm
  · rw [selectEndpoint_eq_ok_iff, selectEndpoint_eq_ok_iff, offers_append_cons h]
  · rw [selectEndpoint, selectEndpoint, offers_eq_of_eqvGen h]

/-- A catalogue whose endpoint for volumes of the preferred type is in the first of two regions. -/
def twoRegions : List Service :=
  [{ kind := "volumev2"
     endpoints := [{ interface := "public", region := some "Two", url := "http://two/v2//" }] },
    { kind := "volumev3"
      endpoints := [{ interface := "public", regionId := some "One", url := "http://one/v3" }] }]

/-- In the second region the other type serves, also if the services are listed the other way round
and with one more between them; in a third region none does. -/
theorem selectEndpoint_least_region :
    let select (catalog : List Service) (types : List String) (region : String) :=
      selectEndpoint catalog types "public" (some region)
    let identity : Service := { kind := "identity" }
    select twoRegions volumeTypes "One" = .ok "http://one/v3" ∧
      select twoRegions volumeTypes "Two" = .ok "http://two/v2" ∧
      select twoRegions ["block-storage", "volumev2"] "Two" = .ok "http://two/v2" ∧
      (∀ v2 v3, twoRegions = [v2, v3] →
        select [v3, identity, v2] volumeTypes "Two" = .ok "http://two/v2") ∧
      select twoRegions volumeTypes "Three" =
        .error (.missingEndpoint "volumev3/block-storage/volumev2") := by
  intro select identity
  have hleast (region : String) :=
    selectEndpoint_least twoRegions volumeTypes "public" (some region)
  have hchosen {region : String} {e : Endpoint} {url : String}
      (hhead : (offers twoRegions volumeTypes "public" (some region)).head? = some e)
      (hurl : IsWithoutSlashes e.url url) : select twoRegions volumeTypes region = .ok url := by
    obtain ⟨p, hplace, hfirst⟩ := head?_offers_iff.mp hhead
    exact ((hleast region).1 url).mpr ⟨p, e, hplace, hfirst, hurl⟩
  have htwo : select twoRegions volumeTypes "Two" = .ok "http://two/v2" :=
    hchosen (e := { interface := "public", region := some "Two", url := "http://two/v2//" })
      (by decide) ⟨⟨2, rfl⟩, by decide⟩
  refine ⟨hchosen (e := { interface := "public", regionId := some "One", url := "http://one/v3" })
    (by decide) ⟨⟨0, rfl⟩, by decide⟩, htwo, ?_, ?_, ?_⟩
  · obtain ⟨-, -, hhidden, -⟩ := selectEndpoint_least twoRegions [] "public" (some "Two")
    have hunfit : ∀ s ∈ twoRegions, s.kind = "volumev3" → ∀ e ∈ s.endpoints,
        ¬e.Fits "public" (some "Two") := by
      simp only [← Endpoint.suits_iff]
      decide
    exact (hhidden "volumev3" ["block-storage", "volumev2"] hunfit _).mp htwo
  · rintro v2 v3 hcatalog
    obtain ⟨-, -, -, hshifted⟩ := hleast "Two"
    have hkinds : v2.kind = "volumev2" ∧ v3.kind = "volumev3" := by
      cases hcatalog
      exact ⟨rfl, rfl⟩
    have hswapped : Shifts volumeTypes [v2, v3] [v3, v2] :=
      .swap [] [] (by rw [hkinds.1, hkinds.2]; decide)
    have hinserted : Shifts volumeTypes [v3, v2] [v3, identity, v2] :=
      .insert [v3] [v2] (by decide)
    rw [hcatalog] at hshifted htwo
    exact (hshifted _ (.trans _ _ _ (.rel _ _ hswapped) (.rel _ _ hinserted))).trans htwo
  · obtain ⟨-, hmissing, -⟩ := hleast "Three"
    refine (hmissing _).mpr ⟨by decide, fun p e hplace => ?_⟩
    have hnone : offers twoRegions volumeTypes "public" (some "Three") = [] := by decide
    have hmem := exists_standsAt_iff.mp ⟨p, hplace⟩
    rw [hnone] at hmem
    cases hmem

end NodeVolumes.Rest
