import NodeVolumes.Kubelet.Options
import NodeVolumes.Proofs.Json.Spacing
import NodeVolumes.Proofs.SortedMap

/-!
# Options told by members

Options are decoded member by member, as the object that holds them is read.  A text decodes
exactly if it holds an object whose members fit (`Fits`), and the options are then those members
put together (`parse_eq_ok_iff`).
-/

namespace NodeVolumes.Kubelet.Options

open Json

/-! ## Members that fit -/

/-- The text of a member with a meaning, or its absence, if the value is fit for either. -/
def text? : Json → Option (Option String)
  | .null => some Option.none
  | .string text => some (some text)
  | _ => Option.none

/-- Each member with a meaning is there once at most, and is a string or null. -/
structure Fits (ms : List (String × Json)) : Prop where
  once : ∀ key : Key, (ms.map Prod.fst).count key.name ≤ 1
  texts : ∀ key : Key, ∀ value, (key.name, value) ∈ ms →
    value = .null ∨ ∃ text, value = .string text

def put (o : Options) (m : String × Json) : Options :=
  match Key.ofName? m.1 with
  | .none => { o with extra := o.extra.insert m.1 m.2 }
  | some key => o.set key ((text? m.2).getD Option.none)

def ofMembers (ms : List (String × Json)) : Options :=
  ms.foldl put {}

/-- The members fit when those of some keys have been seen before. -/
def FitsAfter : List Key → List (String × Json) → Prop
  | _, [] => True
  | seen, m :: rest =>
      match Key.ofName? m.1 with
      | .none => FitsAfter seen rest
      | some key => key ∉ seen ∧ (text? m.2).isSome ∧ FitsAfter (key :: seen) rest

theorem name_injective {key other : Key} (h : key.name = other.name) : key = other := by
  cases key <;> cases other <;> first | rfl | (revert h; decide)

theorem ofName?_eq_some_iff {name : String} {key : Key} :
    Key.ofName? name = some key ↔ name = key.name := by
  constructor
  · intro h
    have hname := List.find?_some h
    exact (of_decide_eq_true hname).symm
  · rintro rfl
    cases key <;> rfl

theorem ofName?_eq_none_iff {name : String} :
    Key.ofName? name = .none ↔ ∀ key : Key, key.name ≠ name := by
  constructor
  · rintro h key rfl
    rw [ofName?_eq_some_iff.mpr rfl] at h
    cases h
  · intro h
    cases hkey : Key.ofName? name with
    | none => rfl
    | some key => exact absurd (ofName?_eq_some_iff.mp hkey).symm (h key)

theorem isSome_text?_iff {value : Json} :
    (text? value).isSome ↔ value = .null ∨ ∃ text, value = .string text := by
  cases value <;> simp [text?]

theorem fits_cons_of_other {m : String × Json} {rest : List (String × Json)}
    (h : ∀ key : Key, key.name ≠ m.1) : Fits (m :: rest) ↔ Fits rest := by
  have hcount : ∀ key : Key,
      ((m :: rest).map Prod.fst).count key.name = (rest.map Prod.fst).count key.name := by
    intro key
    rw [List.map_cons, List.count_cons_of_ne (h key).symm]
  have hmem : ∀ key : Key, ∀ value, (key.name, value) ∈ m :: rest ↔ (key.name, value) ∈ rest := by
    intro key value
    rw [List.mem_cons, or_iff_right]
    rintro rfl
    exact h key rfl
  constructor
  · intro hfits
    exact ⟨fun key => hcount key ▸ hfits.once key,
      fun key value hvalue => hfits.texts key value ((hmem key value).mpr hvalue)⟩
  · intro hfits
    exact ⟨fun key => (hcount key).symm ▸ hfits.once key,
      fun key value hvalue => hfits.texts key value ((hmem key value).mp hvalue)⟩

theorem fits_cons_of_key {key : Key} {value : Json} {rest : List (String × Json)} :
    Fits ((key.name, value) :: rest) ↔
      (text? value).isSome ∧ key.name ∉ rest.map Prod.fst ∧ Fits rest := by
  rw [isSome_text?_iff]
  constructor
  · intro hfits
    have honce := hfits.once key
    rw [List.map_cons, List.count_cons_self] at honce
    refine ⟨hfits.texts key value List.mem_cons_self, ?_, ?_, ?_⟩
    · intro hmem
      have hpos := List.count_pos_iff.mpr hmem
      omega
    · intro other
      have hother := hfits.once other
      rw [List.map_cons, List.count_cons] at hother
      omega
    · intro other value hvalue
      exact hfits.texts other value (List.mem_cons_of_mem _ hvalue)
  · rintro ⟨hvalue, hnew, hfits⟩
    constructor
    · intro other
      rw [List.map_cons, List.count_cons]
      by_cases hsame : other = key
      · subst hsame
        rw [List.count_eq_zero.mpr hnew]
        simp
      · have hne : (key.name == other.name) = false :=
          beq_false_of_ne fun h => hsame (name_injective h).symm
        simpa [hne] using hfits.once other
    · intro other v hv
      rcases List.mem_cons.mp hv with hsame | hv
      · rw [(Prod.mk.inj hsame).2]
        exact hvalue
      · exact hfits.texts other v hv

theorem fitsAfter_iff {seen : List Key} {ms : List (String × Json)} :
    FitsAfter seen ms ↔ (∀ key ∈ seen, key.name ∉ ms.map Prod.fst) ∧ Fits ms := by
  induction ms generalizing seen with
  | nil => simp [FitsAfter, Fits.mk]
  | cons m rest ih =>
      obtain ⟨name, value⟩ := m
      unfold FitsAfter
      cases hkey : Key.ofName? name with
      | none =>
          have hother := ofName?_eq_none_iff.mp hkey
          rw [fits_cons_of_other hother]
          dsimp only
          rw [ih]
          simp [hother]
      | some key =>
          obtain rfl := ofName?_eq_some_iff.mp hkey
          dsimp only
          rw [ih, fits_cons_of_key, List.map_cons]
          constructor
          · rintro ⟨hnew, hvalue, hseen, hfits⟩
            have hkey := hseen key List.mem_cons_self
            refine ⟨fun other hother hmem => ?_, hvalue, hkey, hfits⟩
            rcases List.mem_cons.mp hmem with hsame | hmem
            · exact hnew (name_injective hsame ▸ hother)
            · exact hseen other (List.mem_cons_of_mem key hother) hmem
          · rintro ⟨hseen, hvalue, hkey, hfits⟩
            refine ⟨fun hold => hseen key hold List.mem_cons_self, hvalue, ?_, hfits⟩
            intro other hother
            rcases List.mem_cons.mp hother with rfl | hother
            · exact hkey
            · exact fun hmem => hseen other hother (List.mem_cons_of_mem _ hmem)

/-! ## Decoding -/

variable {α : Type} {levels : Nat} {c c' : Cursor} {o o' : Options}

/-- A string is decoded where a value is read that is one. -/
theorem text_eq_ok_iff {t : String} :
    Decoder.text levels c = .ok (t, c') ↔ readValue levels c = .ok (.string t, c') := by
  rw [readValue_eq_ok_iff]
  unfold Decoder.text Decoder.named
  dsimp only
  constructor
  · intro h
    split at h
    · cases h
    · rename_i rest head
      exact .string head h
    · exact absurd h (wrongType_ne_ok _ _ _)
  · intro h
    cases h with
    | string head read =>
        rw [head]
        exact read

theorem optional_text_eq_ok_iff {value : Option String} :
    Decoder.optional .text levels c = .ok (value, c') ↔
      ∃ v, readValue levels c = .ok (v, c') ∧ text? v = some value := by
  simp only [readValue_eq_ok_iff]
  unfold Decoder.optional
  dsimp only
  constructor
  · intro h
    split at h
    · rename_i rest head
      obtain ⟨c₁, read, hvalue⟩ := exists_of_bind_eq_ok h
      cases hvalue
      exact ⟨.null, .null head read, rfl⟩
    · obtain ⟨⟨t, c₁⟩, read, hvalue⟩ := exists_of_bind_eq_ok h
      cases hvalue
      have hstring := readValue_eq_ok_iff.mp (text_eq_ok_iff.mp read)
      rw [skipSpace_skipSpace] at hstring
      exact ⟨.string t, hstring, rfl⟩
  · rintro ⟨v, h, hvalue⟩
    cases h with
    | null head read =>
        cases hvalue
        rw [head]
        exact bind_eq_ok_iff.mpr ⟨_, read, rfl⟩
    | string head read =>
        cases hvalue
        rw [head]
        refine bind_eq_ok_iff.mpr ⟨(_, c'), text_eq_ok_iff.mpr ?_, rfl⟩
        rw [readValue_eq_ok_iff, skipSpace_skipSpace]
        exact .string head read
    | true | false | negative | number | array | object => cases hvalue

theorem memberLoop_of_read {fuel : Nat} {first : Bool} {seen : List Key}
    {ms : List (String × Json)}
    (read : Json.memberLoop (fun _ => readValue levels) fuel first c = .ok (ms, c'))
    (fits : FitsAfter seen ms) :
    Options.memberLoop levels fuel first seen o c = .ok (ms.foldl put o, c') := by
  induction fuel generalizing first seen o c ms with
  | zero => cases read
  | succ fuel ih =>
      rw [Options.memberLoop]
      rcases memberLoop_succ_eq_ok_iff.mp read with ⟨hnext, rfl⟩ |
        ⟨start, name, c₁, c₂, value, c₃, more, hnext, hname, hcolon, hvalue, hmore, rfl⟩
      · exact bind_eq_ok_iff.mpr ⟨_, ofExcept_eq_ok_iff.mpr hnext, rfl⟩
      · refine bind_eq_ok_iff.mpr ⟨_, ofExcept_eq_ok_iff.mpr hnext, ?_⟩
        refine bind_eq_ok_iff.mpr ⟨_, ofExcept_eq_ok_iff.mpr hname, ?_⟩
        rw [FitsAfter] at fits
        rw [List.foldl_cons, put]
        cases hkey : Key.ofName? name with
        | none =>
            simp only [hkey] at fits ⊢
            refine bind_eq_ok_iff.mpr ⟨_, ofExcept_eq_ok_iff.mpr hcolon, ?_⟩
            exact bind_eq_ok_iff.mpr ⟨_, ofExcept_eq_ok_iff.mpr hvalue, ih hmore fits⟩
        | some key =>
            simp only [hkey] at fits ⊢
            obtain ⟨hnew, hfit, fits⟩ := fits
            obtain ⟨text, htext⟩ := Option.isSome_iff_exists.mp hfit
            have hdecode := optional_text_eq_ok_iff.mpr ⟨value, hvalue, htext⟩
            rw [if_neg hnew, htext]
            refine bind_eq_ok_iff.mpr ⟨_, ofExcept_eq_ok_iff.mpr hcolon, ?_⟩
            exact bind_eq_ok_iff.mpr ⟨_, ofExcept_eq_ok_iff.mpr hdecode, ih hmore fits⟩

theorem exists_read_of_memberLoop {fuel : Nat} {first : Bool} {seen : List Key}
    (h : Options.memberLoop levels fuel first seen o c = .ok (o', c')) :
    ∃ ms, Json.memberLoop (fun _ => readValue levels) fuel first c = .ok (ms, c') ∧
      FitsAfter seen ms ∧ o' = ms.foldl put o := by
  induction fuel generalizing first seen o c with
  | zero => cases h
  | succ fuel ih =>
      rw [Options.memberLoop] at h
      obtain ⟨⟨more, start⟩, hnext, h⟩ := exists_of_bind_eq_ok h
      rw [ofExcept_eq_ok_iff] at hnext
      cases more with
      | false =>
          cases h
          exact ⟨[], memberLoop_succ_eq_ok_iff.mpr (.inl ⟨hnext, rfl⟩), trivial, rfl⟩
      | true =>
          obtain ⟨⟨name, c₁⟩, hname, h⟩ := exists_of_bind_eq_ok h
          rw [ofExcept_eq_ok_iff] at hname
          cases hkey : Key.ofName? name with
          | none =>
              simp only [hkey] at h
              obtain ⟨c₂, hcolon, h⟩ := exists_of_bind_eq_ok h
              obtain ⟨⟨value, c₃⟩, hvalue, h⟩ := exists_of_bind_eq_ok h
              rw [ofExcept_eq_ok_iff] at hcolon hvalue
              obtain ⟨ms, hmore, hfits, ho⟩ := ih h
              refine ⟨(name, value) :: ms, memberLoop_succ_eq_ok_iff.mpr (.inr ⟨start, name, c₁, c₂,
                value, c₃, ms, hnext, hname, hcolon, hvalue, hmore, rfl⟩), ?_, ?_⟩
              · simpa only [FitsAfter, hkey] using hfits
              · simpa only [List.foldl_cons, put, hkey] using ho
          | some key =>
              simp only [hkey] at h
              split at h
              · cases h
              · rename_i hnew
                obtain ⟨c₂, hcolon, h⟩ := exists_of_bind_eq_ok h
                obtain ⟨⟨text, c₃⟩, hdecode, h⟩ := exists_of_bind_eq_ok h
                rw [ofExcept_eq_ok_iff] at hcolon hdecode
                obtain ⟨value, hvalue, htext⟩ := optional_text_eq_ok_iff.mp hdecode
                obtain ⟨ms, hmore, hfits, ho⟩ := ih h
                refine ⟨(name, value) :: ms, memberLoop_succ_eq_ok_iff.mpr (.inr ⟨start, name, c₁,
                  c₂, value, c₃, ms, hnext, hname, hcolon, hvalue, hmore, rfl⟩), ?_, ?_⟩
                · simp only [FitsAfter, hkey]
                  exact ⟨hnew, htext ▸ rfl, hfits⟩
                · simpa only [List.foldl_cons, put, hkey, htext, Option.getD_some] using ho

theorem decoder_eq_ok_iff {inner : Nat} :
    decoder (inner + 1) c = .ok (o, c') ↔
      ∃ ms, objectAt inner c = .ok (ms, c') ∧ Fits ms ∧ o = ofMembers ms := by
  simp only [objectAt_eq_ok_iff]
  unfold decoder
  dsimp only
  constructor
  · intro h
    split at h
    · cases h
    · rename_i hlevels
      cases hlevels
    · rename_i rest more head hlevels
      cases hlevels
      cases hloop : Options.memberLoop inner (c.skipSpace.rest.length + 1) true [] {}
          c.skipSpace.advance with
      | error stop => simp [hloop] at h
      | ok result =>
          simp only [hloop, Except.ok.injEq] at h
          subst h
          obtain ⟨ms, hread, hfits, ho⟩ := exists_read_of_memberLoop hloop
          exact ⟨ms, ⟨_, head, hread⟩, (fitsAfter_iff.mp hfits).2, ho⟩
    · exact absurd h (wrongType_ne_ok _ _ _)
  · rintro ⟨ms, ⟨rest, head, read⟩, fits, rfl⟩
    have hfits : FitsAfter [] ms := fitsAfter_iff.mpr ⟨fun _ h => absurd h List.not_mem_nil, fits⟩
    have hloop : Options.memberLoop inner (c.skipSpace.rest.length + 1) true [] {}
        c.skipSpace.advance = .ok (ofMembers ms, c') := memberLoop_of_read read hfits
    split
    case h_3 hlevels =>
      cases hlevels
      rw [hloop]
    case h_1 hnil =>
      rw [head] at hnil
      cases hnil
    case h_2 hlevels => cases hlevels
    case h_4 hother => exact (hother rest inner head rfl).elim

/-- A text decodes exactly if it holds an object whose members fit. -/
theorem parse_eq_ok_iff {raw : String} :
    parse raw = .ok o ↔ ∃ ms, members raw = .ok ms ∧ Fits ms ∧ o = ofMembers ms := by
  have hparse : parse raw = .ok o ↔ decode decoder raw = .ok o := by
    unfold parse
    cases decode decoder raw <;> simp
  simp only [hparse, decode, members, readAll_eq_ok_iff]
  constructor
  · rintro ⟨c, hread, hend⟩
    obtain ⟨ms, hms, hfits, ho⟩ := decoder_eq_ok_iff.mp hread
    exact ⟨ms, ⟨c, hms, hend⟩, hfits, ho⟩
  · rintro ⟨ms, ⟨c, hms, hend⟩, hfits, ho⟩
    exact ⟨c, decoder_eq_ok_iff.mpr ⟨ms, hms, hfits, ho⟩, hend⟩

/-! ## What the members tell -/

section Told

variable {ms ms' : List (String × Json)} {key : Key} {name : String}

theorem get_put_of_ne {m : String × Json} (h : m.1 ≠ key.name) (o : Options) :
    (o.put m).get key = o.get key := by
  unfold put
  cases hkey : Key.ofName? m.1 with
  | none => cases key <;> rfl
  | some other =>
      have hother : key ≠ other := by
        rintro rfl
        exact h (ofName?_eq_some_iff.mp hkey)
      exact (get_set o other key _).trans (if_neg hother)

theorem get_put_self (key : Key) (value : Json) (o : Options) :
    (o.put (key.name, value)).get key = (text? value).getD Option.none := by
  have hkey : Key.ofName? key.name = some key := ofName?_eq_some_iff.mpr rfl
  simp only [put, hkey]
  exact (get_set o key key _).trans (if_pos rfl)

theorem get_foldl_put_of_notMem (h : key.name ∉ ms.map Prod.fst) (o : Options) :
    (ms.foldl put o).get key = o.get key := by
  induction ms generalizing o with
  | nil => rfl
  | cons m rest ih =>
      rw [List.map_cons, List.mem_cons, not_or] at h
      rw [List.foldl_cons, ih h.2, get_put_of_ne fun heq => h.1 heq.symm]

theorem get_ofMembers (fits : Fits ms) {value : Json} (h : (key.name, value) ∈ ms) :
    (ofMembers ms).get key = (text? value).getD Option.none := by
  obtain ⟨front, rest, rfl⟩ := List.append_of_mem h
  have honce := fits.once key
  rw [List.map_append, List.map_cons, List.count_append, List.count_cons_self] at honce
  have hrest : key.name ∉ rest.map Prod.fst := List.count_eq_zero.mp (by omega)
  rw [ofMembers, List.foldl_append, List.foldl_cons, get_foldl_put_of_notMem hrest, get_put_self]

theorem get_ofMembers_of_notMem (h : key.name ∉ ms.map Prod.fst) :
    (ofMembers ms).get key = Option.none := by
  rw [ofMembers, get_foldl_put_of_notMem h]
  cases key <;> rfl

theorem get_ofMembers_iff (fits : Fits ms) {text : String} :
    (ofMembers ms).get key = some text ↔ (key.name, .string text) ∈ ms := by
  constructor
  · intro h
    by_cases hmem : key.name ∈ ms.map Prod.fst
    · obtain ⟨⟨name, value⟩, hvalue, hname⟩ := List.mem_map.mp hmem
      dsimp only at hname
      subst hname
      rw [get_ofMembers fits hvalue] at h
      rcases fits.texts key value hvalue with rfl | ⟨found, rfl⟩
      · cases h
      · cases h
        exact hvalue
    · rw [get_ofMembers_of_notMem hmem] at h
      cases h
  · intro h
    exact get_ofMembers fits h

theorem get_ofMembers_eq_none_iff (fits : Fits ms) :
    (ofMembers ms).get key = Option.none ↔
      key.name ∉ ms.map Prod.fst ∨ (key.name, .null) ∈ ms := by
  constructor
  · intro hnone
    by_cases hmem : key.name ∈ ms.map Prod.fst
    · obtain ⟨⟨name, value⟩, hvalue, hname⟩ := List.mem_map.mp hmem
      dsimp only at hname
      subst hname
      rcases fits.texts key value hvalue with rfl | ⟨text, rfl⟩
      · exact .inr hvalue
      · rw [get_ofMembers fits hvalue] at hnone
        cases hnone
    · exact .inl hmem
  · rintro (hmissing | hnull)
    · exact get_ofMembers_of_notMem hmissing
    · exact get_ofMembers fits hnull

theorem extra_foldl_put (h : ∀ key : Key, key.name ≠ name) (o : Options) :
    (ms.foldl put o).extra.get? name =
      (SortedMap.lookupEntry name ms.reverse).or (o.extra.get? name) := by
  induction ms generalizing o with
  | nil => rfl
  | cons m rest ih =>
      rw [List.foldl_cons, ih, List.reverse_cons, SortedMap.lookupEntry_append]
      unfold put
      cases hkey : Key.ofName? m.1 with
      | none =>
          have hinsert : (o.extra.insert m.1 m.2).get? name =
              if name = m.1 then some m.2 else o.extra.get? name :=
            SortedMap.get?_insert o.extra m.1 m.2 name
          dsimp only
          rw [hinsert]
          by_cases hname : name = m.1
          · simp [SortedMap.lookupEntry, hname]
          · simp [SortedMap.lookupEntry, hname]
      | some key =>
          have hname : name ≠ m.1 := by
            rintro rfl
            exact h key (ofName?_eq_some_iff.mp hkey).symm
          have hextra : (o.set key ((text? m.2).getD Option.none)).extra = o.extra := by
            cases key <;> rfl
          dsimp only
          rw [hextra]
          simp [SortedMap.lookupEntry, hname]

theorem extra_foldl_put_key (key : Key) (o : Options) :
    (ms.foldl put o).extra.get? key.name = o.extra.get? key.name := by
  induction ms generalizing o with
  | nil => rfl
  | cons m rest ih =>
      rw [List.foldl_cons, ih]
      unfold put
      cases hkey : Key.ofName? m.1 with
      | none =>
          have hne : key.name ≠ m.1 := ofName?_eq_none_iff.mp hkey key
          exact (SortedMap.get?_insert _ _ _ _).trans (if_neg hne)
      | some other => cases other <;> rfl

theorem ext_get {o o' : Options} (h : ∀ key, o.get key = o'.get key) (extra : o.extra = o'.extra) :
    o = o' := by
  have hvolumeId : o.volumeId = o'.volumeId := h .volumeId
  have hwwn : o.wwn = o'.wwn := h .wwn
  have hactual : o.actualReadWrite = o'.actualReadWrite := h .actualReadWrite
  have hfsType : o.fsType = o'.fsType := h .fsType
  have hreadWrite : o.readWrite = o'.readWrite := h .readWrite
  have hname : o.pvOrVolumeName = o'.pvOrVolumeName := h .pvOrVolumeName
  have hfsGroup : o.fsGroup = o'.fsGroup := h .fsGroup
  have hmountsDir : o.mountsDir = o'.mountsDir := h .mountsDir
  cases o
  cases o'
  simp_all

/-- The members of each name are the same, in the same order. -/
def SameByName (ms ms' : List (String × Json)) : Prop :=
  ∀ name, ms.filter (fun m => m.1 == name) = ms'.filter (fun m => m.1 == name)

theorem SameByName.mem_iff (same : SameByName ms ms') {m : String × Json} : m ∈ ms ↔ m ∈ ms' := by
  have hmem : ∀ ms : List (String × Json), m ∈ ms ↔ m ∈ ms.filter (fun n => n.1 == m.1) := by
    intro ms
    simp [List.mem_filter]
  rw [hmem ms, same m.1, ← hmem ms']

theorem SameByName.count_eq (same : SameByName ms ms') (name : String) :
    (ms.map Prod.fst).count name = (ms'.map Prod.fst).count name := by
  have hcount : ∀ ms : List (String × Json),
      (ms.map Prod.fst).count name = (ms.filter fun m => m.1 == name).length := by
    intro ms
    rw [List.count, List.countP_map, List.countP_eq_length_filter]
    rfl
  rw [hcount ms, same name, hcount ms']

theorem SameByName.lookupEntry_eq (same : SameByName ms ms') (name : String) :
    SortedMap.lookupEntry name ms.reverse = SortedMap.lookupEntry name ms'.reverse := by
  have hlookup : ∀ ms : List (String × Json), SortedMap.lookupEntry name ms =
      SortedMap.lookupEntry name (ms.filter fun m => m.1 == name) := by
    intro ms
    induction ms with
    | nil => rfl
    | cons m rest ih =>
        by_cases h : m.1 = name
        · simp [SortedMap.lookupEntry, h]
        · have hne : name ≠ m.1 := fun heq => h heq.symm
          simp [SortedMap.lookupEntry, h, hne, ih]
  rw [hlookup ms.reverse, List.filter_reverse, same name, ← List.filter_reverse,
    ← hlookup ms'.reverse]

theorem SameByName.fits (same : SameByName ms ms') (fits : Fits ms) : Fits ms' :=
  ⟨fun key => same.count_eq key.name ▸ fits.once key,
    fun key value h => fits.texts key value (same.mem_iff.mpr h)⟩

/-- The order of members matters only among those of one name. -/
theorem SameByName.ofMembers_eq (same : SameByName ms ms') (fits : Fits ms) :
    ofMembers ms = ofMembers ms' := by
  refine ext_get (fun key => Option.ext fun text => ?_) (SortedMap.ext_get? fun name => ?_)
  · rw [get_ofMembers_iff fits, get_ofMembers_iff (same.fits fits), same.mem_iff]
  · cases hkey : Key.ofName? name with
    | none =>
        have hother := ofName?_eq_none_iff.mp hkey
        rw [ofMembers, ofMembers, extra_foldl_put hother, extra_foldl_put hother,
          same.lookupEntry_eq]
    | some key =>
        rw [ofName?_eq_some_iff.mp hkey, ofMembers, ofMembers, extra_foldl_put_key,
          extra_foldl_put_key]

/-- The options say what the members say, and nothing else. -/
structure Tells (ms : List (String × Json)) (o : Options) : Prop where
  text : ∀ key text, o.get key = some text ↔ (key.name, .string text) ∈ ms
  absent : ∀ key : Key,
    o.get key = Option.none ↔ key.name ∉ ms.map Prod.fst ∨ (key.name, .null) ∈ ms
  /-- Any other name has its last value. -/
  extra : ∀ name value, o.extra.get? name = some value ↔
    (∀ key : Key, key.name ≠ name) ∧
      ∃ front rest, ms = front ++ (name, value) :: rest ∧ name ∉ rest.map Prod.fst

theorem tells_ofMembers (fits : Fits ms) : Tells ms (ofMembers ms) := by
  refine ⟨fun key text => get_ofMembers_iff fits, fun key => get_ofMembers_eq_none_iff fits, ?_⟩
  intro name value
  cases hkey : Key.ofName? name with
  | none =>
      have hother := ofName?_eq_none_iff.mp hkey
      have hempty : ({} : Options).extra.get? name = Option.none := rfl
      rw [ofMembers, extra_foldl_put hother, hempty, Option.or_none,
        SortedMap.lookupEntry_reverse_eq_some_iff]
      exact (and_iff_right hother).symm
  | some key =>
      obtain rfl := ofName?_eq_some_iff.mp hkey
      rw [ofMembers, extra_foldl_put_key]
      constructor
      · intro h
        cases h
      · rintro ⟨hother, -⟩
        exact absurd rfl (hother key)

end Told

/-- Options are decoded from every object whose members fit, and from nothing else.  They say what
the members say, in whatever order and with whatever spaces between them these are written. -/
theorem parse_tells (s : String) :
    (∀ entries, Json.parse s = .ok (.object entries) ↔
      ∃ ms, members s = .ok ms ∧ entries = (SortedMap.ofList ms).entries) ∧
    (∀ ms, members s = .ok ms → Fits ms → ∃ o, parse s = .ok o ∧ Tells ms o ∧
      ∀ s' ms', members s' = .ok ms' → SameByName ms ms' ∨ squeezed s = squeezed s' →
        parse s' = .ok o) ∧
    ((∀ ms, members s = .ok ms → ¬Fits ms) → ∃ fault, parse s = .error (.invalid fault)) := by
  refine ⟨fun entries => parse_eq_object_iff, fun ms hms fits => ?_, fun hunfit => ?_⟩
  · refine ⟨ofMembers ms, parse_eq_ok_iff.mpr ⟨ms, hms, fits, rfl⟩, tells_ofMembers fits, ?_⟩
    rintro s' ms' hms' (same | hspaces)
    · exact parse_eq_ok_iff.mpr ⟨ms', hms', same.fits fits, same.ofMembers_eq fits⟩
    · have hsqueezed := members_squeezed hms
      rw [hspaces, members_squeezed hms'] at hsqueezed
      cases hsqueezed
      exact parse_eq_ok_iff.mpr ⟨ms, hms', fits, rfl⟩
  · cases hparse : parse s with
    | error reason =>
        obtain ⟨fault⟩ := reason
        exact ⟨fault, rfl⟩
    | ok o =>
        obtain ⟨ms, hms, fits, -⟩ := parse_eq_ok_iff.mp hparse
        exact absurd fits (hunfit ms hms)

/-- An object written in another order, with an escape in a name, and with other spaces. -/
theorem parse_tells_respelled :
    ∃ o, parse "\x7b\"wwn\":\"50 05\",\"x\":1,\"volumeID\":null,\"x\":[true,\x7b\x7d]\x7d" = .ok o ∧
      o.wwn = some "50 05" ∧ o.volumeId = Option.none ∧
      o.extra.get? "x" = some (.array [.bool true, .object []]) ∧
      parse "\x7b\"x\":1,\"volumeID\":null,\"\\u0077wn\":\"50 05\",\"x\":[true,\x7b\x7d]\x7d" =
        .ok o ∧
      parse "\x7b \"wwn\" : \"50 05\", \"x\":1,\n\"volumeID\":null,\"x\":[true, \x7b\x7d]\x7d " =
        .ok o := by
  let ms : List (String × Json) := [("wwn", .string "50 05"), ("x", .number (.integer 1)),
    ("volumeID", .null), ("x", .array [.bool true, .object []])]
  let ms' : List (String × Json) := [("x", .number (.integer 1)), ("volumeID", .null),
    ("wwn", .string "50 05"), ("x", .array [.bool true, .object []])]
  have hms : members
      "\x7b\"wwn\":\"50 05\",\"x\":1,\"volumeID\":null,\"x\":[true,\x7b\x7d]\x7d" = .ok ms := by
    decide +kernel
  have fits : Fits ms := by
    constructor
    · intro key
      cases key <;> decide
    · intro key value h
      cases key <;> simp_all [ms, Key.name]
  have same : SameByName ms ms' := by
    intro name
    by_cases hwwn : name = "wwn"
    · subst hwwn
      rfl
    by_cases hx : name = "x"
    · subst hx
      rfl
    simp [ms, ms', List.filter_cons, Ne.symm hwwn, Ne.symm hx]
  obtain ⟨o, hparse, tells, hagain⟩ := (parse_tells _).2.1 ms hms fits
  refine ⟨o, hparse, (tells.text .wwn "50 05").mpr ?_, (tells.absent .volumeId).mpr ?_,
    (tells.extra "x" _).mpr ⟨?_, ms.take 3, [], ?_, ?_⟩, hagain _ ms' ?_ (.inl same),
    hagain _ ms ?_ (.inr ?_)⟩
  · simp [ms, Key.name]
  · simp [ms, Key.name]
  · intro key
    cases key <;> decide
  · rfl
  · simp
  all_goals decide +kernel

end NodeVolumes.Kubelet.Options
