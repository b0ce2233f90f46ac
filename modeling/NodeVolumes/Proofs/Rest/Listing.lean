import Mathlib.Data.Finset.Card
import Mathlib.Logic.Relation
import NodeVolumes.Host.Station
import NodeVolumes.Proofs.Rest.Peer

/-!
# Listings

A listing goes from page to page along their links (`trail`).  Where a link leads is up to the
peer; that a page links to itself is the only way round that ends a listing.  So a listing asks for
no page twice exactly if no page that it comes to leads back to itself by way of others
(`listing_ends_iff`).  Then it ends after as many requests as there are pages at most; otherwise it
is still going on with any fuel.
-/

namespace NodeVolumes.Rest

open Cloud Relation

/-! ## From page to page -/

/-- What a page brings: its items and where the next page is, if there is one. -/
abbrev Visit (α : Type) : Type :=
  Http.Url → Except Error (List α × Option Http.Url)

section Trail

variable {α : Type} {visit : Visit α}
variable {url next page : Http.Url} {items : List α} {n m : Nat}

/-- A page can be read and is followed by another. -/
def Leads (visit : Visit α) (url next : Http.Url) : Prop :=
  ∃ items, visit url = .ok (items, some next)

/-- The pages that are asked for from one on, with fuel for a number of them. -/
def trail (visit : Visit α) : Nat → Http.Url → List Http.Url
  | 0, _ => []
  | fuel + 1, url =>
      url :: match visit url with
        | .ok (_, some next) => trail visit fuel next
        | _ => []

/-- The items of these pages if there are no more, or why one of them cannot be read. -/
def gathered (visit : Visit α) : Nat → Http.Url → Except Error (Option (List α))
  | 0, _ => .ok none
  | fuel + 1, url =>
      match visit url with
      | .error e => .error e
      | .ok (items, none) => .ok (some items)
      | .ok (items, some next) => (gathered visit fuel next).map (·.map (items ++ ·))

theorem leads_iff : Leads visit url next ↔ (visit url).toOption.bind Prod.snd = some next := by
  unfold Leads
  rcases visit url with e | ⟨items, next?⟩ <;> simp [Except.toOption, Prod.ext_iff]

theorem trail_of_leads (h : Leads visit url next) :
    trail visit (n + 1) url = url :: trail visit n next := by
  obtain ⟨items, hvisit⟩ := h
  simp only [trail, hvisit]

theorem trail_of_not_leads (h : ∀ next, ¬Leads visit url next) :
    trail visit (n + 1) url = [url] := by
  rcases hvisit : visit url with e | ⟨items, _ | next⟩
  · simp only [trail, hvisit]
  · simp only [trail, hvisit]
  · exact absurd ⟨items, hvisit⟩ (h next)

theorem reaches_of_mem_trail (h : page ∈ trail visit n url) :
    ReflTransGen (Leads visit) url page := by
  induction n generalizing url with
  | zero => cases h
  | succ n ih =>
      by_cases hleads : ∃ next, Leads visit url next
      · obtain ⟨next, hleads⟩ := hleads
        rw [trail_of_leads hleads] at h
        rcases List.mem_cons.mp h with rfl | h
        · exact .refl
        · exact .head hleads (ih h)
      · rw [trail_of_not_leads (not_exists.mp hleads)] at h
        rw [List.mem_singleton.mp h]

theorem exists_mem_trail (h : ReflTransGen (Leads visit) url page) :
    ∃ n, page ∈ trail visit n url := by
  induction h using ReflTransGen.head_induction_on with
  | refl =>
      refine ⟨1, ?_⟩
      simp [trail]
  | head hleads _ ih =>
      obtain ⟨n, hn⟩ := ih
      refine ⟨n + 1, ?_⟩
      rw [trail_of_leads hleads]
      exact List.mem_cons_of_mem _ hn

/-- A page that leads back to itself is ahead. -/
def GoesRound (visit : Visit α) (url : Http.Url) : Prop :=
  ∃ page, ReflTransGen (Leads visit) url page ∧ TransGen (Leads visit) page page

theorem GoesRound.of_leads (hleads : Leads visit url next) (h : GoesRound visit next) :
    GoesRound visit url := by
  obtain ⟨page, hreaches, hround⟩ := h
  exact ⟨page, .head hleads hreaches, hround⟩

/-- Where a listing goes round, there is always a next page, from which it goes round. -/
theorem GoesRound.exists_leads (h : GoesRound visit url) :
    ∃ next, Leads visit url next ∧ GoesRound visit next := by
  obtain ⟨page, hreaches, hround⟩ := h
  rcases hreaches.cases_head with rfl | ⟨next, hleads, hrest⟩
  · obtain ⟨next, hleads, hback⟩ := TransGen.head'_iff.mp hround
    exact ⟨next, hleads, next, .refl, .tail' hback hleads⟩
  · exact ⟨next, hleads, page, hrest, hround⟩

theorem GoesRound.length_trail (h : GoesRound visit url) (n : Nat) :
    (trail visit n url).length = n := by
  induction n generalizing url with
  | zero => rfl
  | succ n ih =>
      obtain ⟨next, hleads, hnext⟩ := h.exists_leads
      rw [trail_of_leads hleads, List.length_cons, ih hnext]

theorem goesRound_of_not_nodup (h : ¬(trail visit n url).Nodup) : GoesRound visit url := by
  induction n generalizing url with
  | zero => exact absurd List.nodup_nil h
  | succ n ih =>
      by_cases hleads : ∃ next, Leads visit url next
      · obtain ⟨next, hleads⟩ := hleads
        rw [trail_of_leads hleads, List.nodup_cons, not_and_or, not_not] at h
        rcases h with hback | hrest
        · exact ⟨url, .refl, .head' hleads (reaches_of_mem_trail hback)⟩
        · exact (ih hrest).of_leads hleads
      · rw [trail_of_not_leads (not_exists.mp hleads)] at h
        exact absurd (List.nodup_singleton url) h

theorem GoesRound.exists_not_nodup (h : GoesRound visit url) :
    ∃ n, ¬(trail visit n url).Nodup := by
  obtain ⟨page, hreaches, hround⟩ := h
  -- on the way to the page; once there, a trail that goes round comes to it a second time
  induction hreaches using ReflTransGen.head_induction_on with
  | refl =>
      obtain ⟨next, hleads, hback⟩ := TransGen.head'_iff.mp hround
      obtain ⟨n, hn⟩ := exists_mem_trail hback
      refine ⟨n + 1, ?_⟩
      rw [trail_of_leads hleads, List.nodup_cons]
      exact fun h => h.1 hn
  | head hleads _ ih =>
      obtain ⟨n, hn⟩ := ih
      refine ⟨n + 1, ?_⟩
      rw [trail_of_leads hleads, List.nodup_cons]
      exact fun h => hn h.2

theorem nodup_trail_iff : (∀ n, (trail visit n url).Nodup) ↔ ¬GoesRound visit url := by
  constructor
  · rintro distinct hround
    obtain ⟨n, hn⟩ := hround.exists_not_nodup
    exact hn (distinct n)
  · exact fun h n => Decidable.byContradiction fun hn => h (goesRound_of_not_nodup hn)

/-- A listing is still going on if one page more would be asked for. -/
theorem gathered_eq_none_iff :
    gathered visit n url = .ok none ↔ (trail visit (n + 1) url).length = n + 1 := by
  induction n generalizing url with
  | zero => rcases hvisit : visit url with e | ⟨items, _ | next⟩ <;> simp [gathered, trail, hvisit]
  | succ n ih =>
      rcases hvisit : visit url with e | ⟨items, _ | next⟩
      · simp [gathered, trail, hvisit]
      · simp [gathered, trail, hvisit]
      · have hrest : gathered visit (n + 1) url = .ok none ↔ gathered visit n next = .ok none := by
          rcases hgathered : gathered visit n next with e | _ | rest <;>
            simp [gathered, hvisit, hgathered, Except.map]
        rw [hrest, ih, trail_of_leads ⟨items, hvisit⟩, List.length_cons, Nat.add_right_cancel_iff]

/-- More fuel than a listing has pages makes no difference to it. -/
theorem trail_gathered_of_le (ended : (trail visit (n + 1) url).length ≤ n) (hle : n ≤ m) :
    trail visit m url = trail visit n url ∧ gathered visit m url = gathered visit n url := by
  induction n generalizing url m with
  | zero => simp [trail] at ended
  | succ n ih =>
      obtain ⟨m, rfl⟩ : ∃ k, m = k + 1 := ⟨m - 1, by omega⟩
      rcases hvisit : visit url with e | ⟨items, _ | next⟩
      · simp only [trail, gathered, hvisit, and_self]
      · simp only [trail, gathered, hvisit, and_self]
      · rw [trail_of_leads ⟨items, hvisit⟩, List.length_cons] at ended
        obtain ⟨htrail, hgathered⟩ := ih (Nat.le_of_succ_le_succ ended) (Nat.le_of_succ_le_succ hle)
        simp only [trail, gathered, hvisit, htrail, hgathered, and_self]

end Trail

/-! ## The listings of a client -/

variable {σ : Type} {peer : Peer} {answer : (r : Request) → StateM σ r.Answer}

theorem Client.yields_collect {α : Type} (c : Client) (exchanges : ExchangesWith peer answer)
    (resource : String) (page : Json.Record (Page α)) (n : Nat) (url : Http.Url) :
    Yields answer (c.collect resource page n url) (gathered (c.visit peer resource page) n url)
      ((trail (c.visit peer resource page) n url).map c.pageRequest) := by
  induction n generalizing url with
  | zero => exact Yields.ofExcept rfl
  | succ n ih =>
      have hpage := c.yields_getJson exchanges resource page url
      unfold collect
      cases hfound : c.pageAt peer resource page url with
      | error e =>
          have hvisit : c.visit peer resource page url = .error e := by simp only [visit, hfound]
          rw [hfound] at hpage
          simp only [gathered, trail, hvisit]
          exact hpage.bind_error
      | ok found =>
          rw [hfound] at hpage
          have hvisit : c.visit peer resource page url =
              (nextPage url found.links).map fun next => (found.items, next) := by
            simp only [visit, hfound]
          rcases hlink : nextPage url found.links with e | _ | next
          · rw [hlink] at hvisit
            simp only [gathered, trail, hvisit, Except.map]
            exact hpage.bind (Yields.ofExcept hlink).bind_error
          · rw [hlink] at hvisit
            simp only [gathered, trail, hvisit, Except.map]
            exact hpage.bind ((Yields.ofExcept hlink).bind_done rfl)
          · rw [hlink] at hvisit
            have hrest := ih next
            simp only [gathered, trail, hvisit, Except.map]
            exact hpage.bind ((Yields.ofExcept hlink).bind (hrest.map (·.map (found.items ++ ·))))

/-- A listing: what it is of, how its pages are read, and the first of them. -/
structure Listing where
  {Item : Type}
  resource : String
  page : Json.Record (Page Item)
  first : Except Error Http.Url

namespace Client

variable (c : Client)

def instances : Listing :=
  ⟨"server list", serverPage, resourceUrl c.session.computeUrl ["servers", "detail"]⟩

def hypervisors : Listing :=
  ⟨"hypervisor list", hypervisorPage,
    resourceUrl c.session.computeUrl ["os-hypervisors", "detail"]⟩

def volumesWith (key value : String) : Listing :=
  ⟨"volume list", volumePage,
    (resourceUrl c.session.volumeUrl ["volumes", "detail"]).map fun url =>
      url.withPair "metadata" (metadataFilter key value)⟩

def listing? : Cloud.Request → Option Listing
  | .listInstances => some c.instances
  | .listHypervisors => some c.hypervisors
  | .findVolumes key value => some (c.volumesWith key value)
  | _ => none

end Client

namespace Listing

variable (l : Listing) (c : Client)

def visit (peer : Peer) : Visit l.Item :=
  c.visit peer l.resource l.page

def pages (peer : Peer) (fuel : Nat) : List Http.Url :=
  match l.first with
  | .error _ => []
  | .ok url => trail (l.visit c peer) fuel url

def items (peer : Peer) (fuel : Nat) : Except Error (Option (List l.Item)) :=
  match l.first with
  | .error e => .error e
  | .ok url => gathered (l.visit c peer) fuel url

/-- A page that leads back to itself is on the way from the first page. -/
def GoesRound (peer : Peer) : Prop :=
  ∃ url, l.first = .ok url ∧ Rest.GoesRound (l.visit c peer) url

end Listing

theorem Listing.yields (l : Listing) (c : Client) (exchanges : ExchangesWith peer answer)
    {given : Except Error Http.Url} {place : Http.Url → Http.Url} (h : l.first = given.map place)
    {β : Type} (f : List l.Item → β) (fuel : Nat) :
    Yields answer
      (do
        let url ← ExceptT.mk (pure given)
        let found ← c.collect l.resource l.page fuel (place url)
        return found.map f)
      ((l.items c peer fuel).map (·.map f)) ((l.pages c peer fuel).map c.pageRequest) := by
  cases given with
  | error e =>
      simp only [items, pages, h, Except.map]
      exact (Yields.ofExcept rfl).bind_error
  | ok url =>
      simp only [items, pages, h, Except.map]
      exact (Yields.ofExcept rfl).bind
        ((c.yields_collect exchanges l.resource l.page fuel (place url)).map (·.map f))

theorem Client.ended_eq_none_iff {α : Type} {found : Except Error (Option α)} :
    ended found = none ↔ found = .ok none := by
  rcases found with e | _ | a <;> simp [ended]

/-- What a listing has come to is told without asking any more. -/
theorem Yields.play_ended {α : Type} {listing : Action Error (Option α)}
    {value : Except Error (Option α)} {asked : List Http.Request}
    (h : Yields answer listing value asked) (s : σ) :
    let run := (OptionT.mk (Client.ended <$> listing.run)).run.play answer s
    run.value = Client.ended value ∧ run.asked = asked.map Request.exchange := by
  intro run
  have hrun : run = _ := Flow.play_bind_done answer listing.run Client.ended s
  rw [hrun]
  exact ⟨congrArg Client.ended (h.value_eq s), h.asked_eq s⟩

theorem Client.exists_play_serve (c : Client) (exchanges : ExchangesWith peer answer)
    {r : Cloud.Request} {l : Listing} (hl : c.listing? r = some l) :
    ∃ f : List l.Item → r.Value, ∀ fuel s,
      let run := (c.serve fuel r).run.play answer s
      run.value = ended ((l.items c peer fuel).map (·.map f)) ∧
        run.asked = ((l.pages c peer fuel).map c.pageRequest).map Request.exchange := by
  cases r with
  | listInstances =>
      cases hl
      have hfirst : c.instances.first = c.instances.first.map id := by simp
      exact ⟨_, fun fuel => (c.instances.yields c exchanges hfirst _ fuel).play_ended⟩
  | listHypervisors =>
      cases hl
      have hfirst : c.hypervisors.first = c.hypervisors.first.map id := by simp
      exact ⟨_, fun fuel => (c.hypervisors.yields c exchanges hfirst _ fuel).play_ended⟩
  | findVolumes key value =>
      cases hl
      exact ⟨_, fun fuel => ((c.volumesWith key value).yields c exchanges rfl _ fuel).play_ended⟩
  | _ => cases hl

namespace Listing

variable {l : Listing} {c : Client} {n m : Nat}

theorem nodup_pages_iff : (∀ n, (l.pages c peer n).Nodup) ↔ ¬l.GoesRound c peer := by
  unfold pages GoesRound
  cases hfirst : l.first with
  | error e => simp
  | ok url => simpa using nodup_trail_iff

theorem length_pages_of_goesRound (h : l.GoesRound c peer) (n : Nat) :
    (l.pages c peer n).length = n := by
  obtain ⟨url, hfirst, hround⟩ := h
  simp only [pages, hfirst, hround.length_trail]

theorem not_goesRound_of_length_lt (h : (l.pages c peer n).length < n) : ¬l.GoesRound c peer :=
  fun hround => Nat.ne_of_lt h (length_pages_of_goesRound hround n)

theorem items_eq_none_iff :
    l.items c peer n = .ok none ↔ (l.pages c peer (n + 1)).length = n + 1 := by
  unfold items pages
  cases l.first with
  | error e => simp
  | ok url => exact gathered_eq_none_iff

theorem pages_items_of_le (ended : (l.pages c peer (n + 1)).length ≤ n) (hle : n ≤ m) :
    l.pages c peer m = l.pages c peer n ∧ l.items c peer m = l.items c peer n := by
  unfold pages items at *
  cases hfirst : l.first with
  | error e => exact ⟨rfl, rfl⟩
  | ok url =>
      rw [hfirst] at ended
      exact trail_gathered_of_le ended hle

end Listing

theorem length_le_card {pages : Finset Http.Url} {asked : List Http.Url} (distinct : asked.Nodup)
    (within : ∀ page ∈ asked, page ∈ pages) : asked.length ≤ pages.card := by
  rw [← List.toFinset_card_of_nodup distinct]
  exact Finset.card_le_card fun page h => within page (List.mem_toFinset.mp h)

def Request.url? : Request → Option Http.Url
  | .exchange r => some r.url
  | .host _ => none

/-- The URLs that are asked for to serve a request with fuel for a number of pages. -/
def Client.asksFor (c : Client) (answer : (r : Request) → StateM σ r.Answer) (r : Cloud.Request)
    (fuel : Nat) (s : σ) : List Http.Url :=
  ((c.serve fuel r).run.play answer s).asked.filterMap Request.url?

theorem Client.asksFor_eq_pages (c : Client) (exchanges : ExchangesWith peer answer)
    {r : Cloud.Request} {l : Listing} (lists : c.listing? r = some l) (fuel : Nat) (s : σ) :
    c.asksFor answer r fuel s = l.pages c peer fuel := by
  obtain ⟨f, hserve⟩ := c.exists_play_serve exchanges lists
  rw [asksFor, (hserve fuel s).2, List.map_map, List.filterMap_map]
  exact List.filterMap_some

/--
A call that lists asks for no page twice, however far it gets, exactly if no page that it comes to
leads back to itself by way of others.  Then it asks for no more pages than there are, and with fuel
for that many it has ended.  Otherwise it has not ended with any fuel, and has asked for as many
pages as there was fuel for.
-/
theorem listing_ends_iff {c : Client} (exchanges : ExchangesWith peer answer) {r : Cloud.Request}
    {l : Listing} (lists : c.listing? r = some l) (s : σ) :
    let asked fuel := c.asksFor answer r fuel s
    let value fuel := ((c.serve fuel r).run.play answer s).value
    ((∀ fuel, (asked fuel).Nodup) ↔ ¬l.GoesRound c peer) ∧
      (¬l.GoesRound c peer → ∀ pages : Finset Http.Url,
        (∀ fuel, ∀ page ∈ asked fuel, page ∈ pages) → ∀ fuel,
          (asked fuel).length ≤ pages.card ∧
            (pages.card ≤ fuel → value fuel ≠ none ∧
              asked fuel = asked pages.card ∧ value fuel = value pages.card)) ∧
      (l.GoesRound c peer → ∀ fuel, (asked fuel).length = fuel ∧ value fuel = none) := by
  intro asked value
  have hasked : asked = l.pages c peer :=
    funext fun fuel => c.asksFor_eq_pages exchanges lists fuel s
  obtain ⟨f, hserve⟩ := c.exists_play_serve exchanges lists
  have hvalue : ∀ fuel, value fuel = Client.ended ((l.items c peer fuel).map (·.map f)) :=
    fun fuel => (hserve fuel s).1
  have hnone : ∀ fuel, value fuel = none ↔ (l.pages c peer (fuel + 1)).length = fuel + 1 := by
    intro fuel
    rw [hvalue, Client.ended_eq_none_iff, ← Listing.items_eq_none_iff]
    rcases l.items c peer fuel with e | _ | items <;> simp [Except.map]
  rw [hasked]
  refine ⟨Listing.nodup_pages_iff, ?_, fun hround fuel =>
    ⟨Listing.length_pages_of_goesRound hround fuel,
      (hnone fuel).mpr (Listing.length_pages_of_goesRound hround (fuel + 1))⟩⟩
  intro hround pages within fuel
  -- also with fuel for one page more than there are, so that nothing is cut off with that for all
  have hlength : ∀ n, (l.pages c peer n).length ≤ pages.card :=
    fun n => length_le_card (Listing.nodup_pages_iff.mpr hround n) (within n)
  refine ⟨hlength fuel, fun hle => ?_⟩
  obtain ⟨hpages, hitems⟩ := Listing.pages_items_of_le (hlength (pages.card + 1)) hle
  have hended : value fuel ≠ none := by
    rw [Ne, hnone]
    have := hlength (fuel + 1)
    omega
  refine ⟨hended, hpages, ?_⟩
  rw [hvalue, hvalue, hitems]

def Peer.world (peer : Peer) : (r : Request) → StateM Host.Station r.Answer
  | .exchange r => fun s => (peer r, s)
  | .host r => Host.Station.answer r

theorem Peer.exchangesWith_world (peer : Peer) : ExchangesWith peer peer.world :=
  fun _ _ => rfl

/-- A peer whose pages are empty but for a link, where the page has a next one. -/
def linkedPages (next? : Http.Url → Option String) : Peer := fun r =>
  let link (href : String) : Json :=
    .object [("href", .string href), ("rel", .string "next")]
  let body : Json := .object [("servers_links", .array ((next? r.url).toList.map link))]
  .ok { status := 200, body := body.compact }

def twoPages : Peer :=
  linkedPages fun url => if url.query = none then some "http://nova/servers/detail?page=2" else none

def turningPages : Peer :=
  linkedPages fun url =>
    some (if url.query = none then "http://nova/servers/detail?page=2"
      else "http://nova/servers/detail")

/-- A host without files on which nothing can be started. -/
def bareHost : Host.Station :=
  { tree := .empty, base := [], workingDirectory := [], runner := .script [] }

def frontPage : Http.Url :=
  { scheme := "http", authority := some { host := "nova" },
    path := .segments ["servers", "detail"] }

def backPage : Http.Url :=
  { frontPage with query := some "page=2" }

def smallClient : Client :=
  { session := { token := "token", computeUrl := "http://nova", volumeUrl := "http://cinder" } }

/-- A list of two pages is read, and no page twice, with any fuel. -/
theorem listing_ends_two_pages :
    smallClient.listing? .listInstances = some smallClient.instances ∧
      ¬smallClient.instances.GoesRound smallClient twoPages ∧
      ∀ fuel, (smallClient.asksFor twoPages.world .listInstances fuel bareHost).Nodup := by
  have hend : (smallClient.instances.pages smallClient twoPages 3).length < 3 := by
    decide +kernel
  have hround := Listing.not_goesRound_of_length_lt hend
  obtain ⟨hiff, -⟩ :=
    listing_ends_iff (c := smallClient) twoPages.exchangesWith_world
      (r := .listInstances) rfl bareHost
  exact ⟨rfl, hround, hiff.mpr hround⟩

theorem turningPages_goesRound : smallClient.instances.GoesRound smallClient turningPages := by
  have hthere : Leads (smallClient.instances.visit smallClient turningPages) frontPage backPage :=
    leads_iff.mpr (by decide +kernel)
  have hback : Leads (smallClient.instances.visit smallClient turningPages) backPage frontPage :=
    leads_iff.mpr (by decide +kernel)
  have hfirst : smallClient.instances.first = .ok frontPage := by decide +kernel
  exact ⟨frontPage, hfirst, frontPage, .refl, .tail (.single hthere) hback⟩

/-- Pages that lead back to each other are asked for again and again, without end. -/
theorem listing_turns :
    let asked fuel := smallClient.asksFor turningPages.world .listInstances fuel bareHost
    (¬∀ fuel, (asked fuel).Nodup) ∧ ∀ fuel, (asked fuel).length = fuel := by
  intro asked
  have hasked : asked = smallClient.instances.pages smallClient turningPages :=
    funext fun fuel =>
      smallClient.asksFor_eq_pages turningPages.exchangesWith_world rfl fuel bareHost
  rw [hasked, Listing.nodup_pages_iff, not_not]
  exact ⟨turningPages_goesRound, Listing.length_pages_of_goesRound turningPages_goesRound⟩

end NodeVolumes.Rest
