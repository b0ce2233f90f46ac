import NodeVolumes.Proofs.Rest.Listing

/-!
# Chains of pages

Pages that follow each other by their links, up to one that no other follows (`Client.Chain`) or one
that something is wrong with (`Client.Fault`).  Of a chain all items are gathered, page by page
(`Client.Chain.gathered`); a fault is told instead of them (`Client.Fault.gathered`).
-/

namespace NodeVolumes.Rest

open Cloud

variable {α : Type} {c : Client} {peer : Peer} {resource : String} {page : Json.Record (Page α)}
variable {url next : Http.Url} {n : Nat}

namespace Client

/-- A peer answers the request for a page with success and a body that can be read. -/
def Reads (c : Client) (peer : Peer) (page : Json.Record (Page α)) (url : Http.Url)
    (found : Page α) : Prop :=
  ∃ response, peer (c.pageRequest url) = .ok response ∧ response.isSuccess = true ∧
    Json.decode page.decoder response.text = .ok found

/-- Pages that follow each other by their links, up to one that no other follows. -/
inductive Chain (c : Client) (peer : Peer) (page : Json.Record (Page α)) :
    Http.Url → List (Page α) → Prop where
  | last {url : Http.Url} {found : Page α} :
      c.Reads peer page url found → nextPage url found.links = .ok none →
      Chain c peer page url [found]
  | step {url next : Http.Url} {found : Page α} {rest : List (Page α)} :
      c.Reads peer page url found → nextPage url found.links = .ok (some next) →
      Chain c peer page next rest → Chain c peer page url (found :: rest)

/-- What is wrong with the last of a number of pages that follow each other. -/
inductive Fault (c : Client) (peer : Peer) (resource : String) (page : Json.Record (Page α)) :
    Nat → Http.Url → Error → Prop where
  | unreachable {url : Http.Url} {e : Http.TransportError} :
      peer (c.pageRequest url) = .error e →
      Fault c peer resource page 1 url (transportError e)
  | missing {url : Http.Url} {response : Http.Response} :
      peer (c.pageRequest url) = .ok response → response.status = 404 →
      Fault c peer resource page 1 url (.notFound resource url.text)
  | refused {url : Http.Url} {response : Http.Response} :
      peer (c.pageRequest url) = .ok response → response.status ≠ 404 →
      response.isSuccess = false →
      Fault c peer resource page 1 url
        (.http "GET" url.text response.status (Text.trim response.text))
  | garbled {url : Http.Url} {response : Http.Response} {fault : Json.Fault} :
      peer (c.pageRequest url) = .ok response → response.isSuccess = true →
      Json.decode page.decoder response.text = .error fault →
      Fault c peer resource page 1 url (.parse resource fault.message)
  | badLink {url : Http.Url} {found : Page α} {href : String} {e : Http.UrlError} :
      c.Reads peer page url found → nextLink found.links = some href →
      Http.Url.parse href = .error e →
      Fault c peer resource page 1 url (.parse "pagination link" e.message)
  | later {n : Nat} {url next : Http.Url} {found : Page α} {e : Error} :
      c.Reads peer page url found → nextPage url found.links = .ok (some next) →
      Fault c peer resource page n next e → Fault c peer resource page (n + 1) url e

end Client

theorem not_missing_of_isSuccess {response : Http.Response} (h : response.isSuccess = true) :
    response.status ≠ 404 := by
  intro hstatus
  rw [Http.Response.isSuccess, hstatus] at h
  contradiction

theorem classify_of_isSuccess {request : Http.Request} {response : Http.Response}
    (h : response.isSuccess = true) : Client.classify request response = .ok (some response) := by
  rw [Client.classify, if_neg (not_missing_of_isSuccess h), if_pos h]

/-- The answer that a page is read from. -/
theorem Client.pageAt_of_isSuccess {response : Http.Response}
    (hanswer : peer (c.pageRequest url) = .ok response) (hsuccess : response.isSuccess = true) :
    c.pageAt peer resource page url = decodeBody page.decoder resource response := by
  simp only [pageAt, valueAt, responseAt, hanswer, classify_of_isSuccess hsuccess]
  cases decodeBody page.decoder resource response <;> rfl

theorem Client.Reads.visit {found : Page α} (h : c.Reads peer page url found) :
    c.visit peer resource page url =
      (nextPage url found.links).map fun next => (found.items, next) := by
  obtain ⟨response, hanswer, hsuccess, hdecoded⟩ := h
  have hpage : c.pageAt peer resource page url = .ok found := by
    rw [pageAt_of_isSuccess hanswer hsuccess, decodeBody, hdecoded]
    rfl
  simp only [Client.visit, hpage]

/-- All pages of a chain are read, if there is fuel for that many. -/
theorem Client.Chain.gathered {pages : List (Page α)} (h : c.Chain peer page url pages)
    (hfuel : pages.length ≤ n) :
    gathered (c.visit peer resource page) n url = .ok (some (pages.flatMap Page.items)) := by
  induction h generalizing n with
  | last hreads hlink =>
      cases n with
      | zero => exact absurd hfuel (Nat.not_succ_le_zero 0)
      | succ n =>
          simp only [Rest.gathered, hreads.visit, hlink, Except.map, List.flatMap_cons,
            List.flatMap_nil, List.append_nil]
  | step hreads hlink _ ih =>
      cases n with
      | zero => exact absurd hfuel (Nat.not_succ_le_zero _)
      | succ n =>
          have hrest := ih (Nat.le_of_succ_le_succ hfuel)
          simp only [Rest.gathered, hreads.visit, hlink, hrest, Except.map, Option.map,
            List.flatMap_cons]

theorem gathered_of_visit_error {visit : Visit α} {e : Error} (h : visit url = .error e)
    (hfuel : 1 ≤ n) : gathered visit n url = .error e := by
  cases n with
  | zero => exact absurd hfuel (Nat.not_succ_le_zero 0)
  | succ n => simp only [gathered, h]

/-- A page that something is wrong with. -/
theorem Client.Fault.visit {e : Error} (h : c.Fault peer resource page 1 url e) :
    c.visit peer resource page url = .error e := by
  cases h with
  | unreachable hanswer => simp only [Client.visit, pageAt, valueAt, responseAt, hanswer]
  | missing hanswer hstatus =>
      simp only [Client.visit, pageAt, valueAt, responseAt, hanswer, classify, hstatus, if_true]
  | refused hanswer hstatus hrefused =>
      simp only [Client.visit, pageAt, valueAt, responseAt, hanswer, classify, hstatus, hrefused,
        if_false, Bool.false_eq_true]
      rfl
  | garbled hanswer hsuccess hdecoded =>
      simp only [Client.visit, pageAt_of_isSuccess hanswer hsuccess, decodeBody, hdecoded,
        Except.mapError]
  | badLink hreads hlink hparse => simp only [hreads.visit, nextPage, hlink, hparse, Except.map]
  | later _ _ hfault => cases hfault

/-- A fault is told instead of the items of the pages before it. -/
theorem Client.Fault.gathered {k : Nat} {e : Error} (h : c.Fault peer resource page k url e)
    (hfuel : k ≤ n) : gathered (c.visit peer resource page) n url = .error e := by
  induction h generalizing n with
  | later hreads hlink _ ih =>
      cases n with
      | zero => exact absurd hfuel (Nat.not_succ_le_zero _)
      | succ n =>
          have hrest := ih (Nat.le_of_succ_le_succ hfuel)
          simp only [Rest.gathered, hreads.visit, hlink, hrest, Except.map]
  | unreachable hanswer => exact gathered_of_visit_error (Fault.unreachable hanswer).visit hfuel
  | missing hanswer hstatus =>
      exact gathered_of_visit_error (Fault.missing hanswer hstatus).visit hfuel
  | refused hanswer hstatus hrefused =>
      exact gathered_of_visit_error (Fault.refused hanswer hstatus hrefused).visit hfuel
  | garbled hanswer hsuccess hdecoded =>
      exact gathered_of_visit_error (Fault.garbled hanswer hsuccess hdecoded).visit hfuel
  | badLink hreads hlink hparse =>
      exact gathered_of_visit_error (Fault.badLink hreads hlink hparse).visit hfuel

end NodeVolumes.Rest
