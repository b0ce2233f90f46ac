import NodeVolumes.Proofs.Json.Members
import NodeVolumes.Proofs.Json.Reading
import NodeVolumes.Proofs.Rest.Addresses
import NodeVolumes.Proofs.Rest.Pages

/-!
# The filter for metadata

Volumes are searched with one pair in the query, whose value is the text of an object.  An object of
texts is read as it was written (`members_compact_texts`), and so is what is added to a query
(`formPairs_withPair`), so that the key and the value of a search are told by its first request
(`filter_request_lossless`).
-/

namespace NodeVolumes

/-! ## Objects of texts -/

namespace Json

theorem takes_readValue_string (levels : Nat) (s : String) :
    Takes (readValue levels) (quoteChars s.toList) (.string s) := by
  intro line column tail
  obtain ⟨line', column', hread⟩ := takes_quoteChars s line column tail
  have hspace : Cursor.isSpace '"' = false := rfl
  refine ⟨line', column', readValue_eq_ok_iff.mpr ?_⟩
  rw [quoteChars, List.cons_append, skipSpace_of_token hspace]
  exact .string rfl hread

/-- An object of texts is read as it was written. -/
theorem members_compact_texts (entries : List (String × String)) :
    let texts := entries.map fun e => (e.1, Json.string e.2)
    members (Json.object texts).compact = .ok texts := by
  intro texts
  let write : Json → List Char := fun v => v.compact.toList
  have htakes : ∀ e ∈ texts, Takes (readValue (maxLevels - 1)) (write e.2) e.2 := by
    intro e he
    obtain ⟨entry, -, rfl⟩ := List.mem_map.mp he
    simp only [write, toList_compact_string]
    exact takes_readValue_string (maxLevels - 1) entry.2
  let lines := texts.map fun e => memberChars e.1 (write e.2)
  have hfuel := length_lt_objectChars lines []
  rw [List.length_map, List.append_nil] at hfuel
  obtain ⟨line, column, hread⟩ := takes_memberLoop htakes hfuel true 1 1 []
  rw [List.append_nil] at hread
  have hspace : Cursor.isSpace '\x7b' = false := rfl
  have hstart : Cursor.ofText (Json.object texts).compact = ⟨1, 0, objectChars lines⟩ := by
    rw [Cursor.ofText, toList_compact_object]
  refine readAll_eq_ok_iff.mpr ⟨⟨line, column, []⟩, ?_, rfl⟩
  rw [hstart, objectAt_eq_ok_iff, objectChars, skipSpace_of_token hspace]
  exact ⟨_, rfl, hread⟩

end Json

/-! ## Queries -/

namespace Http

theorem formPairs_withPair (url : Url) (name value : String) :
    ∃ query, (url.withPair name value).query = some query ∧
      Percent.formPairs query =
        Percent.formPairs (url.query.getD "") ++ [(name, value)] := by
  unfold Url.withPair
  dsimp only
  split
  · rename_i hquery
    exact ⟨_, rfl, by rw [hquery, Percent.formPairs_formPair]; rfl⟩
  · rename_i hquery
    exact ⟨_, rfl, by rw [hquery, Percent.formPairs_formPair]; rfl⟩
  · rename_i query _ hquery
    exact ⟨_, rfl, by rw [hquery, Percent.formPairs_append, Percent.formPairs_formPair]; rfl⟩

end Http

/-! ## The first request of a search -/

namespace Rest

open Cloud
open Client (metadataFilter)
open Http (Url UrlPath)

variable {σ : Type} {c : Client} {endpoint url : Url} {own : List String} {key value : String}

theorem head?_asked_findVolumes {fuel : Nat} (hfuel : 0 < fuel)
    (hurl : resourceUrl c.session.volumeUrl ["volumes", "detail"] = .ok url)
    (answer : (r : Request) → StateM σ r.Answer) (s : σ) (key value : String) :
    ((c.serve fuel (.findVolumes key value)).run.play answer s).asked.head? =
      some (.exchange (c.pageRequest (url.withPair "metadata" (metadataFilter key value)))) := by
  obtain ⟨n, rfl⟩ : ∃ n, fuel = n + 1 := ⟨fuel - 1, by omega⟩
  have hfirst : (c.volumesWith key value).first =
      .ok (url.withPair "metadata" (metadataFilter key value)) := by
    rw [Client.volumesWith, hurl]
    rfl
  have hserve : (c.serve (n + 1) (.findVolumes key value)).run = _ := c.run_listing hfirst (n + 1) _
  rw [hserve, Client.run_collect_succ, Flow.ask_bind, Flow.play_ask, Run.asked_after]
  rfl

/-- What the one member of a filter says. -/
theorem members_metadataFilter (key value : String) :
    Json.members (metadataFilter key value) = .ok [(key, .string value)] :=
  Json.members_compact_texts [(key, value)]

theorem metadataFilter_inj {key' value' : String}
    (h : metadataFilter key' value' = metadataFilter key value) : key' = key ∧ value' = value := by
  have hmembers := members_metadataFilter key' value'
  rw [h, members_metadataFilter] at hmembers
  cases hmembers
  exact ⟨rfl, rfl⟩

/--
The first request of a search for volumes is for the details of all, with one pair more in the query
than the endpoint has.  Its name is `metadata`, and its value the text of an object with one member,
the key with the value that is searched for.  So the query tells both.
-/
theorem filter_request_lossless (hbase : Url.parse c.session.volumeUrl = .ok endpoint)
    (hpath : endpoint.path = .segments own) {fuel : Nat} (hfuel : 0 < fuel)
    (answer : (r : Request) → StateM σ r.Answer) (s : σ) (key value : String) :
    let first (key value : String) :=
      ((c.serve fuel (.findVolumes key value)).run.play answer s).asked.head?
    ∃ (url : Url) (query filter : String),
      first key value = some (.exchange
        { method := .get, url, token := some c.session.token, accept := "application/json" }) ∧
      url = { endpoint with path := url.path, query := some query } ∧
      url.path.names =
        (UrlPath.segments (Url.withoutSlash own)).names ++ ["volumes", "detail"] ∧
      Http.Percent.formPairs query =
        Http.Percent.formPairs (endpoint.query.getD "") ++ [("metadata", filter)] ∧
      Json.members filter = .ok [(key, .string value)] ∧
      Json.parse filter = .ok (.object [(key, .string value)]) ∧
      ∀ (key' value' : String) (other : Http.Request), first key' value' = some (.exchange other) →
        other.url.query = some query → key' = key ∧ value' = value := by
  intro first
  have hgiven : ∀ s ∈ ["volumes", "detail"], s ≠ "" ∧ Url.IsPlain s := by
    decide +kernel
  obtain ⟨url, hurl, -, hrest⟩ := exists_resourceUrl hbase hpath ["volumes", "detail"]
  have hnames := (names_resourceUrl_iff hbase hpath (fun s hs => (hgiven s hs).1) hurl).mpr
    fun s hs => (hgiven s hs).2
  have hquery : url.query = endpoint.query := by
    rw [hrest]
  have hfirst (key value : String) : first key value = some (.exchange (c.pageRequest
      (url.withPair "metadata" (metadataFilter key value)))) :=
    head?_asked_findVolumes hfuel hurl answer s key value
  obtain ⟨query, hwith, hpairs⟩ :=
    Http.formPairs_withPair url "metadata" (metadataFilter key value)
  refine ⟨url.withPair "metadata" (metadataFilter key value), query, metadataFilter key value,
    hfirst key value, ?_, hnames, ?_, members_metadataFilter key value, ?_, ?_⟩
  · rw [← hwith, Url.withPair, hrest]
  · rw [hpairs, hquery]
  · exact Json.parse_eq_object_iff.mpr ⟨_, members_metadataFilter key value, rfl⟩
  · intro key' value' other hother hsame
    rw [hfirst] at hother
    cases hother
    obtain ⟨query', hwith', hpairs'⟩ :=
      Http.formPairs_withPair url "metadata" (metadataFilter key' value')
    obtain rfl : query' = query := Option.some.inj (hwith'.symm.trans hsame)
    rw [hpairs'] at hpairs
    have hpair := List.append_cancel_left hpairs
    exact metadataFilter_inj (by simpa using hpair)

/-- Quotes, separators of forms and characters beyond ASCII are told by the one pair of a query. -/
theorem filter_request_lossless_hard :
    let searched := (smallClient.serve 1 (.findVolumes "a\"\\" "&b=+%é\n")).run.play
      (Peer.world fun _ => .ok { status := 404 }) bareHost
    ∃ (url : Url) (query filter : String),
      searched.asked.head? = some (.exchange (smallClient.pageRequest url)) ∧
      url.path.names = ["volumes", "detail"] ∧ url.query = some query ∧
      Http.Percent.formPairs query = [("metadata", filter)] ∧
      Json.parse filter = .ok (.object [("a\"\\", .string "&b=+%é\n")]) := by
  intro searched
  have hbase : Url.parse smallClient.session.volumeUrl =
      .ok { scheme := "http", authority := some { host := "cinder" }, path := .segments [""] } := by
    decide +kernel
  obtain ⟨url, query, filter, hasked, hurl, hnames, hpairs, -, hparse, -⟩ :=
    filter_request_lossless hbase rfl Nat.one_pos
      (Peer.world fun _ => .ok { status := 404 }) bareHost "a\"\\" "&b=+%é\n"
  refine ⟨url, query, filter, hasked, hnames, ?_, hpairs, hparse⟩
  rw [hurl]

end Rest

end NodeVolumes
