import NodeVolumes.Proofs.Http.Url
import NodeVolumes.Proofs.Rest.Listing
import NodeVolumes.Rest.Login

/-!
# Logins

Settings that lack something are refused for the first thing that they lack (`Lacks`).  Complete
ones are posted once, to the URL for tokens below the endpoint that was given, however that was
written (`Writes`), and name the user and the project (`Names`).  What the answer opens is told by
the first thing that is wrong with it (`Opens`, `connect_fails_closed`).
-/

namespace NodeVolumes

def Json.at? : List String → Json → Option Json
  | [], value => some value
  | name :: rest, .object members => (members.lookup name).bind (Json.at? rest)
  | _ :: _, _ => none

namespace Rest

open Text

/-! ## Settings that lack something -/

def Blank (value : Option String) : Prop :=
  ∀ text, value = some text → trim text = ""

/-- What a requirement asks for is blank. -/
def Lacks (s : Settings.Cloud) : Settings.Requirement → Prop
  | .endpoint => Blank s.authUrl
  | .user => Blank s.username
  | .password => Blank s.password
  | .project => Blank s.projectId ∧ Blank s.projectName

theorem nonBlank?_eq_none_iff {value : Option String} : nonBlank? value = none ↔ Blank value := by
  cases value with
  | none => simp [nonBlank?, Blank]
  | some text => simp [nonBlank?, Blank, nonBlank_eq_none_iff]

theorem nonBlank?_eq_some_iff {value : Option String} {text : String} :
    nonBlank? value = some text ↔ value.map trim = some text ∧ text ≠ "" := by
  cases value with
  | none => simp [nonBlank?]
  | some given =>
      simp only [nonBlank?, nonBlank, Option.bind_some, Option.map_some, Option.some.injEq]
      split
      · rename_i hblank
        simp only [reduceCtorEq, false_iff, not_and, not_not]
        rintro rfl
        exact hblank
      · rename_i hsome
        simp only [Option.some.injEq]
        constructor
        · rintro rfl
          exact ⟨rfl, hsome⟩
        · exact And.left

theorem meets_iff {s : Settings.Cloud} {r : Settings.Requirement} :
    s.meets r = true ↔ ¬Lacks s r := by
  cases r <;>
    simp [Settings.Cloud.meets, Settings.Cloud.project?, Lacks, ← nonBlank?_eq_none_iff,
      Option.isSome_iff_ne_none]
  tauto

/-- The first thing that settings lack is told. -/
theorem checked_of_lacks {s : Settings.Cloud} {r : Settings.Requirement}
    {earlier later : List Settings.Requirement}
    (horder : [.endpoint, .user, .password, .project] = earlier ++ r :: later)
    (hearlier : ∀ q ∈ earlier, ¬Lacks s q) (hlacks : Lacks s r) :
    s.checked = .error (.missing r) := by
  have hmissing : s.missing? = some r := by
    unfold Settings.Cloud.missing?
    have hnone : earlier.find? (fun q => !s.meets q) = none :=
      List.find?_eq_none.mpr fun q hq => by simpa [meets_iff] using hearlier q hq
    have hfails : s.meets r = false := by
      rw [← Bool.not_eq_true, meets_iff, not_not]
      exact hlacks
    rw [Settings.Cloud.requirements, horder, List.find?_append, hnone, Option.none_or,
      List.find?_cons_of_pos (by simp [hfails])]
  rw [Settings.Cloud.checked, hmissing]

theorem Requirement.message_inj {q r : Settings.Requirement}
    (h : (Settings.Error.missing q).message = (Settings.Error.missing r).message) : q = r := by
  cases q <;> cases r <;> first | rfl | exact absurd h (by decide)

/-! ## Where logins are posted to -/

/-- An endpoint without a version, and without a slash at its end. -/
structure IsBare (endpoint : String) : Prop where
  slash : endpoint.toList.getLast? ≠ some '/'
  version : ¬"/v3".toList <:+ endpoint.toList

/-- A text is an endpoint, with its version or without, and with any slashes at its end. -/
def Writes (text endpoint : String) : Prop :=
  ∃ version ∈ ["", "/v3"], ∃ n : Nat,
    (trim text).toList = endpoint.toList ++ version.toList ++ List.replicate n '/'

theorem toList_withoutSlashes (text : String) :
    (withoutSlashes text).toList = text.toList.rdropWhile (· == '/') := by
  simp [withoutSlashes, dropLastWhile, List.rdropWhile]

theorem exists_slashes (text : String) :
    ∃ n, text.toList = (withoutSlashes text).toList ++ List.replicate n '/' := by
  have hall : ∀ c ∈ text.toList.rtakeWhile (· == '/'), c = '/' := fun c hc => by
    simpa using List.mem_takeWhile_imp (List.mem_reverse.mp hc)
  refine ⟨(text.toList.rtakeWhile (· == '/')).length, ?_⟩
  rw [toList_withoutSlashes, ← List.eq_replicate_iff.mpr ⟨rfl, hall⟩,
    List.rdropWhile_append_rtakeWhile]

theorem withoutSlashes_eq {text : String} {base : List Char} {n : Nat}
    (htext : text.toList = base ++ List.replicate n '/') (hbase : base.getLast? ≠ some '/') :
    (withoutSlashes text).toList = base := by
  rw [toList_withoutSlashes, htext]
  clear htext
  induction n with
  | zero =>
      rw [List.replicate_zero, List.append_nil, List.rdropWhile_eq_self_iff]
      intro hne hslash
      exact hbase (by rw [List.getLast?_eq_some_getLast hne]; simpa using hslash)
  | succ n ih =>
      rw [List.replicate_succ', ← List.append_assoc, List.rdropWhile_concat_pos _ _ _ rfl, ih]

/-- The URL for tokens is told by the endpoint, however that was written. -/
theorem tokensUrl_of_writes {text endpoint : String} (hbare : IsBare endpoint)
    (h : Writes text endpoint) : tokensUrl text = endpoint ++ "/v3/auth/tokens" := by
  obtain ⟨version, hversion, n, htext⟩ := h
  have hbase : withoutSlashes (trim text) = endpoint ++ version := by
    apply String.toList_injective
    rw [String.toList_append]
    refine withoutSlashes_eq htext ?_
    rcases List.mem_pair.mp hversion with rfl | rfl
    · simpa using hbare.slash
    · simp
  unfold tokensUrl
  rw [hbase]
  rcases List.mem_pair.mp hversion with rfl | rfl
  · have hnone : dropEnding? (endpoint ++ "") "/v3" = none := by
      rw [String.append_empty, dropEnding?, if_neg]
      exact mt List.isSuffixOf_iff_suffix.mp hbare.version
    dsimp only
    rw [hnone, String.append_empty]
  · dsimp only
    rw [dropEnding?_append, String.append_assoc]
    rfl

/-- Below a URL of the web there is one for tokens, on the same host. -/
theorem exists_tokensUrl {text : String} {given : Http.Url}
    (h : Http.Url.IsHttp (trim text) given) :
    ∃ url, Http.Url.parse (tokensUrl text) = .ok url ∧ url.scheme = "http" ∧
      url.authority = given.authority := by
  obtain ⟨n, htext⟩ := exists_slashes (trim text)
  unfold tokensUrl
  dsimp only
  split
  · exact h.exists_parse htext "auth/tokens".toList (by simp [Http.Url.isPadding])
      (by rw [String.toList_append]; rfl)
  · exact h.exists_parse htext "v3/auth/tokens".toList (by simp [Http.Url.isPadding])
      (by rw [String.toList_append]; rfl)

/-! ## What a login names -/

/-- A login names a user, and a project by its identifier if that is given and else by its name. -/
structure Names (s : Settings.Cloud) (body : Json) : Prop where
  user : ∃ name, s.username.map trim = some name ∧ name ≠ "" ∧
    body.at? ["auth", "identity", "password", "user", "name"] = some (.string name)
  byId : ∀ id, s.projectId.map trim = some id → id ≠ "" →
    body.at? ["auth", "scope", "project"] = some (.object [("id", .string id)])
  byName : Blank s.projectId → ∃ name, s.projectName.map trim = some name ∧ name ≠ "" ∧
    body.at? ["auth", "scope", "project", "name"] = some (.string name) ∧
    body.at? ["auth", "scope", "project", "id"] = none

theorem exists_of_not_blank {value : Option String} (h : ¬Blank value) :
    ∃ text, value.map trim = some text ∧ text ≠ "" := by
  obtain ⟨text, htext⟩ := Option.ne_none_iff_exists'.mp (mt nonBlank?_eq_none_iff.mp h)
  exact ⟨text, nonBlank?_eq_some_iff.mp htext⟩

theorem trim_getD {value : Option String} {text : String} (h : value.map trim = some text) :
    trim (value.getD "") = text := by
  cases value with
  | none => cases h
  | some given => exact Option.some.inj h

theorem names_loginBody {s : Settings.Cloud} (h : ∀ r, ¬Lacks s r) : Names s (loginBody s) where
  user := by
    obtain ⟨name, hname, hne⟩ := exists_of_not_blank (h .user)
    refine ⟨name, hname, hne, ?_⟩
    rw [← trim_getD hname]
    simp [loginBody, Json.at?, List.lookup_cons]
  byId := by
    intro id hid hne
    have hproject : s.project? = some id := nonBlank?_eq_some_iff.mpr ⟨hid, hne⟩
    simp [loginBody, projectBody, hproject, Json.at?, List.lookup_cons]
  byName := by
    intro hblank
    have hproject : s.project? = none := nonBlank?_eq_none_iff.mpr hblank
    obtain ⟨name, hname, hne⟩ := exists_of_not_blank fun hname => h .project ⟨hblank, hname⟩
    refine ⟨name, hname, hne, ?_, ?_⟩
    · rw [← trim_getD hname]
      simp [loginBody, projectBody, hproject, Json.at?, List.lookup_cons]
    · simp [loginBody, projectBody, hproject, Json.at?, List.lookup_cons]

/-! ## What an answer opens -/

/-- An answer carries a token that can be read. -/
def Carries (response : Http.Response) (token : String) : Prop :=
  response.header? tokenHeader = some token ∧ Http.isReadable token = true

/-- A catalogue has an endpoint of a service of one of the types that suits the settings. -/
def Offers (s : Settings.Cloud) (catalog : List Service) (types : List String) (e : Endpoint) :
    Prop :=
  ∃ service ∈ catalog, service.kind ∈ types ∧ e ∈ service.endpoints ∧
    e.suits (trim s.endpointInterface) s.region? = true

/-- What the answer to a login opens. -/
inductive Opens (s : Settings.Cloud) (response : Http.Response) :
    Except Cloud.Error Session → Prop where
  | rejected :
      response.isSuccess = false →
      Opens s response (.error
        (.authentication (Decimal.digitText response.status ++ " " ++ trim response.text)))
  | tokenless :
      response.isSuccess = true → (∀ token, ¬Carries response token) →
      Opens s response (.error (.authentication "response carried no X-Subject-Token header"))
  | garbled {token : String} {fault : Json.Fault} :
      response.isSuccess = true → Carries response token →
      Json.decode loginRecord.decoder response.text = .error fault →
      Opens s response (.error (.parse "token" fault.message))
  | noCompute {token : String} {catalog : List Service} :
      response.isSuccess = true → Carries response token →
      Json.decode loginRecord.decoder response.text = .ok catalog →
      (∀ e, ¬Offers s catalog computeTypes e) →
      Opens s response (.error (.missingEndpoint "compute"))
  | noVolume {token : String} {catalog : List Service} {compute : Endpoint} :
      response.isSuccess = true → Carries response token →
      Json.decode loginRecord.decoder response.text = .ok catalog →
      Offers s catalog computeTypes compute → (∀ e, ¬Offers s catalog volumeTypes e) →
      Opens s response (.error (.missingEndpoint "volumev3/block-storage/volumev2"))
  | session {token : String} {catalog : List Service} {compute volume : Endpoint} :
      response.isSuccess = true → Carries response token →
      Json.decode loginRecord.decoder response.text = .ok catalog →
      (offers catalog computeTypes (trim s.endpointInterface) s.region?).head? = some compute →
      (offers catalog volumeTypes (trim s.endpointInterface) s.region?).head? = some volume →
      Opens s response (.ok ⟨token, withoutSlashes compute.url, withoutSlashes volume.url⟩)

section Answer

variable {s : Settings.Cloud} {response : Http.Response} {catalog : List Service}
variable {types : List String} {interface : String} {region : Option String}

theorem tokenOf_of_carries {token : String} (h : Carries response token) :
    tokenOf response = .ok token := by
  rw [tokenOf, h.1]
  exact if_pos h.2

theorem tokenOf_of_forall (h : ∀ token, ¬Carries response token) :
    tokenOf response = .error (.authentication "response carried no X-Subject-Token header") := by
  unfold tokenOf
  cases hheader : response.header? tokenHeader with
  | none => rfl
  | some value => exact if_neg fun hreadable => h value ⟨hheader, hreadable⟩

theorem selectEndpoint_of_head {e : Endpoint}
    (h : (offers catalog types interface region).head? = some e) :
    selectEndpoint catalog types interface region = .ok (withoutSlashes e.url) := by
  obtain ⟨rest, hoffers⟩ := List.head?_eq_some_iff.mp h
  rw [selectEndpoint, hoffers]

theorem selectEndpoint_of_forall (h : ∀ e, ¬Offers s catalog types e) :
    selectEndpoint catalog types (trim s.endpointInterface) s.region? =
      .error (.missingEndpoint ("/".intercalate types)) := by
  have hnone : offers catalog types (trim s.endpointInterface) s.region? = [] :=
    List.eq_nil_iff_forall_not_mem.mpr fun e he => h e (mem_offers_iff.mp he)
  rw [selectEndpoint, hnone]

theorem exists_head_of_offers {e : Endpoint} (h : Offers s catalog types e) :
    ∃ first, (offers catalog types (trim s.endpointInterface) s.region?).head? = some first := by
  have hne : offers catalog types (trim s.endpointInterface) s.region? ≠ [] :=
    List.ne_nil_of_mem (mem_offers_iff.mpr h)
  exact ⟨_, List.head?_eq_some_head hne⟩

theorem sessionOf_of_opens {outcome : Except Cloud.Error Session}
    (h : Opens s response outcome) : sessionOf s response = outcome := by
  unfold sessionOf
  cases h with
  | rejected hfailed => rw [hfailed, if_neg Bool.false_ne_true]
  | tokenless hsuccess hnone =>
      rw [if_pos hsuccess, tokenOf_of_forall hnone]
      rfl
  | garbled hsuccess htoken hdecoded =>
      rw [if_pos hsuccess, tokenOf_of_carries htoken, decodeBody, hdecoded]
      rfl
  | noCompute hsuccess htoken hdecoded hcompute =>
      rw [if_pos hsuccess, tokenOf_of_carries htoken, decodeBody, hdecoded]
      change (selectEndpoint _ computeTypes _ _ >>= _) = _
      rw [selectEndpoint_of_forall hcompute]
      rfl
  | noVolume hsuccess htoken hdecoded hcompute hvolume =>
      obtain ⟨first, hfirst⟩ := exists_head_of_offers hcompute
      rw [if_pos hsuccess, tokenOf_of_carries htoken, decodeBody, hdecoded]
      change (selectEndpoint _ computeTypes _ _ >>= fun _ =>
        selectEndpoint _ volumeTypes _ _ >>= _) = _
      rw [selectEndpoint_of_head hfirst, selectEndpoint_of_forall hvolume]
      rfl
  | session hsuccess htoken hdecoded hcompute hvolume =>
      rw [if_pos hsuccess, tokenOf_of_carries htoken, decodeBody, hdecoded]
      change (selectEndpoint _ computeTypes _ _ >>= fun _ =>
        selectEndpoint _ volumeTypes _ _ >>= _) = _
      rw [selectEndpoint_of_head hcompute, selectEndpoint_of_head hvolume]
      rfl

theorem exists_opens (s : Settings.Cloud) (response : Http.Response) :
    ∃ outcome, Opens s response outcome := by
  cases hsuccess : response.isSuccess with
  | false => exact ⟨_, .rejected hsuccess⟩
  | true =>
      by_cases hcarries : ∃ token, Carries response token
      · obtain ⟨token, htoken⟩ := hcarries
        cases hdecoded : Json.decode loginRecord.decoder response.text with
        | error fault => exact ⟨_, .garbled hsuccess htoken hdecoded⟩
        | ok catalog =>
            by_cases hcompute : ∃ e, Offers s catalog computeTypes e
            · obtain ⟨compute, hcompute⟩ := hcompute
              by_cases hvolume : ∃ e, Offers s catalog volumeTypes e
              · obtain ⟨volume, hvolume⟩ := hvolume
                obtain ⟨_, hfirstCompute⟩ := exists_head_of_offers hcompute
                obtain ⟨_, hfirstVolume⟩ := exists_head_of_offers hvolume
                exact ⟨_, .session hsuccess htoken hdecoded hfirstCompute hfirstVolume⟩
              · exact ⟨_, .noVolume hsuccess htoken hdecoded hcompute (not_exists.mp hvolume)⟩
            · exact ⟨_, .noCompute hsuccess htoken hdecoded (not_exists.mp hcompute)⟩
      · exact ⟨_, .tokenless hsuccess (not_exists.mp hcarries)⟩

theorem sessionOf_eq_iff {outcome : Except Cloud.Error Session} :
    sessionOf s response = outcome ↔ Opens s response outcome := by
  obtain ⟨found, hfound⟩ := exists_opens s response
  rw [sessionOf_of_opens hfound]
  constructor
  · rintro rfl
    exact hfound
  · intro h
    exact (sessionOf_of_opens hfound).symm.trans (sessionOf_of_opens h)

end Answer

/-! ## Connecting -/

def loginRequest (s : Settings.Cloud) (url : Http.Url) : Http.Request where
  method := .post
  url := url
  body := some (loginBody s)

theorem run_exchange_bind {α : Type} (r : Http.Request)
    (f : Http.Response → Except Cloud.Error α) :
    (exchange r >>= fun response => ExceptT.mk (pure (f response))).run =
      .ask (I := interface) (.exchange r) fun reply =>
        .done (reply.mapError transportError >>= f) := by
  refine congrArg (Flow.ask (I := interface) _) (funext fun reply => ?_)
  cases reply <;> rfl

theorem login_eq {s : Settings.Cloud} {url : Http.Url}
    (hurl : Http.Url.parse (tokensUrl (s.authUrl.getD "")) = .ok url) :
    login s = exchange (loginRequest s url) >>= fun response =>
      ExceptT.mk (pure (sessionOf s response)) := by
  unfold login
  split
  · rename_i e hfails
    cases hfails.symm.trans hurl
  · rename_i found hfound
    cases hfound.symm.trans hurl
    rfl

theorem login_of_badUrl {s : Settings.Cloud} {e : Http.UrlError}
    (hurl : Http.Url.parse (tokensUrl (s.authUrl.getD "")) = .error e) :
    login s = throw (transportError (.badUrl e)) := by
  unfold login
  split
  · rename_i found hfound
    cases hfound.symm.trans hurl
    rfl
  · rename_i url hfound
    cases hfound.symm.trans hurl

theorem connect_eq_login {s : Settings.Cloud} (hchecked : s.checked = .ok ())
    (hbundle : s.certificates? = none) : connect s = login s := by
  have htrusted : onHost (trusted s) = (pure none : Action Cloud.Error (Option String)) := by
    rw [trusted, hbundle]
    rfl
  rw [connect, hchecked]
  dsimp only
  rw [htrusted, pure_bind]

/--
Without certificates to read, a connection is refused for the first thing that the settings lack,
and nothing is asked.  With complete settings and a URL of the web one login is posted to that host,
to the same URL in whatever way the endpoint is written.  It names user and project, and what is
opened is told by the first thing that is wrong with the answer.
-/
theorem connect_fails_closed {σ : Type} {answer : (r : Request) → StateM σ r.Answer}
    {s : Settings.Cloud} (hbundle : s.certificates? = none) (w : σ) :
    let run := (connect s).run.play answer w
    (∀ earlier r later, [.endpoint, .user, .password, .project] = earlier ++ r :: later →
      (∀ q ∈ earlier, ¬Lacks s q) → Lacks s r →
        run.value = .error (.config (Settings.Error.missing r).message) ∧ run.asked = [] ∧
        ∀ q, (Settings.Error.missing q).message = (Settings.Error.missing r).message → q = r) ∧
    (∀ given, (∀ r, ¬Lacks s r) → Http.Url.IsHttp (trim (s.authUrl.getD "")) given →
      ∃ url, Http.Url.parse (tokensUrl (s.authUrl.getD "")) = .ok url ∧
        url.scheme = "http" ∧ url.authority = given.authority ∧
        let request : Http.Request := { method := .post, url, body := some (loginBody s) }
        Names s (loginBody s) ∧ run.asked = [.exchange request] ∧
        ∀ response, (answer (.exchange request) w).1 = .ok response →
          ∀ outcome, run.value = outcome ↔ Opens s response outcome) ∧
    ∀ text endpoint, IsBare endpoint → Writes text endpoint →
      tokensUrl text = endpoint ++ "/v3/auth/tokens" := by
  intro run
  refine ⟨?_, ?_, ?_⟩
  · intro earlier r later horder hearlier hlacks
    have hrun : (connect s).run =
        .done (.error (.config (Settings.Error.missing r).message)) := by
      rw [connect, checked_of_lacks horder hearlier hlacks]
      rfl
    simp only [run, hrun]
    exact ⟨rfl, rfl, fun q => Requirement.message_inj⟩
  · intro given hcomplete hgiven
    obtain ⟨url, hurl, hscheme, hauthority⟩ := exists_tokensUrl hgiven
    have hchecked : s.checked = .ok () :=
      Settings.Cloud.checked_eq_ok_iff.mpr fun r => meets_iff.mpr (hcomplete r)
    have hrun : (connect s).run = .ask (I := interface) (.exchange (loginRequest s url))
        fun reply => .done (reply.mapError transportError >>= sessionOf s) := by
      rw [connect_eq_login hchecked hbundle, login_eq hurl, run_exchange_bind]
    simp only [run, hrun]
    refine ⟨url, hurl, hscheme, hauthority, names_loginBody hcomplete, rfl, ?_⟩
    intro response hresponse outcome
    rw [← sessionOf_eq_iff, Flow.play_ask, loginRequest, hresponse]
    rfl
  · intro text endpoint hbare hwrites
    exact tokensUrl_of_writes hbare hwrites

def smallSettings : Settings.Cloud where
  authUrl := some " http://k/v3/ "
  username := some "u"
  password := some "p"
  projectName := some "p"
  endpointInterface := ""

/-- A service with one endpoint, as a catalogue tells of it. -/
def toldService (kind url : String) : Json :=
  .object [("endpoints", .array [.object [("url", .string url)]]), ("type", .string kind)]

def smallCatalog : List Service :=
  [{ kind := "compute", endpoints := [{ url := "n/" }] },
    { kind := "volumev3", endpoints := [{ url := "c" }] }]

def grantedResponse : Http.Response where
  status := 201
  headers := [(tokenHeader, "t")]
  body := (Json.object [("token", .object
    [("catalog", .array [toldService "compute" "n/", toldService "volumev3" "c"])])]).compact

/-- One login is posted, which may be rejected; without a user there is none. -/
theorem connect_fails_closed_small :
    let connected s response :=
      (connect s).run.play (Peer.world fun _ => .ok response) bareHost
    let url : Http.Url :=
      { scheme := "http", authority := some { host := "k" },
        path := .segments ["v3", "auth", "tokens"] }
    (∀ response, (connected smallSettings response).asked =
      [.exchange { method := .post, url, body := some (loginBody smallSettings) }]) ∧
    (connected smallSettings grantedResponse).value = .ok ⟨"t", "n", "c"⟩ ∧
    (connected smallSettings { status := 401 }).value = .error (.authentication "401 ") ∧
    ∀ response, (connected { smallSettings with username := some " " } response).asked = [] := by
  intro connected url
  have hgiven : Http.Url.IsHttp (trim (smallSettings.authUrl.getD ""))
      { scheme := "http", authority := some { host := "k" }, path := .segments ["v3", ""] } :=
    { parsed := by decide +kernel
      scheme := rfl
      closed := by
        have hlast : (trim (smallSettings.authUrl.getD "")).toList.getLast? = some '/' := by
          decide +kernel
        intro c hc
        cases hlast.symm.trans hc
        rfl }
  have hcomplete : ∀ r, ¬Lacks smallSettings r := fun r =>
    meets_iff.mp (by cases r <;> decide +kernel)
  have hparse : Http.Url.parse (tokensUrl (smallSettings.authUrl.getD "")) = .ok url := by
    decide +kernel
  have hposted (response : Http.Response) : (connected smallSettings response).asked =
        [.exchange { method := .post, url, body := some (loginBody smallSettings) }] ∧
      ∀ outcome, (connected smallSettings response).value = outcome ↔
        Opens smallSettings response outcome := by
    obtain ⟨-, hposts, -⟩ := @connect_fails_closed _ (Peer.world fun _ => .ok response)
      smallSettings rfl bareHost
    obtain ⟨found, hfound, -, -, -, hasked, hopens⟩ := hposts _ hcomplete hgiven
    cases hparse.symm.trans hfound
    exact ⟨hasked, hopens response rfl⟩
  have hgranted : Opens smallSettings grantedResponse (.ok ⟨"t", "n", "c"⟩) := by
    have htoken : Carries grantedResponse "t" :=
      ⟨by simp [grantedResponse, Http.Response.header?], by decide +kernel⟩
    have hdecoded : Json.decode loginRecord.decoder grantedResponse.text = .ok smallCatalog := by
      decide +kernel
    have hcompute : (offers smallCatalog computeTypes (trim smallSettings.endpointInterface)
        smallSettings.region?).head? = some { url := "n/" } := by decide +kernel
    have hvolume : (offers smallCatalog volumeTypes (trim smallSettings.endpointInterface)
        smallSettings.region?).head? = some { url := "c" } := by decide +kernel
    have hurls : withoutSlashes "n/" = "n" ∧ withoutSlashes "c" = "c" := by decide +kernel
    have hopens := Opens.session rfl htoken hdecoded hcompute hvolume
    rwa [hurls.1, hurls.2] at hopens
  have hrejected : Opens smallSettings { status := 401 } (.error (.authentication "401 ")) := by
    have hmessage : Decimal.digitText 401 ++ " " ++
        trim (Http.Response.text { status := 401 }) = "401 " := by decide +kernel
    rw [← hmessage]
    exact .rejected rfl
  refine ⟨fun response => (hposted response).1, ((hposted _).2 _).mpr hgranted,
    ((hposted _).2 _).mpr hrejected, fun response => ?_⟩
  have hlacking (r : Settings.Requirement) :
      Lacks { smallSettings with username := some " " } r ↔ r = .user := by
    rw [← not_iff_not, ← meets_iff]
    cases r <;> decide +kernel
  obtain ⟨hlacks, -⟩ := @connect_fails_closed _ (Peer.world fun _ => .ok response)
    { smallSettings with username := some " " } rfl bareHost
  exact (hlacks [.endpoint] .user [.password, .project] rfl (by simp [hlacking])
    (by simp [hlacking])).2.1

end Rest

end NodeVolumes
