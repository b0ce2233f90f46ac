import NodeVolumes.Proofs.Rest.Waiting
import NodeVolumes.Proofs.SortedMap

/-!
# What answers come to

Every request of a session that is no listing is served by errands in turn (`Client.errands`): one,
or one poll after the other of a volume that is being created, or one for each key that is deleted.
What an answer comes to is told in one place for all of them (`Means`).  A run goes on with the next
errand where there is one to go on with, and otherwise ends with what its last answer came to
(`Client.Serves`), and nothing else (`answers_classified`).
-/

namespace NodeVolumes.Rest

open Cloud

abbrev Reply : Type :=
  Except Http.TransportError Http.Response

/-! ## Errands -/

/-- What is to be sent to a service. -/
structure Errand where
  method : Http.Method
  /-- The endpoint of the service. -/
  base : String
  segments : List String
  body : Option Json := none

/-- The request that an errand comes to at its URL, with the token of the session. -/
def Errand.request (e : Errand) (c : Client) (url : Http.Url) : Http.Request :=
  { method := e.method, url, token := some c.session.token, accept := "application/json"
    body := e.body }

/-- The exchanges of messages in a run, first one first. -/
def exchanges {σ α : Type} (run : Run interface σ α) : List (Http.Request × Reply) :=
  run.dialogue.filterMap fun
    | ⟨.exchange q, reply⟩ => some (q, reply)
    | ⟨.host _, _⟩ => none

namespace Client

variable (c : Client)

def pollErrand (volumeId : String) : Errand where
  method := .get
  base := c.session.volumeUrl
  segments := ["volumes", volumeId]

def deleteErrand (volumeId key : String) : Errand where
  method := .delete
  base := c.session.volumeUrl
  segments := ["volumes", volumeId, "metadata", key]

def mergeErrand (volumeId : String) (entries : SortedMap String) : Errand where
  method := .post
  base := c.session.volumeUrl
  segments := ["volumes", volumeId, "metadata"]
  body := some (.object [("metadata", .ofTexts entries)])

def attachErrand (instanceId volumeId : String) : Errand where
  method := .post
  base := c.session.computeUrl
  segments := ["servers", instanceId, "os-volume_attachments"]
  body := some (.object [("volumeAttachment", .object [("volumeId", .string volumeId)])])

def attachmentErrand (method : Http.Method) (instanceId volumeId : String) : Errand where
  method := method
  base := c.session.computeUrl
  segments := ["servers", instanceId, "os-volume_attachments", volumeId]

def hostErrand (backendHost : String) : Errand where
  method := .get
  base := c.session.volumeUrl
  segments := ["os-hosts", backendHost]

/-- What is sent, at the most, to serve a request that is no listing. -/
def errands : Cloud.Request → List Errand
  | .getVolume volumeId => List.replicate (max 1 c.creatingPolls) (c.pollErrand volumeId)
  | .changeMetadata volumeId entries .merge => [c.mergeErrand volumeId entries]
  | .changeMetadata volumeId entries .remove => entries.keys.map (c.deleteErrand volumeId)
  | .attach instanceId volumeId => [c.attachErrand instanceId volumeId]
  | .detach instanceId volumeId => [c.attachmentErrand .delete instanceId volumeId]
  | .getAttachment instanceId volumeId => [c.attachmentErrand .get instanceId volumeId]
  | .getRegistration backendHost => [c.hostErrand backendHost]
  | .findVolumes _ _ | .listInstances | .listHypervisors => []

end Client

/-! ## Answers -/

/-- What it comes to that a resource is not there. -/
inductive Absent : (r : Cloud.Request) → Except Error r.Value → Prop where
  | volume (volumeId : String) :
      Absent (.getVolume volumeId) (.error (.notFound "volume" volumeId))
  | merged (volumeId : String) (entries : SortedMap String) :
      Absent (.changeMetadata volumeId entries .merge) (.error (.notFound "volume" volumeId))
  | removed (volumeId : String) (entries : SortedMap String) :
      Absent (.changeMetadata volumeId entries .remove) (.ok ())
  | attached (instanceId volumeId : String) : Absent (.attach instanceId volumeId) (.ok false)
  | detached (instanceId volumeId : String) : Absent (.detach instanceId volumeId) (.ok false)
  | attachment (instanceId volumeId : String) :
      Absent (.getAttachment instanceId volumeId) (.ok none)
  | registration (backendHost : String) : Absent (.getRegistration backendHost) (.ok none)

/-- What the text of a success comes to, where it is read at all. -/
inductive Content (text : String) : (r : Cloud.Request) → Except Error r.Value → Prop where
  | volume {volumeId : String} {entry : VolumeEntry} :
      Json.decode volumeBody.decoder text = .ok (some entry) →
      Content text (.getVolume volumeId) (.ok entry.toVolume)
  | badVolume {volumeId : String} {fault : Json.Fault} :
      Json.decode volumeBody.decoder text = .error fault →
      Content text (.getVolume volumeId) (.error (.parse "volume" fault.message))
  | merged (volumeId : String) (entries : SortedMap String) :
      Content text (.changeMetadata volumeId entries .merge) (.ok ())
  | removed (volumeId : String) (entries : SortedMap String) :
      Content text (.changeMetadata volumeId entries .remove) (.ok ())
  | attached (instanceId volumeId : String) :
      Content text (.attach instanceId volumeId) (.ok true)
  | detached (instanceId volumeId : String) :
      Content text (.detach instanceId volumeId) (.ok true)
  | attachment {instanceId volumeId : String} {a : Attachment} :
      Json.decode attachmentBody.decoder text = .ok (some a) →
      Content text (.getAttachment instanceId volumeId) (.ok (some a))
  | badAttachment {instanceId volumeId : String} {fault : Json.Fault} :
      Json.decode attachmentBody.decoder text = .error fault →
      Content text (.getAttachment instanceId volumeId)
        (.error (.parse "volume attachment" fault.message))
  | registration {backendHost : String} {entries : List (Option String)} :
      Json.decode hostBody.decoder text = .ok entries →
      Content text (.getRegistration backendHost) (.ok (registrationOf backendHost entries))
  | badRegistration {backendHost : String} {fault : Json.Fault} :
      Json.decode hostBody.decoder text = .error fault →
      Content text (.getRegistration backendHost) (.error (.parse "storage host" fault.message))

/-- What comes back for one of the requests `q` that serve `r`, and what it comes to. -/
inductive Means (r : Cloud.Request) (q : Http.Request) : Reply → Except Error r.Value → Prop where
  | unreachable (e : Http.TransportError) : Means r q (.error e) (.error (transportError e))
  | refused {response : Http.Response} :
      response.status ≠ 404 → response.isSuccess = false →
      Means r q (.ok response)
        (.error (.http q.method.name q.url.text response.status (Text.trim response.text)))
  | missing {response : Http.Response} {outcome : Except Error r.Value} :
      response.status = 404 → Absent r outcome → Means r q (.ok response) outcome
  | accepted {response : Http.Response} {outcome : Except Error r.Value} :
      response.isSuccess = true → Content response.text r outcome →
      Means r q (.ok response) outcome

/-- Whether more is sent after an answer that came to a value. -/
def Continues : (r : Cloud.Request) → r.Value → Prop
  | .getVolume _, v => v.status = creatingStatus
  | .changeMetadata _ _ .remove, _ => True
  | _, _ => False

/-- A request is served by errands in turn: these are the exchanges, and this is the outcome. -/
inductive Client.Serves (c : Client) :
    (r : Cloud.Request) → List Errand → List (Http.Request × Reply) → Except Error r.Value →
      Prop where
  | nothing (volumeId : String) (entries : SortedMap String) :
      Serves c (.changeMetadata volumeId entries .remove) [] [] (.ok ())
  | misplaced {r : Cloud.Request} {errand : Errand} {rest : List Errand} {e : Error} :
      resourceUrl errand.base errand.segments = .error e →
      Serves c r (errand :: rest) [] (.error e)
  | ends {r : Cloud.Request} {errand : Errand} {rest : List Errand} {url : Http.Url}
      {reply : Reply} {outcome : Except Error r.Value} :
      resourceUrl errand.base errand.segments = .ok url →
      Means r (errand.request c url) reply outcome →
      (∀ v, outcome = .ok v → Continues r v → rest = []) →
      Serves c r (errand :: rest) [(errand.request c url, reply)] outcome
  | continues {r : Cloud.Request} {errand : Errand} {rest : List Errand} {url : Http.Url}
      {reply : Reply} {v : r.Value} {later : List (Http.Request × Reply)}
      {outcome : Except Error r.Value} :
      resourceUrl errand.base errand.segments = .ok url →
      Means r (errand.request c url) reply (.ok v) → Continues r v → rest ≠ [] →
      Serves c r rest later outcome →
      Serves c r (errand :: rest) ((errand.request c url, reply) :: later) outcome

/-! ### One outcome -/

variable {r : Cloud.Request} {q : Http.Request} {reply : Reply} {text : String} {c : Client}

theorem Absent.eq {outcome outcome' : Except Error r.Value} (h : Absent r outcome)
    (h' : Absent r outcome') : outcome = outcome' := by
  cases h <;> cases h' <;> rfl

theorem Content.eq {outcome outcome' : Except Error r.Value} (h : Content text r outcome)
    (h' : Content text r outcome') : outcome = outcome' := by
  cases h <;> cases h' <;> first | rfl | simp_all

/-- What comes back comes to one thing. -/
theorem Means.eq {outcome outcome' : Except Error r.Value} (h : Means r q reply outcome)
    (h' : Means r q reply outcome') : outcome = outcome' := by
  cases h with
  | unreachable e =>
      cases h'
      rfl
  | refused hstatus hrefused =>
      cases h' with
      | refused _ _ => rfl
      | missing hmissing _ => exact absurd hmissing hstatus
      | accepted hsuccess _ => cases hrefused.symm.trans hsuccess
  | missing hmissing habsent =>
      cases h' with
      | refused hstatus _ => exact absurd hmissing hstatus
      | missing _ habsent' => exact habsent.eq habsent'
      | accepted hsuccess _ => exact absurd hmissing (not_missing_of_isSuccess hsuccess)
  | accepted hsuccess hcontent =>
      cases h' with
      | refused _ hrefused => cases hrefused.symm.trans hsuccess
      | missing hmissing _ => exact absurd hmissing (not_missing_of_isSuccess hsuccess)
      | accepted _ hcontent' => exact hcontent.eq hcontent'

namespace Client

theorem Serves.eq {errands : List Errand} {found : List (Http.Request × Reply)}
    {outcome outcome' : Except Error r.Value} (h : c.Serves r errands found outcome)
    (h' : c.Serves r errands found outcome') : outcome = outcome' := by
  induction h with
  | nothing =>
      cases h'
      rfl
  | misplaced hurl =>
      cases h' with
      | misplaced hurl' =>
          cases hurl.symm.trans hurl'
          rfl
  | ends hurl hmeans hlast =>
      cases h' with
      | ends _ hmeans' _ => exact hmeans.eq hmeans'
      | continues _ hmeans' hcontinues hmore _ =>
          exact absurd (hlast _ (hmeans.eq hmeans') hcontinues) hmore
  | continues hurl hmeans hcontinues hmore hlater ih =>
      cases h' with
      | ends _ hmeans' hlast =>
          exact absurd (hlast _ (hmeans'.eq hmeans) hcontinues) hmore
      | continues _ _ _ _ hlater' => exact ih hlater'

end Client

/-! ## Runs -/

/-- What a client makes of what comes back, before it is read. -/
def verdict (q : Http.Request) : Reply → Except Error (Option Http.Response)
  | .error e => .error (transportError e)
  | .ok response => Client.classify q response

def Errand.sent {α : Type} (e : Errand) (c : Client)
    (next : Http.Url → Reply → Program (Except Error α)) : Program (Except Error α) :=
  match resourceUrl e.base e.segments with
  | .error err => .done (.error err)
  | .ok url => .ask (I := interface) (.exchange (e.request c url)) (next url)

theorem Errand.sent_of_url {α : Type} {errand : Errand} {url : Http.Url}
    (h : resourceUrl errand.base errand.segments = .ok url)
    (next : Http.Url → Reply → Program (Except Error α)) :
    errand.sent c next =
      .ask (I := interface) (.exchange (errand.request c url)) (next url) := by
  rw [Errand.sent, h]

theorem exchanges_after {σ α : Type} (run : Run interface σ α) (q : Http.Request)
    (reply : Reply) :
    exchanges (run.after [⟨.exchange q, reply⟩]) = (q, reply) :: exchanges run := rfl

/-- What comes back comes to what is made of it, if nothing and every success do. -/
theorem means_verdict {next : Option Http.Response → Except Error r.Value}
    (habsent : Absent r (next none))
    (hcontent : ∀ response, Content response.text r (next (some response)))
    (q : Http.Request) (reply : Reply) : Means r q reply ((verdict q reply).bind next) := by
  cases reply with
  | error e => exact .unreachable e
  | ok response =>
      rw [verdict, Client.classify]
      by_cases hmissing : response.status = 404
      · rw [if_pos hmissing]
        exact .missing hmissing habsent
      · rw [if_neg hmissing]
        cases hsuccess : response.isSuccess with
        | false => exact .refused hmissing hsuccess
        | true => exact .accepted hsuccess (hcontent response)

theorem Tells.means {volumeId : String} {errand : Errand} {url : Http.Url}
    (hmethod : errand.method = .get) {outcome : Except Error Volume}
    (h : Tells volumeId url reply outcome) :
    Means (.getVolume volumeId) (errand.request c url) reply outcome := by
  cases h with
  | unreachable e => exact .unreachable e
  | missing hmissing => exact .missing hmissing (.volume volumeId)
  | refused hmissing hrefused =>
      have hname : "GET" = (errand.request c url).method.name := by
        rw [Errand.request, hmethod, Http.Method.name]
      rw [hname]
      exact .refused hmissing hrefused
  | garbled hsuccess hdecoded => exact .accepted hsuccess (.badVolume hdecoded)
  | volume hsuccess hdecoded => exact .accepted hsuccess (.volume hdecoded)

section Programs

variable {σ α β : Type} (c : Client)

theorem run_sending (e : Errand) (next : Option Http.Response → Action Error α) :
    (do
        let url ← ExceptT.mk (pure (resourceUrl e.base e.segments))
        let found ← c.send e.method url e.body
        next found : Action Error α).run =
      e.sent c fun url reply =>
        match verdict (e.request c url) reply with
        | .error err => .done (.error err)
        | .ok found => (next found).run := by
  unfold Errand.sent
  cases resourceUrl e.base e.segments with
  | error err => rfl
  | ok url =>
      refine congrArg (Flow.ask (I := interface) _) (funext fun reply => ?_)
      cases reply with
      | error err => rfl
      | ok response =>
          dsimp only [verdict]
          change (Flow.done (Client.classify (e.request c url) response) >>= _ : Program _) >>= _ =
            _
          cases Client.classify (e.request c url) response <;> rfl

theorem run_sending_done (e : Errand) {next : Option Http.Response → Action Error α}
    (made : Option Http.Response → Except Error α)
    (h : ∀ found, (next found).run = .done (made found)) :
    (do
        let url ← ExceptT.mk (pure (resourceUrl e.base e.segments))
        let found ← c.send e.method url e.body
        next found : Action Error α).run =
      e.sent c fun url reply => .done ((verdict (e.request c url) reply).bind made) := by
  rw [run_sending]
  refine congrArg (e.sent c) (funext fun url => funext fun reply => ?_)
  cases verdict (e.request c url) reply with
  | error err => rfl
  | ok found => exact h found

theorem run_reading (base : String) (segments : List String) (resource : String)
    (decoder : Json.Decoder α) (read : Option α → β) :
    let made (found : Option Http.Response) : Except Error β :=
      found.elim (.ok (read none)) fun response =>
        (decodeBody decoder resource response).map fun a => read (some a)
    (do
        let url ← ExceptT.mk (pure (resourceUrl base segments))
        let found ← c.getOptional url resource decoder
        return read found : Action Error β).run =
      Errand.sent { method := .get, base, segments } c fun url reply =>
        .done ((verdict (c.pageRequest url) reply).bind made) := by
  intro made
  unfold Errand.sent
  cases resourceUrl base segments with
  | error err => rfl
  | ok url =>
      change (c.getOptional url resource decoder).run >>= ExceptT.bindCont _ = _
      rw [c.run_getOptional, Flow.ask_bind]
      refine congrArg (Flow.ask (I := interface) _) (funext fun reply => ?_)
      have hverdict : c.responseAt (fun _ => reply) url = verdict (c.pageRequest url) reply := by
        unfold Client.responseAt verdict
        cases reply <;> rfl
      unfold Client.valueAt
      rw [hverdict]
      dsimp only
      rcases verdict (c.pageRequest url) reply with err | _ | response
      · rfl
      · rfl
      · dsimp only [made, Except.bind, Option.elim]
        cases decodeBody decoder resource response <;> rfl

end Programs

/-! ## Requests that are served -/

namespace Client

variable {σ : Type} {answer : (r : Request) → StateM σ r.Answer} {s : σ}

/-- What one errand serves. -/
theorem Serves.once {errand : Errand} {next : Option Http.Response → Except Error r.Value}
    {program : Program (Except Error r.Value)}
    (hprogram : program = errand.sent c fun url reply =>
      .done ((verdict (errand.request c url) reply).bind next))
    (habsent : Absent r (next none))
    (hcontent : ∀ response, Content response.text r (next (some response))) :
    c.Serves r [errand] (exchanges (program.play answer s)) (program.play answer s).value := by
  rw [hprogram, Errand.sent]
  cases hurl : resourceUrl errand.base errand.segments with
  | error e => exact .misplaced hurl
  | ok url => exact .ends hurl (means_verdict habsent hcontent _ _) fun _ _ _ => rfl

/-- What a read value says, if there is one. -/
theorem content_decodeBody {α : Type} {decoder : Json.Decoder α} {resource : String}
    {read : α → r.Value} {response : Http.Response}
    (hfault : ∀ fault, Json.decode decoder response.text = .error fault →
      Content response.text r (.error (.parse resource fault.message)))
    (hfound : ∀ a, Json.decode decoder response.text = .ok a →
      Content response.text r (.ok (read a))) :
    Content response.text r ((decodeBody decoder resource response).map read) := by
  unfold decodeBody
  cases hdecoded : Json.decode decoder response.text with
  | error fault => exact hfault fault hdecoded
  | ok a => exact hfound a hdecoded

theorem serves_getVolume (volumeId : String) (again : Nat) (s : σ) :
    let run := (c.awaitVolume volumeId again).run.play answer s
    c.Serves (.getVolume volumeId) (List.replicate (again + 1) (c.pollErrand volumeId))
      (exchanges run) run.value := by
  intro run
  cases hurl : resourceUrl c.session.volumeUrl ["volumes", volumeId] with
  | error e =>
      have hrun : (c.awaitVolume volumeId again).run = .done (.error e) := by
        cases again <;>
        · unfold awaitVolume fetchVolume volumeUrl
          rw [hurl]
          rfl
      simp only [run, hrun]
      exact .misplaced hurl
  | ok url =>
      have hmeans (reply : Reply) : Means (.getVolume volumeId)
          ((c.pollErrand volumeId).request c url) reply (c.told volumeId url reply) :=
        (c.tells_told volumeId url reply).means rfl
      -- there are as many errands left as polls, so the last poll ends it whatever it tells
      induction again generalizing s with
      | zero =>
          simp only [run, awaitVolume, run_fetchVolume hurl]
          exact .ends hurl (hmeans _) fun _ _ _ => rfl
      | succ again ih =>
          simp only [run, run_awaitVolume_succ hurl, Flow.play_ask]
          have hfirst := hmeans (answer (.exchange (c.pageRequest url)) s).1
          cases htold : c.told volumeId url (answer (.exchange (c.pageRequest url)) s).1 with
          | error e =>
              rw [htold] at hfirst
              exact .ends hurl hfirst fun v hv => by cases hv
          | ok v =>
              rw [htold] at hfirst
              dsimp only
              by_cases hcreating : v.status = creatingStatus
              · rw [if_pos hcreating]
                exact .continues hurl hfirst hcreating (by simp [List.replicate_succ])
                  (ih _)
              · rw [if_neg hcreating]
                refine .ends hurl hfirst fun w hw hcontinues => ?_
                cases hw
                exact absurd hcontinues hcreating

theorem run_deleteMetadata_cons (c : Client) (volumeId key : String) (rest : List String) :
    (c.deleteMetadata volumeId (key :: rest)).run =
      (c.deleteErrand volumeId key).sent c fun url reply =>
        match verdict ((c.deleteErrand volumeId key).request c url) reply with
        | .error err => .done (.error err)
        | .ok _ => (c.deleteMetadata volumeId rest).run :=
  run_sending c (c.deleteErrand volumeId key) fun _ => c.deleteMetadata volumeId rest

theorem serves_deleteMetadata (volumeId : String) (entries : SortedMap String)
    (keys : List String) (s : σ) :
    let run := (c.deleteMetadata volumeId keys).run.play answer s
    c.Serves (.changeMetadata volumeId entries .remove) (keys.map (c.deleteErrand volumeId))
      (exchanges run) run.value := by
  induction keys generalizing s with
  | nil => exact .nothing volumeId entries
  | cons key rest ih =>
      intro run
      let errand := c.deleteErrand volumeId key
      simp only [run, run_deleteMetadata_cons, Errand.sent]
      cases hurl : resourceUrl errand.base errand.segments with
      | error e => exact .misplaced hurl
      | ok url =>
          let reply : Reply := (answer (.exchange (errand.request c url)) s).1
          have hmeans : Means (.changeMetadata volumeId entries .remove) (errand.request c url)
              reply ((verdict (errand.request c url) reply).bind fun _ => .ok ()) :=
            means_verdict (.removed volumeId entries) (fun _ => .removed volumeId entries) _ _
          dsimp only
          rw [Flow.play_ask]
          cases hverdict : verdict (errand.request c url) reply with
          | error e =>
              rw [hverdict] at hmeans
              exact .ends hurl hmeans fun v hv => by cases hv
          | ok found =>
              rw [hverdict] at hmeans
              have hrest := ih (answer (.exchange (errand.request c url)) s).2
              cases rest with
              | nil => exact .ends hurl hmeans fun _ _ _ => rfl
              | cons next more => exact .continues hurl hmeans trivial (List.cons_ne_nil _ _) hrest

/-- Every request that is no listing is served by its errands, with any fuel. -/
theorem exists_serves (hr : c.listing? r = none) :
    ∃ program : Program (Except Error r.Value),
      (∀ fuel, c.serve fuel r = OptionT.lift program) ∧
        ∀ {σ : Type} (answer : (r : Request) → StateM σ r.Answer) (s : σ),
          let run := program.play answer s
          c.Serves r (c.errands r) (exchanges run) run.value := by
  cases r with
  | findVolumes key value => cases hr
  | listInstances => cases hr
  | listHypervisors => cases hr
  | getVolume volumeId =>
      have hpolls : max 1 c.creatingPolls = c.creatingPolls - 1 + 1 := by omega
      rw [errands, hpolls]
      exact ⟨_, fun _ => rfl, fun _ => serves_getVolume volumeId (c.creatingPolls - 1)⟩
  | changeMetadata volumeId entries change =>
      cases change with
      | merge =>
          let made (found : Option Http.Response) : Except Error Unit :=
            if found.isSome then .ok () else .error (.notFound "volume" volumeId)
          exact ⟨_, fun _ => rfl, fun _ _ => .once (run_sending_done c
            (c.mergeErrand volumeId entries) made fun found => by cases found <;> rfl)
            (.merged volumeId entries) fun _ => .merged volumeId entries⟩
      | remove =>
          exact ⟨_, fun _ => rfl, fun _ => serves_deleteMetadata volumeId entries entries.keys⟩
  | attach instanceId volumeId =>
      exact ⟨_, fun _ => rfl, fun _ _ => .once (run_sending_done c
        (c.attachErrand instanceId volumeId) (fun found => .ok found.isSome) fun _ => rfl)
        (.attached instanceId volumeId) fun _ => .attached instanceId volumeId⟩
  | detach instanceId volumeId =>
      exact ⟨_, fun _ => rfl, fun _ _ => .once (run_sending_done c
        (c.attachmentErrand .delete instanceId volumeId) (fun found => .ok found.isSome)
        fun _ => rfl) (.detached instanceId volumeId) fun _ => .detached instanceId volumeId⟩
  | getAttachment instanceId volumeId =>
      refine ⟨_, fun _ => rfl, fun _ _ => .once (run_reading c _ _ "volume attachment"
        attachmentBody.decoder fun found => found.bind id) (.attachment instanceId volumeId)
        fun response => content_decodeBody (fun _ hfault => .badAttachment hfault)
          fun found hfound => ?_⟩
      obtain ⟨a, rfl⟩ := Option.isSome_iff_exists.mp (isSome_of_decode_single hfound)
      exact .attachment hfound
  | getRegistration backendHost =>
      exact ⟨_, fun _ => rfl, fun _ _ => .once (run_reading c _ _ "storage host" hostBody.decoder
        fun entries => entries.bind (registrationOf backendHost)) (.registration backendHost)
        fun response => content_decodeBody (fun _ hfault => .badRegistration hfault)
          fun _ hfound => .registration hfound⟩

/-- So it has an outcome, which its errands have. -/
theorem exists_outcome (hr : c.listing? r = none) (fuel : Nat)
    (answer : (r : Request) → StateM σ r.Answer) (s : σ) :
    let run := (c.serve fuel r).run.play answer s
    ∃ outcome, run.value = some outcome ∧ c.Serves r (c.errands r) (exchanges run) outcome := by
  obtain ⟨program, hprogram, hserves⟩ := exists_serves (c := c) hr
  rw [hprogram, Flow.play_liftOption]
  exact ⟨_, rfl, hserves answer s⟩

theorem Serves.token_eq {errands : List Errand} {found : List (Http.Request × Reply)}
    {outcome : Except Error r.Value} (h : c.Serves r errands found outcome) :
    ∀ x ∈ found, x.1.token = some c.session.token := by
  induction h with
  | nothing => simp
  | misplaced => simp
  | ends =>
      intro x hx
      rw [List.mem_singleton.mp hx]
      rfl
  | continues _ _ _ _ _ ih =>
      intro x hx
      rcases List.mem_cons.mp hx with rfl | hx
      · rfl
      · exact ih x hx

end Client

/-- One request was made, and answered with success. -/
def Accepted (found : List (Http.Request × Reply)) : Prop :=
  ∃ q response, found = [(q, .ok response)] ∧ response.isSuccess = true

theorem Client.Serves.accepted {errand : Errand} {found : List (Http.Request × Reply)} {v : r.Value}
    (h : c.Serves r [errand] found (.ok v)) (habsent : ¬Absent r (.ok v)) : Accepted found := by
  generalize houtcome : (Except.ok v : Except Error r.Value) = outcome at h habsent
  cases h with
  | misplaced _ => cases houtcome
  | ends _ hmeans _ =>
      cases hmeans with
      | unreachable => cases houtcome
      | refused => cases houtcome
      | missing _ hnone => exact absurd hnone habsent
      | accepted hsuccess _ => exact ⟨_, _, rfl, hsuccess⟩
  | continues _ _ _ hmore _ => exact absurd rfl hmore

/-! ### Keys that are deleted -/

/-- What comes back tells of a success, or of a resource that is not there. -/
def Passed (reply : Reply) : Prop :=
  ∃ response, reply = .ok response ∧ (response.status = 404 ∨ response.isSuccess = true)

section Removal

variable {volumeId : String} {entries : SortedMap String}

theorem Means.removed_iff
    {outcome : Except Error (Cloud.Request.changeMetadata volumeId entries .remove).Value}
    (h : Means _ q reply outcome) :
    outcome = .ok () ↔ Passed reply := by
  cases h with
  | unreachable e => simp [Passed]
  | refused hmissing hrefused => simp [Passed, hmissing, hrefused]
  | missing hmissing habsent =>
      cases habsent
      simp [Passed, hmissing]
  | accepted hsuccess hcontent =>
      cases hcontent
      simp [Passed, hsuccess]

def Client.Deletes (c : Client) (volumeId key : String) (q : Http.Request) : Prop :=
  ∃ url, resourceUrl c.session.volumeUrl ["volumes", volumeId, "metadata", key] = .ok url ∧
    q = (c.deleteErrand volumeId key).request c url

/-- Keys are deleted one after the other, the next one only if the answer about the last one has
passed. -/
theorem Client.Serves.removed {keys : List String} {found : List (Http.Request × Reply)}
    {outcome : Except Error Unit}
    (h : c.Serves (.changeMetadata volumeId entries .remove) (keys.map (c.deleteErrand volumeId))
      found outcome) :
    ∃ count ≤ keys.length,
      List.Forall₂ (fun key x => c.Deletes volumeId key x.1) (keys.take count) found ∧
      (∀ x ∈ found.dropLast, Passed x.2) ∧
      (outcome = .ok () ↔ count = keys.length ∧ ∀ x ∈ found, Passed x.2) := by
  induction keys generalizing found with
  | nil =>
      cases h
      exact ⟨0, Nat.le_refl 0, .nil, by simp, by simp⟩
  | cons key rest ih =>
      cases h with
      | misplaced hurl => exact ⟨0, Nat.zero_le _, .nil, by simp, by simp⟩
      | ends hurl hmeans hlast =>
          refine ⟨1, by simp, .cons ⟨_, hurl, rfl⟩ .nil, by simp, ?_⟩
          have hpassed := hmeans.removed_iff
          constructor
          · intro hok
            have hrest : rest = [] := by simpa using hlast () hok trivial
            exact ⟨by simp [hrest], by simpa using hpassed.mp hok⟩
          · rintro ⟨-, hall⟩
            exact hpassed.mpr (hall _ List.mem_cons_self)
      | @continues _ _ _ _ _ _ later _ hurl hmeans _ _ hlater =>
          obtain ⟨count, hcount, hdeleted, hbefore, hok⟩ := ih hlater
          have hpassed := hmeans.removed_iff.mp rfl
          refine ⟨count + 1, Nat.succ_le_succ hcount, .cons ⟨_, hurl, rfl⟩ hdeleted, ?_, ?_⟩
          · cases later with
            | nil => simp
            | cons x more =>
                intro y hy
                rcases List.mem_cons.mp hy with rfl | hy
                · exact hpassed
                · exact hbefore y hy
          · rw [hok, List.length_cons, Nat.add_right_cancel_iff]
            simp [hpassed]

end Removal

/--
Whatever is answered and with any fuel, a request of a session that is no listing is served by its
errands in turn and comes to what the last answer comes to, and to nothing else; each of these
requests carries the token of the session.  An attachment or its end is accepted only with an answer
of success.  Keys are deleted in ascending order, all of them if no answer but the last is an error.
-/
theorem answers_classified {σ : Type} (c : Client) (answer : (r : Request) → StateM σ r.Answer)
    (fuel : Nat) (s : σ) :
    let run (r : Cloud.Request) := (c.serve fuel r).run.play answer s
    (∀ r, c.listing? r = none →
      (run r).value ≠ none ∧
      (∀ outcome, (run r).value = some outcome ↔
        c.Serves r (c.errands r) (exchanges (run r)) outcome) ∧
      ∀ x ∈ exchanges (run r), x.1.token = some c.session.token) ∧
    (∀ instanceId volumeId, (run (.attach instanceId volumeId)).value = some (.ok true) →
      Accepted (exchanges (run (.attach instanceId volumeId)))) ∧
    (∀ instanceId volumeId, (run (.detach instanceId volumeId)).value = some (.ok true) →
      Accepted (exchanges (run (.detach instanceId volumeId)))) ∧
    ∀ volumeId (entries : SortedMap String),
      let removal := run (.changeMetadata volumeId entries .remove)
      entries.keys.Pairwise (· < ·) ∧ ∃ count ≤ entries.keys.length,
        List.Forall₂ (fun key x => c.Deletes volumeId key x.1) (entries.keys.take count)
          (exchanges removal) ∧
        (∀ x ∈ (exchanges removal).dropLast, Passed x.2) ∧
        (removal.value = some (.ok ()) ↔
          count = entries.keys.length ∧ ∀ x ∈ exchanges removal, Passed x.2) := by
  intro run
  have hserves (r : Cloud.Request) (hr : c.listing? r = none) :
      ∃ outcome, (run r).value = some outcome ∧
        c.Serves r (c.errands r) (exchanges (run r)) outcome :=
    Client.exists_outcome hr fuel answer s
  refine ⟨fun r hr => ?_, fun instanceId volumeId hvalue => ?_,
    fun instanceId volumeId hvalue => ?_, fun volumeId entries => ⟨entries.pairwise_keys, ?_⟩⟩
  · obtain ⟨outcome, hvalue, hserved⟩ := hserves r hr
    rw [hvalue]
    refine ⟨Option.some_ne_none outcome, fun other => ⟨?_, fun h => ?_⟩, hserved.token_eq⟩
    · rintro ⟨⟩
      exact hserved
    · rw [hserved.eq h]
  · obtain ⟨outcome, houtcome, hattach⟩ := hserves (.attach instanceId volumeId) rfl
    cases houtcome.symm.trans hvalue
    exact hattach.accepted fun habsent => by cases habsent
  · obtain ⟨outcome, houtcome, hdetach⟩ := hserves (.detach instanceId volumeId) rfl
    cases houtcome.symm.trans hvalue
    exact hdetach.accepted fun habsent => by cases habsent
  · obtain ⟨outcome, houtcome, hremoval⟩ :=
      hserves (.changeMetadata volumeId entries .remove) rfl
    simpa only [houtcome, Option.some.injEq] using hremoval.removed

/-- A first answer that a resource is not there, and then that the service is busy. -/
def absentThenBusy (n : Nat) : Reply :=
  .ok (if n = 0 then { status := 404 } else { status := 503, body := " busy\n" })

/-- Of three keys the first is passed over, and the third is not deleted after an error about the
second. -/
theorem answers_classified_busy :
    let entries := ((SortedMap.empty.insert "c" "3").insert "a" "1").insert "b" "2"
    let removal := (smallClient.serve 0 (.changeMetadata "v" entries .remove)).run.play
      (inTurn absentThenBusy) (0, bareHost)
    (exchanges removal).map (fun x => (x.1.method, x.1.url.text)) =
      [(.delete, "http://cinder/volumes/v/metadata/a"),
        (.delete, "http://cinder/volumes/v/metadata/b")] ∧
      removal.value =
        some (.error (.http "DELETE" "http://cinder/volumes/v/metadata/b" 503 "busy")) := by
  intro entries removal
  let place (key : String) : Http.Url :=
    { scheme := "http", authority := some { host := "cinder" }
      path := .segments ["volumes", "v", "metadata", key] }
  let sent (key : String) : Http.Request :=
    (smallClient.deleteErrand "v" key).request smallClient (place key)
  have hkeys : entries.keys = ["a", "b", "c"] := by decide
  have hplace : ∀ key ∈ ["a", "b"],
      resourceUrl "http://cinder" ["volumes", "v", "metadata", key] = .ok (place key) := by
    decide +kernel
  have hurl (key : String) (hkey : key ∈ ["a", "b"]) :
      resourceUrl (smallClient.deleteErrand "v" key).base
        (smallClient.deleteErrand "v" key).segments = .ok (place key) := hplace key hkey
  have hfound : exchanges removal =
      [(sent "a", absentThenBusy 0), (sent "b", absentThenBusy 1)] := by
    change exchanges ((OptionT.lift (smallClient.deleteMetadata "v" entries.keys).run).run.play
      _ _) = _
    rw [Flow.play_liftOption, hkeys]
    change exchanges ((smallClient.deleteMetadata "v" ["a", "b", "c"]).run.play _ _) = _
    rw [Client.run_deleteMetadata_cons, Errand.sent_of_url (hurl "a" (by decide)),
      Flow.play_ask, exchanges_after]
    change _ :: exchanges ((smallClient.deleteMetadata "v" ["b", "c"]).run.play
      (inTurn absentThenBusy) (1, bareHost)) = _
    rw [Client.run_deleteMetadata_cons, Errand.sent_of_url (hurl "b" (by decide)),
      Flow.play_ask, exchanges_after]
    rfl
  have hbusy : Means (.changeMetadata "v" entries .remove) (sent "b") (absentThenBusy 1)
      (.error (.http "DELETE" "http://cinder/volumes/v/metadata/b" 503 "busy")) := by
    have htext : (place "b").text = "http://cinder/volumes/v/metadata/b" := by decide +kernel
    have htrim : Text.trim (Http.Response.text { status := 503, body := " busy\n" }) = "busy" := by
      decide +kernel
    rw [← htext, ← htrim]
    exact .refused (by decide) rfl
  refine ⟨?_, ?_⟩
  · rw [hfound]
    decide +kernel
  · obtain ⟨hclassified, -⟩ :=
      answers_classified smallClient (inTurn absentThenBusy) 0 (0, bareHost)
    refine ((hclassified (.changeMetadata "v" entries .remove) rfl).2.1 _).mpr ?_
    change smallClient.Serves _ (entries.keys.map _) (exchanges removal) _
    rw [hkeys, hfound]
    exact .continues (hurl "a" (by decide)) (.missing rfl (.removed "v" entries)) trivial (by simp)
      (.ends (hurl "b" (by decide)) hbusy fun v hv => by cases hv)

end NodeVolumes.Rest
