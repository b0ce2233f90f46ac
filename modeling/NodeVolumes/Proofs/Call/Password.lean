import NodeVolumes.Call.Answer
import NodeVolumes.Call.World
import NodeVolumes.Proofs.Flow.Run
import NodeVolumes.Proofs.Rest.Login

/-!
# What the password reaches

Settings that differ in their passwords alone lead to two runs.  Nobody can tell these apart but
the one who reads the body of a login: programs built from such settings are `Twins`, which ask the
same and go on as twins whatever they are answered, and in a world that pays no heed to the bodies
of logins, present or past (`Blind`), twins are answered the same step after step (`Twins.play`).
So sessions, the calls made in them and operations come to the same with either password
(`password_confined`).  The modelled world is blind in any state (`World.blind`).
-/

namespace NodeVolumes

/-- The routes of a network are found by method and URL alone. -/
theorem Http.Network.respond_congr {q q' : Request} (hmethod : q.method = q'.method)
    (hurl : q.url = q'.url) (routes : List Route) : respond q routes = respond q' routes := by
  have hanswers (route : Route) : route.answers q = route.answers q' := by
    simp only [Route.answers, hmethod, hurl]
  induction routes with
  | nil => rfl
  | cons route rest ih => simp only [respond, hanswers, hurl, ih]

namespace Call

/-- Settings that differ in their passwords alone, both of which are given. -/
structure SameButPassword (s s' : Settings.Cloud) : Prop where
  others : ∃ password, s' = { s with password }
  given : ¬Rest.Lacks s .password
  given' : ¬Rest.Lacks s' .password

/-! ## Logins among requests -/

/-- A request for a token, whatever its body. -/
def IsLogin (s : Settings.Cloud) (q : Http.Request) : Prop :=
  q.method = .post ∧ q.token = none ∧
    Http.Url.parse (Rest.tokensUrl (s.authUrl.getD "")) = .ok q.url

instance (s : Settings.Cloud) : DecidablePred (IsLogin s) := fun _ =>
  inferInstanceAs (Decidable (_ ∧ _ ∧ _))

/-- An exchange as it looks to those who do not read the bodies of logins. -/
def blanked (s : Settings.Cloud) (q : Http.Request) : Http.Request :=
  if IsLogin s q then { q with body := none } else q

@[simp] theorem method_blanked (s : Settings.Cloud) (q : Http.Request) :
    (blanked s q).method = q.method := by
  unfold blanked
  split <;> rfl

@[simp] theorem url_blanked (s : Settings.Cloud) (q : Http.Request) :
    (blanked s q).url = q.url := by
  unfold blanked
  split <;> rfl

/-- Exchanges that look the same go to the same place in the same way. -/
theorem method_url_of_blanked {s : Settings.Cloud} {q q' : Http.Request}
    (h : blanked s q = blanked s q') : q.method = q'.method ∧ q.url = q'.url :=
  ⟨by simpa using congrArg Http.Request.method h, by simpa using congrArg Http.Request.url h⟩

/-- Logins at one URL look the same, whatever settings their bodies are made of. -/
theorem blanked_loginRequest {s : Settings.Cloud} {url : Http.Url}
    (hurl : Http.Url.parse (Rest.tokensUrl (s.authUrl.getD "")) = .ok url) (t : Settings.Cloud) :
    blanked s (Rest.loginRequest t url) = { method := .post, url } := by
  rw [blanked, if_pos ⟨rfl, rfl, hurl⟩]
  rfl

/-- A request as it looks to those who do not read the bodies of logins. -/
def Request.blanked (s : Settings.Cloud) : Request → Request
  | .exchange q => .exchange (Call.blanked s q)
  | r => r

/-! ## Worlds that do not read the bodies of logins -/

section Worlds

variable {σ : Type} (answer : (r : Request) → StateM σ r.Answer)

def stateAfter (w : σ) (requests : List Request) : σ :=
  requests.foldl (fun w r => (answer r w).2) w

theorem stateAfter_concat (w : σ) (requests : List Request) (r : Request) :
    stateAfter answer w (requests ++ [r]) = (answer r (stateAfter answer w requests)).2 := by
  rw [stateAfter, List.foldl_append]
  rfl

/-- No answer depends on the body of a login, that of the request or one before it. -/
structure Blind (s : Settings.Cloud) (w : σ) : Prop where
  past : ∀ before before' : List Request,
    before.map (Request.blanked s) = before'.map (Request.blanked s) →
      ∀ r, (answer r (stateAfter answer w before)).1 = (answer r (stateAfter answer w before')).1
  present : ∀ (before : List Request) (q q' : Http.Request), blanked s q = blanked s q' →
    (answer (.exchange q) (stateAfter answer w before)).1 =
      (answer (.exchange q') (stateAfter answer w before)).1

/-- Runs that nobody can tell apart who does not read the bodies of logins. -/
structure LooksLike (s : Settings.Cloud) {α : Type} (run run' : Run interface σ α) : Prop where
  value : run.value = run'.value
  asked : run.asked.map (Request.blanked s) = run'.asked.map (Request.blanked s)

/-- Runs look alike that begin with requests that do and go on in runs that do. -/
theorem looksLike_ask {s : Settings.Cloud} {α : Type} {r r' : Request}
    {next : r.Answer → Program α} {next' : r'.Answer → Program α} {w w' : σ}
    (alike : r.blanked s = r'.blanked s)
    (rest : LooksLike s ((next (answer r w).1).play answer (answer r w).2)
      ((next' (answer r' w').1).play answer (answer r' w').2)) :
    LooksLike s (Flow.play (I := interface) answer (.ask r next) w)
      (Flow.play (I := interface) answer (.ask r' next') w') where
  value := rest.value
  asked := by simpa [alike] using rest.asked

end Worlds

/-! ## Twins -/

/-- Programs that ask the same, up to the bodies of logins, and go on so after every answer. -/
inductive Twins (s : Settings.Cloud) {α : Type} : Program α → Program α → Prop where
  | done (value : α) : Twins s (.done value) (.done value)
  | ask (r : Request) {next next' : r.Answer → Program α}
      (rest : ∀ reply, Twins s (next reply) (next' reply)) :
      Twins s (.ask (I := interface) r next) (.ask (I := interface) r next')
  | exchange {q q' : Http.Request}
      {next next' : Except Http.TransportError Http.Response → Program α}
      (alike : blanked s q = blanked s q')
      (rest : ∀ reply, Twins s (next reply) (next' reply)) :
      Twins s (.ask (I := interface) (.exchange q) next)
        (.ask (I := interface) (.exchange q') next')

namespace Twins

variable {s : Settings.Cloud} {α β : Type}

theorem refl (program : Program α) : Twins s program program := by
  induction program with
  | done value => exact .done value
  | ask r next ih => exact .ask r ih

theorem bind {p p' : Program α} {f f' : α → Program β} (first : Twins s p p')
    (rest : ∀ a, Twins s (f a) (f' a)) : Twins s (p >>= f) (p' >>= f') := by
  induction first with
  | done value => exact rest value
  | ask r _ ih => exact .ask r ih
  | exchange alike _ ih => exact .exchange alike ih

/--
Twins have runs that look alike in a blind world, after any requests that look alike.

The induction follows the steps of the twins; what carries it is that all the requests made so far
look alike, so that the next answer is the same.
-/
theorem play {σ : Type} {answer : (r : Request) → StateM σ r.Answer} {w : σ}
    (blind : Blind answer s w) {p p' : Program α} (twins : Twins s p p')
    {before before' : List Request}
    (looks : before.map (Request.blanked s) = before'.map (Request.blanked s)) :
    LooksLike s (p.play answer (stateAfter answer w before))
      (p'.play answer (stateAfter answer w before')) := by
  induction twins generalizing before before' with
  | done value => exact ⟨rfl, rfl⟩
  | ask r _ ih =>
      have hreply := blind.past before before' looks r
      have hlooks : (before ++ [r]).map (Request.blanked s) =
          (before' ++ [r]).map (Request.blanked s) := by
        simp [looks]
      have hrest := ih (answer r (stateAfter answer w before)).1 hlooks
      rw [stateAfter_concat, stateAfter_concat] at hrest
      exact looksLike_ask answer rfl (hreply ▸ hrest)
  | @exchange q q' _ _ alike _ ih =>
      have hblanked : (Request.exchange q).blanked s = (Request.exchange q').blanked s :=
        congrArg Request.exchange alike
      have hreply := (blind.present before q q' alike).trans
        (blind.past before before' looks (.exchange q'))
      have hlooks : (before ++ [Request.exchange q]).map (Request.blanked s) =
          (before' ++ [Request.exchange q']).map (Request.blanked s) := by
        simp [looks, hblanked]
      have hrest := ih (answer (.exchange q) (stateAfter answer w before)).1 hlooks
      rw [stateAfter_concat, stateAfter_concat] at hrest
      exact looksLike_ask answer hblanked (hreply ▸ hrest)

/-- What may still be going on is continued as twins from each value that it comes to. -/
theorem bindOption {p p' : OptionT Program α} {f f' : α → OptionT Program β}
    (first : Twins s p.run p'.run) (rest : ∀ a, Twins s (f a).run (f' a).run) :
    Twins s (p >>= f).run (p' >>= f').run := by
  refine first.bind fun found => ?_
  cases found with
  | none => exact refl _
  | some a => exact rest a

/-- Serving a series of things as twins do is a pair of twins. -/
theorem mapM {f f' : α → Program β} (each : ∀ a, Twins s (f a) (f' a)) (l : List α) :
    Twins s (l.mapM f) (l.mapM f') := by
  induction l with
  | nil => exact refl _
  | cons a rest ih =>
      rw [List.mapM_cons, List.mapM_cons]
      exact (each a).bind fun b => ih.bind fun bs => refl _

end Twins

/-! ## Sessions, calls and operations -/

section Programs

variable {s s' : Settings.Cloud}

theorem checked_of_sameButPassword (h : SameButPassword s s') : s'.checked = s.checked := by
  obtain ⟨password, rfl⟩ := h.others
  have hmeets (r : Settings.Requirement) :
      ({ s with password } : Settings.Cloud).meets r = s.meets r := by
    cases r with
    | password => rw [Rest.meets_iff.mpr h.given, Rest.meets_iff.mpr h.given']
    | _ => rfl
  simp only [Settings.Cloud.checked, Settings.Cloud.missing?, hmeets]

/-- Actions of the client are twins if they begin as twins and go on as twins from each value. -/
theorem twins_ofClient_bind {ε α β : Type} {first first' : Rest.Action ε α}
    {f f' : α → Rest.Action ε β} (hfirst : Twins s (ofClient first.run) (ofClient first'.run))
    (hrest : ∀ a, Twins s (ofClient (f a).run) (ofClient (f' a).run)) :
    Twins s (ofClient (first >>= f).run) (ofClient (first' >>= f').run) := by
  have hbind (x : Rest.Action ε α) (g : α → Rest.Action ε β) : ofClient (x >>= g).run =
      ofClient x.run >>= fun result => ofClient (ExceptT.bindCont g result) :=
    Flow.foldM_bind _ _ _
  rw [hbind, hbind]
  refine hfirst.bind fun result => ?_
  cases result with
  | ok a => exact hrest a
  | error e => exact .done _

/-- The two logins differ in the passwords in their bodies, and in nothing else. -/
theorem twins_login (h : SameButPassword s s') :
    Twins s (ofClient (Rest.login s).run) (ofClient (Rest.login s').run) := by
  obtain ⟨password, rfl⟩ := h.others
  cases hurl : Http.Url.parse (Rest.tokensUrl (s.authUrl.getD "")) with
  | error e =>
      rw [Rest.login_of_badUrl hurl, Rest.login_of_badUrl (s := { s with password }) hurl]
      exact .refl _
  | ok url =>
      rw [Rest.login_eq hurl, Rest.login_eq (s := { s with password }) hurl,
        Rest.run_exchange_bind, Rest.run_exchange_bind]
      refine .exchange ?_ fun reply => .refl _
      rw [blanked_loginRequest hurl, blanked_loginRequest hurl]

theorem twins_connect (h : SameButPassword s s') :
    Twins s (ofClient (Rest.connect s).run) (ofClient (Rest.connect s').run) := by
  rw [Rest.connect, Rest.connect, checked_of_sameButPassword h]
  cases s.checked with
  | error e => exact .refl _
  | ok _ =>
      have hread : Rest.trusted s' = Rest.trusted s := by
        obtain ⟨password, rfl⟩ := h.others
        rfl
      dsimp only
      rw [hread]
      exact twins_ofClient_bind (.refl _) fun _ => twins_login h

theorem twins_connectWith (h : SameButPassword s s') :
    Twins s (connectWith (pure s)).run (connectWith (pure s')).run := by
  have hrun (t : Settings.Cloud) : (connectWith (pure t)).run =
      ofClient (Rest.connect t).run >>= ExceptT.bindCont fun session => pure { session } := rfl
  rw [hrun, hrun]
  exact (twins_connect h).bind fun result => .refl _

variable {connect connect' : Action Cloud.Error Rest.Client}

theorem twins_operationRequest (h : Twins s connect.run connect'.run) (fuel : Nat)
    (r : Kubelet.Request) (open? : Option Rest.Client) :
    Twins s (operationRequest fuel connect r open?).run
      (operationRequest fuel connect' r open?).run := by
  cases r with
  | connect =>
      refine Twins.bindOption ?_ fun result => .refl _
      exact h.bind fun result => .refl _
  | placement r => exact .refl _
  | host r => exact .refl _

/-- An operation goes on as twins from one request to the next, with the session that is open. -/
theorem twins_ofOperation {α : Type} (h : Twins s connect.run connect'.run) (fuel : Nat)
    (program : Kubelet.Program α) :
    Twins s (ofOperation fuel connect program).run (ofOperation fuel connect' program).run := by
  refine Twins.bindOption ?_ fun _ => .refl _
  generalize (none : Option Rest.Client) = open?
  induction program generalizing open? with
  | done value => exact .refl _
  | ask r next ih =>
      exact (twins_operationRequest h fuel r open?).bindOption fun (reply, open?) => ih reply open?

end Programs

/-! ## The modelled world -/

/-- Worlds that differ only in what their networks remember of requests. -/
def World.SameButHistory (w w' : World) : Prop :=
  ∃ history, w' = { w with network := { w.network with history } }

theorem World.answer_exchange {w w' : World} {q q' : Http.Request} (same : w.SameButHistory w')
    (hmethod : q.method = q'.method) (hurl : q.url = q'.url) :
    (World.answer (.exchange q) w).1 = (World.answer (.exchange q') w').1 ∧
      (World.answer (.exchange q) w).2.SameButHistory (World.answer (.exchange q') w').2 := by
  obtain ⟨history, rfl⟩ := same
  simp only [World.answer, Http.Network.exchange, hurl, Http.Network.respond_congr hmethod hurl]
  split
  · exact ⟨rfl, _, rfl⟩
  · exact ⟨rfl, _, rfl⟩

theorem World.answer_of_sameButHistory {w w' : World} (same : w.SameButHistory w') (r : Request) :
    (World.answer r w).1 = (World.answer r w').1 ∧
      (World.answer r w).2.SameButHistory (World.answer r w').2 := by
  cases r with
  | exchange q => exact answer_exchange same rfl rfl
  | addresses hostname =>
      obtain ⟨history, rfl⟩ := same
      exact ⟨rfl, history, rfl⟩
  | host r =>
      obtain ⟨history, rfl⟩ := same
      exact ⟨rfl, history, rfl⟩

theorem World.answer_of_blanked {s : Settings.Cloud} {w w' : World} {r r' : Request}
    (same : w.SameButHistory w') (h : r.blanked s = r'.blanked s) :
    (World.answer r w).2.SameButHistory (World.answer r' w').2 := by
  cases r with
  | exchange q =>
      cases r' with
      | exchange q' =>
          obtain ⟨hmethod, hurl⟩ := method_url_of_blanked (Request.exchange.inj h)
          exact (answer_exchange same hmethod hurl).2
      | addresses | host => cases h
  | addresses hostname =>
      cases r' with
      | addresses =>
          cases h
          exact (answer_of_sameButHistory same _).2
      | exchange | host => cases h
  | host r =>
      cases r' with
      | host =>
          cases h
          exact (answer_of_sameButHistory same _).2
      | exchange | addresses => cases h

theorem World.stateAfter_of_blanked {s : Settings.Cloud} {before before' : List Request}
    (h : before.map (Request.blanked s) = before'.map (Request.blanked s)) {w w' : World}
    (same : w.SameButHistory w') :
    (stateAfter World.answer w before).SameButHistory (stateAfter World.answer w' before') := by
  induction before generalizing before' w w' with
  | nil =>
      cases List.map_eq_nil_iff.mp h.symm
      exact same
  | cons r rest ih =>
      obtain ⟨r', rest', rfl, hr, hrest⟩ := List.map_eq_cons_iff.mp h.symm
      exact ih hrest.symm (answer_of_blanked same hr.symm)

/-- No answer of the modelled world depends on a body, so it is blind in any state. -/
theorem World.blind (s : Settings.Cloud) (w : World) : Blind World.answer s w where
  past _ _ h r :=
    (answer_of_sameButHistory (stateAfter_of_blanked h ⟨w.network.history, rfl⟩) r).1
  present _ _ _ h :=
    have ⟨hmethod, hurl⟩ := method_url_of_blanked h
    (answer_exchange ⟨_, rfl⟩ hmethod hurl).1

/-! ## The password -/

/-- Opens a session and makes calls in it, with the client as it is then set up. -/
def callsInSession {α : Type} (fuel : Nat) (setUp : Rest.Client → Rest.Client)
    (calls : Flow Placement.interface α) (s : Settings.Cloud) : Action Cloud.Error (Option α) := do
  let client ← connectWith (pure s)
  ExceptT.lift (ofPlacement fuel (setUp client) calls).run

/-- Serves operations one after another, with the bytes of what each of them has been answered. -/
def servedBytes (fuel : Nat) (settings : Settings.Node) (driverName : String)
    (operations : List Kubelet.Operation) (s : Settings.Cloud) :
    Program (List (Option (List UInt8))) :=
  operations.mapM fun operation => do
    let response ← (ofOperation fuel (connectWith (pure s))
      (Kubelet.dispatch settings driverName operation)).run
    return response.map fun r => Text.utf8Bytes r.encode

/--
The password reaches nothing but the body of the login.  Take settings that differ in their
passwords alone, both given, and a world whose answers do not depend on the bodies of logins.  With
either settings a session is opened or fails in the same way, calls in the session have the same
results, however they follow from one another, and operations are answered by the same bytes; the
requests that are made are the same, but for the bodies of logins.  All this holds as far as
listings get with any fuel.
-/
theorem password_confined {σ : Type} {answer : (r : Request) → StateM σ r.Answer}
    {s s' : Settings.Cloud} {w : σ} (same : SameButPassword s s') (blind : Blind answer s w) :
    LooksLike s ((connectWith (pure s)).run.play answer w)
      ((connectWith (pure s')).run.play answer w) ∧
    (∀ (α : Type) (fuel : Nat) (setUp : Rest.Client → Rest.Client)
      (calls : Flow Placement.interface α),
      LooksLike s ((callsInSession fuel setUp calls s).run.play answer w)
        ((callsInSession fuel setUp calls s').run.play answer w)) ∧
    ∀ (fuel : Nat) (settings : Settings.Node) (driverName : String)
      (operations : List Kubelet.Operation),
      LooksLike s ((servedBytes fuel settings driverName operations s).play answer w)
        ((servedBytes fuel settings driverName operations s').play answer w) := by
  have hplay {α : Type} {p p' : Program α} (twins : Twins s p p') :
      LooksLike s (p.play answer w) (p'.play answer w) := by
    have hnone : List.map (Request.blanked s) [] = List.map (Request.blanked s) [] := rfl
    exact twins.play blind hnone
  have hconnect := twins_connectWith same
  refine ⟨hplay hconnect, fun α fuel setUp calls => hplay ?_,
    fun fuel settings driverName operations => hplay ?_⟩
  · exact hconnect.bind fun result => .refl _
  · refine Twins.mapM (fun operation => ?_) operations
    exact (twins_ofOperation hconnect fuel _).bind fun response => .refl _

/-- A world in which small settings are granted a session, whatever the password. -/
def grantingWorld : World where
  network :=
    { routes := [
        { method := "POST", url := "http://k/v3/auth/tokens", response := Rest.grantedResponse }] }
  station := { tree := .empty, base := [], workingDirectory := [], runner := .script [] }

def otherSettings : Settings.Cloud :=
  { Rest.smallSettings with password := some "q" }

def grantedSession (s : Settings.Cloud) : Run interface World (Except Cloud.Error Rest.Client) :=
  (connectWith (pure s)).run.play World.answer grantingWorld

def grantedQuery (s : Settings.Cloud) : Run interface World (List (Option (List UInt8))) :=
  (servedBytes 1 {} "d" [.isAttached { volumeId := some "v" } "10.0.0.1"] s).play World.answer
    grantingWorld

/-- Two passwords, posted in different bodies, open the same session and lead to the same answer. -/
theorem password_confined_granted :
    Rest.loginBody Rest.smallSettings ≠ Rest.loginBody otherSettings ∧
      (grantedSession Rest.smallSettings).value = .ok { session := ⟨"t", "n", "c"⟩ } ∧
      (grantedSession otherSettings).value = .ok { session := ⟨"t", "n", "c"⟩ } ∧
      (grantedQuery Rest.smallSettings).value = (grantedQuery otherSettings).value := by
  have hsame : SameButPassword Rest.smallSettings otherSettings :=
    { others := ⟨_, rfl⟩
      given := Rest.meets_iff.mp (by decide +kernel)
      given' := Rest.meets_iff.mp (by decide +kernel) }
  obtain ⟨hopened, -, hserved⟩ :=
    password_confined hsame (World.blind Rest.smallSettings grantingWorld)
  have hbodies : Rest.loginBody Rest.smallSettings ≠ Rest.loginBody otherSettings := by
    intro h
    have hpassword := congrArg (Json.at? ["auth", "identity", "password", "user", "password"]) h
    simp [Rest.loginBody, Json.at?, List.lookup_cons, otherSettings,
      Rest.smallSettings] at hpassword
  have hvalue : (grantedSession Rest.smallSettings).value =
      .ok { session := ⟨"t", "n", "c"⟩ } := by decide +kernel
  exact ⟨hbodies, hvalue, hopened.value.symm.trans hvalue, (hserved _ _ _ _).value⟩

end Call

end NodeVolumes
