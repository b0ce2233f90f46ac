import NodeVolumes.Proofs.Flow.Run
import NodeVolumes.Rest.Client

/-!
# Peers

A peer answers a request alike whenever it is asked.  In a world whose exchanges are with a peer the
client's work comes to the same value and makes the same requests from every state (`Yields`), so
both are told without the world: a page of a listing by `Client.pageAt`, a step along its links by
`Client.visit`.
-/

namespace NodeVolumes.Rest

open Cloud

abbrev Peer : Type :=
  Http.Request → Except Http.TransportError Http.Response

variable {σ : Type} {peer : Peer} {answer : (r : Request) → StateM σ r.Answer}

/-- The exchanges of a world are with a peer. -/
def ExchangesWith (peer : Peer) (answer : (r : Request) → StateM σ r.Answer) : Prop :=
  ∀ r s, (answer (.exchange r) s).1 = peer r

/-! ## Runs with a peer -/

section Yields

variable {ε α β : Type} {action : Action ε α} {asked asked' : List Http.Request}

/-- From every state of a world, an action makes the requests `asked` and ends with `value`. -/
structure Yields (answer : (r : Request) → StateM σ r.Answer) (action : Action ε α)
    (value : Except ε α) (asked : List Http.Request) : Prop where
  value_eq : ∀ s, (action.run.play answer s).value = value
  asked_eq : ∀ s, (action.run.play answer s).asked = asked.map Request.exchange

theorem Yields.ofExcept {given value : Except ε α} (h : given = value) :
    Yields answer (ExceptT.mk (pure given) : Action ε α) value [] :=
  h ▸ ⟨fun _ => rfl, fun _ => rfl⟩

/-- One exchange, and what is made of the answer. -/
theorem Yields.ofRun (exchanges : ExchangesWith peer answer) {r : Http.Request}
    {f : Except Http.TransportError Http.Response → Except ε α}
    (h : action.run = .ask (I := interface) (.exchange r) fun reply => .done (f reply)) :
    Yields answer action (f (peer r)) [r] := by
  constructor <;> intro s
  · rw [h]
    exact congrArg f (exchanges r s)
  · rw [h]
    rfl

theorem Yields.bind {a : α} {f : α → Action ε β} {value : Except ε β}
    (first : Yields answer action (.ok a) asked) (rest : Yields answer (f a) value asked') :
    Yields answer (action >>= f) value (asked ++ asked') := by
  have hplay : ∀ s, (action >>= f).run.play answer s =
      ((f a).run.play answer (action.run.play answer s).final).after
        (action.run.play answer s).dialogue := by
    intro s
    have hfirst : action.run.play answer s =
        ⟨.ok a, (action.run.play answer s).final, (action.run.play answer s).dialogue⟩ := by
      rw [← first.value_eq s]
    exact Flow.play_bind_ok (f := f) answer hfirst
  constructor <;> intro s
  · rw [hplay]
    exact rest.value_eq _
  · rw [hplay, Run.asked_after, rest.asked_eq, List.map_append, ← first.asked_eq s]
    rfl

theorem Yields.bind_error {e : ε} {f : α → Action ε β}
    (first : Yields answer action (.error e) asked) :
    Yields answer (action >>= f) (.error e) asked := by
  have hplay : ∀ s, (action >>= f).run.play answer s =
      ⟨.error e, (action.run.play answer s).final, (action.run.play answer s).dialogue⟩ := by
    intro s
    have hfirst : action.run.play answer s =
        ⟨.error e, (action.run.play answer s).final, (action.run.play answer s).dialogue⟩ := by
      rw [← first.value_eq s]
    exact Flow.play_bind_error (f := f) answer hfirst
  constructor <;> intro s
  · rw [hplay]
  · rw [hplay]
    exact first.asked_eq s

/-- An action that is followed by a value only. -/
theorem Yields.bind_done {a : α} {f : α → Action ε β} {value : Except ε β}
    (first : Yields answer action (.ok a) asked) (rest : f a = ExceptT.mk (pure value)) :
    Yields answer (action >>= f) value asked := by
  have hrest : Yields answer (f a) value [] := rest ▸ Yields.ofExcept rfl
  have hboth := first.bind hrest
  rwa [List.append_nil] at hboth

theorem Yields.map {value : Except ε α} (first : Yields answer action value asked) (f : α → β) :
    Yields answer (action >>= fun a => pure (f a)) (value.map f) asked := by
  cases value with
  | error e => exact first.bind_error
  | ok a => exact first.bind_done rfl

end Yields

/-! ## Pages -/

theorem run_map_ofExcept {ε α β : Type} (f : α → β) (given : Except ε α) :
    (f <$> (ExceptT.mk (pure given) : Action ε α)).run = .done (given.map f) := by
  cases given <;> rfl

namespace Client

variable {α : Type} (c : Client)

def pageRequest (url : Http.Url) : Http.Request :=
  { method := .get, url, token := some c.session.token, accept := "application/json" }

/-- What a peer has at a URL, if anything. -/
def responseAt (peer : Peer) (url : Http.Url) : Except Error (Option Http.Response) :=
  match peer (c.pageRequest url) with
  | .error e => .error (transportError e)
  | .ok response => classify (c.pageRequest url) response

def valueAt (peer : Peer) (resource : String) (decoder : Json.Decoder α) (url : Http.Url) :
    Except Error (Option α) :=
  match c.responseAt peer url with
  | .error e => .error e
  | .ok none => .ok none
  | .ok (some response) => (decodeBody decoder resource response).map some

def pageAt (peer : Peer) (resource : String) (page : Json.Record (Page α)) (url : Http.Url) :
    Except Error (Page α) :=
  match c.valueAt peer resource page.decoder url with
  | .error e => .error e
  | .ok none => .error (.notFound resource url.text)
  | .ok (some found) => .ok found

def visit (peer : Peer) (resource : String) (page : Json.Record (Page α)) (url : Http.Url) :
    Except Error (List α × Option Http.Url) :=
  match c.pageAt peer resource page url with
  | .error e => .error e
  | .ok found => (nextPage url found.links).map fun next => (found.items, next)

theorem visit_congr {peer peer' : Peer}
    (alike : ∀ url, peer (c.pageRequest url) = peer' (c.pageRequest url)) (resource : String)
    (page : Json.Record (Page α)) : c.visit peer resource page = c.visit peer' resource page := by
  funext url
  simp only [visit, pageAt, valueAt, responseAt, alike]

theorem run_getOptional (resource : String) (decoder : Json.Decoder α) (url : Http.Url) :
    (c.getOptional url resource decoder).run =
      .ask (I := interface) (.exchange (c.pageRequest url)) fun reply =>
        .done (c.valueAt (fun _ => reply) resource decoder url) := by
  refine congrArg (Flow.ask (I := interface) _) (funext fun reply => ?_)
  unfold valueAt responseAt
  cases reply with
  | error e => rfl
  | ok response =>
      dsimp only
      change (Flow.done (classify (c.pageRequest url) response) >>= _ : Program _) >>= _ = _
      rcases classify (c.pageRequest url) response with e | _ | response
      · rfl
      · rfl
      · exact run_map_ofExcept some (decodeBody decoder resource response)

theorem run_getJson (resource : String) (page : Json.Record (Page α)) (url : Http.Url) :
    (c.getJson url resource page.decoder).run =
      .ask (I := interface) (.exchange (c.pageRequest url)) fun reply =>
        .done (c.pageAt (fun _ => reply) resource page url) := by
  unfold getJson
  change (c.getOptional url resource page.decoder).run >>= ExceptT.bindCont _ = _
  rw [c.run_getOptional, Flow.ask_bind]
  refine congrArg (Flow.ask (I := interface) _) (funext fun reply => ?_)
  unfold pageAt
  rcases c.valueAt (fun _ => reply) resource page.decoder url with e | _ | found <;> rfl

theorem yields_getJson (exchanges : ExchangesWith peer answer) (resource : String)
    (page : Json.Record (Page α)) (url : Http.Url) :
    Yields answer (c.getJson url resource page.decoder) (c.pageAt peer resource page url)
      [c.pageRequest url] :=
  Yields.ofRun exchanges (c.run_getJson resource page url)

end Client

end NodeVolumes.Rest
