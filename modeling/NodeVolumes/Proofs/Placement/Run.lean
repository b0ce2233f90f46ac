import NodeVolumes.Placement.Attach
import NodeVolumes.Proofs.Flow.Run

/-!
# Runs of placements

A world answers and keeps records of what it was asked.  The records have no influence on any
answer, so an action is run without them (`Settles`) and they are added at the end
(`Settles.attempt`).  What the cloud has on record is exactly what the run asked of it
(`history_attempt`).
-/

namespace NodeVolumes

/-- The records of a cloud neither show in an answer nor change with it. -/
theorem Cloud.Memory.respond_history (m : Memory) (history : List Request) (r : Request) :
    { m with history }.respond r = ((m.respond r).1, { (m.respond r).2 with history }) := by
  cases r with
  | getVolume id =>
      simp only [respond, volume?]
      split <;> rfl
  | changeMetadata id entries change =>
      simp only [respond, volume?]
      split <;> rfl
  | attach instanceId volumeId =>
      simp only [respond]
      split <;> rfl
  | detach instanceId volumeId =>
      simp only [respond]
      split <;> rfl
  | findVolumes key value => rfl
  | getAttachment instanceId volumeId => rfl
  | listInstances => rfl
  | listHypervisors => rfl
  | getRegistration host => rfl

theorem Cloud.Memory.history_respond (m : Memory) (r : Request) :
    (m.respond r).2.history = m.history := by
  have h := m.respond_history m.history r
  exact congrArg (fun x => x.2.history) h

def Cloud.Request.changes : Cloud.Request → Bool
  | .changeMetadata _ _ _ | .attach _ _ | .detach _ _ => true
  | _ => false

namespace Placement

def Request.cloud? : Request → Option Cloud.Request
  | .cloud r => some r
  | .addresses _ => none

/-- A request that only asks: no answer to it changes a cloud. -/
def Request.isQuery : Request → Bool
  | .cloud r => !r.changes
  | .addresses _ => true

def Request.hostname? : Request → Option String
  | .cloud _ => none
  | .addresses hostname => some hostname

def Request.asksCloud (p : Cloud.Request → Bool) : Request → Bool
  | .cloud r => p r
  | .addresses _ => false

theorem mem_filterMap_cloud?_iff {c : Cloud.Request} {requests : List Request} :
    c ∈ requests.filterMap Request.cloud? ↔ .cloud c ∈ requests := by
  rw [List.mem_filterMap]
  constructor
  · rintro ⟨r, hr, hcloud⟩
    cases r with
    | addresses hostname => cases hcloud
    | cloud r =>
        cases hcloud
        exact hr
  · intro hc
    exact ⟨_, hc, rfl⟩

/-- None of the queries changes a cloud. -/
theorem filter_changes_of_queries {requests : List Request}
    (queries : ∀ r ∈ requests, r.isQuery = true) :
    (requests.filterMap Request.cloud?).filter Cloud.Request.changes = [] := by
  refine List.filter_eq_nil_iff.mpr fun c hc hchanges => ?_
  obtain ⟨r, hr, hcloud⟩ := List.mem_filterMap.mp hc
  have hquery := queries r hr
  cases r with
  | addresses hostname => simp [Request.cloud?] at hcloud
  | cloud r =>
      simp only [Request.cloud?, Option.some.injEq] at hcloud
      subst hcloud
      simp [Request.isQuery, hchanges] at hquery

namespace World

/-! ## Records -/

/-- The answer to a request, without a record of it. -/
def reply : (r : Request) → StateM World r.Answer
  | .cloud r => fun w => ((w.cloud.respond r).1, { w with cloud := (w.cloud.respond r).2 })
  | .addresses hostname => fun w => (w.names.addresses? hostname, w)

def note : Request → World → World
  | .cloud r, w => { w with cloud := { w.cloud with history := r :: w.cloud.history } }
  | .addresses hostname, w =>
      { w with names := { w.names with history := hostname :: w.names.history } }

theorem answer_eq_note_reply (r : Request) (w : World) :
    answer r w = ((reply r w).1, note r (reply r w).2) := by
  cases r with
  | cloud r =>
      have h := w.cloud.respond_history (r :: w.cloud.history) r
      simp only [answer, Cloud.Memory.answer, reply, note, h, w.cloud.history_respond r]
  | addresses hostname => rfl

theorem reply_note (q r : Request) (w : World) :
    reply r (note q w) = ((reply r w).1, note q (reply r w).2) := by
  cases q with
  | addresses hostname => cases r <;> rfl
  | cloud q =>
      cases r with
      | addresses hostname => rfl
      | cloud r =>
          have h := w.cloud.respond_history (q :: w.cloud.history) r
          simp only [reply, note, h, w.cloud.history_respond r]

/-- The world with records of requests, in their order. -/
def noted (requests : List Request) (w : World) : World :=
  Flow.noted (I := interface) note requests w

@[simp] theorem cloud_noted (requests : List Request) (w : World) :
    (w.noted requests).cloud =
      { w.cloud with
        history := (requests.filterMap Request.cloud?).reverse ++ w.cloud.history } := by
  induction requests generalizing w with
  | nil => rfl
  | cons r rest ih =>
      change ((note r w).noted rest).cloud = _
      rw [ih]
      cases r <;> simp [note, Request.cloud?, List.filterMap_cons]

@[simp] theorem names_noted (requests : List Request) (w : World) :
    (w.noted requests).names =
      { w.names with
        history := (requests.filterMap Request.hostname?).reverse ++ w.names.history } := by
  induction requests generalizing w with
  | nil => rfl
  | cons r rest ih =>
      change ((note r w).noted rest).names = _
      rw [ih]
      cases r <;> simp [note, Request.hostname?, List.filterMap_cons]

/-! ## Settled runs -/

variable {ε ε' α β : Type}

def calls (action : Action ε α) (w : World) : List Cloud.Request :=
  (action.run.play answer w).asked.filterMap Request.cloud?

def changes (action : Action ε α) (w : World) : List Cloud.Request :=
  (calls action w).filter Cloud.Request.changes

theorem countP_calls (p : Cloud.Request → Bool) (action : Action ε α) (w : World) :
    (calls action w).countP p =
      (action.run.play answer w).asked.countP (Request.asksCloud p) := by
  rw [calls, List.countP_filterMap]
  refine List.countP_congr fun r _ => ?_
  cases r <;> simp [Request.cloud?, Request.asksCloud]

theorem filter_calls {p : Cloud.Request → Bool} (hp : ∀ r, p r = true → r.changes = true)
    (action : Action ε α) (w : World) :
    (calls action w).filter p = (changes action w).filter p := by
  rw [changes, List.filter_filter]
  refine List.filter_congr fun r _ => ?_
  cases hr : p r with
  | false => rfl
  | true => simp [hp r hr]

theorem countP_calls_of_changes {p : Cloud.Request → Bool}
    (hp : ∀ r, p r = true → r.changes = true) (action : Action ε α) (w : World) :
    (calls action w).countP p = (changes action w).countP p := by
  rw [List.countP_eq_length_filter, List.countP_eq_length_filter, filter_calls hp]

/-- Without records, an action that asks `asked` ends with `value` and leaves `final`. -/
structure Settles (action : Action ε α) (w : World) (value : Except ε α) (final : World)
    (asked : List Request) : Prop where
  value_eq : (action.run.play reply w).value = value
  final_eq : (action.run.play reply w).final = final
  asked_eq : (action.run.play reply w).asked = asked

variable {action : Action ε α} {w final final' : World} {asked asked' : List Request}

theorem settles_play (action : Action ε α) (w : World) :
    Settles action w (action.run.play reply w).value (action.run.play reply w).final
      (action.run.play reply w).asked :=
  ⟨rfl, rfl, rfl⟩

theorem play_answer (action : Action ε α) (w : World) :
    action.run.play answer w =
      { action.run.play reply w with
        final := (action.run.play reply w).final.noted (action.run.play reply w).asked } :=
  Flow.play_recording answer_eq_note_reply reply_note action.run w

/-- A run is the settled run with its requests on record. -/
theorem Settles.attempt {value : Except ε α} (h : Settles action w value final asked) :
    attempt action w = (value, final.noted asked) := by
  have hfold := Flow.foldM_eq_play answer action.run w
  rw [play_answer, h.value_eq, h.final_eq, h.asked_eq] at hfold
  exact hfold

theorem Settles.calls {value : Except ε α} (h : Settles action w value final asked) :
    calls action w = asked.filterMap Request.cloud? := by
  have hasked : (action.run.play answer w).asked = (action.run.play reply w).asked := by
    rw [play_answer]
    rfl
  rw [World.calls, hasked, h.asked_eq]

theorem Settles.changes {value : Except ε α} (h : Settles action w value final asked) :
    changes action w = (asked.filterMap Request.cloud?).filter Cloud.Request.changes := by
  rw [World.changes, h.calls]

/-! ## Rules -/

theorem Settles.pure (value : α) (w : World) :
    Settles (Pure.pure value : Action ε α) w (.ok value) w [] :=
  ⟨rfl, rfl, rfl⟩

theorem Settles.throw (e : ε) (w : World) :
    Settles (MonadExcept.throw e : Action ε α) w (.error e) w [] :=
  ⟨rfl, rfl, rfl⟩

theorem Settles.ofExcept (value : Except ε α) (w : World) :
    Settles (liftM value : Action ε α) w value w [] :=
  ⟨rfl, rfl, rfl⟩

theorem Settles.askCloud (fault : Cloud.Error → ε) (r : Cloud.Request) (w : World) :
    Settles (Placement.askCloud fault r) w ((w.cloud.respond r).1.mapError fault)
      { w with cloud := (w.cloud.respond r).2 } [.cloud r] :=
  ⟨rfl, rfl, rfl⟩

theorem Settles.askAddresses (hostname : String) (w : World) :
    Settles (Placement.askAddresses hostname : Action ε (Option (List Net.Address))) w
      (.ok (w.names.addresses? hostname)) w [.addresses hostname] :=
  ⟨rfl, rfl, rfl⟩

theorem Settles.bind {a : α} {f : α → Action ε β} {value : Except ε β}
    (first : Settles action w (.ok a) final asked)
    (rest : Settles (f a) final value final' asked') :
    Settles (action >>= f) w value final' (asked ++ asked') := by
  have hfirst : action.run.play reply w = ⟨.ok a, final, (action.run.play reply w).dialogue⟩ := by
    rw [← first.value_eq, ← first.final_eq]
  have hplay := Flow.play_bind_ok (f := f) reply hfirst
  constructor
  · rw [hplay]
    exact rest.value_eq
  · rw [hplay]
    exact rest.final_eq
  · rw [hplay, Run.asked_after, rest.asked_eq, ← first.asked_eq]
    rfl

/-- An action that asks nothing is followed by the rest. -/
theorem Settles.bind_of_silent {a : α} {f : α → Action ε β} {value : Except ε β}
    (first : Settles action w (.ok a) final [])
    (rest : Settles (f a) final value final' asked') :
    Settles (action >>= f) w value final' asked' :=
  first.bind rest

/-- An action that is followed by a value only. -/
theorem Settles.bind_pure {a : α} {b : β} {f : α → Action ε β}
    (first : Settles action w (.ok a) final asked) (rest : f a = Pure.pure b) :
    Settles (action >>= f) w (.ok b) final asked := by
  have hrest : Settles (f a) final (.ok b) final [] := rest ▸ Settles.pure b final
  have hboth := first.bind hrest
  rwa [List.append_nil] at hboth

theorem Settles.bind_error {e : ε} {f : α → Action ε β}
    (first : Settles action w (.error e) final asked) :
    Settles (action >>= f) w (.error e) final asked := by
  have hfirst : action.run.play reply w =
      ⟨.error e, final, (action.run.play reply w).dialogue⟩ := by
    rw [← first.value_eq, ← first.final_eq]
  have hplay := Flow.play_bind_error (f := f) reply hfirst
  constructor
  · rw [hplay]
  · rw [hplay]
  · rw [hplay, ← first.asked_eq]
    rfl

theorem Settles.correlated {action : Action CorrelationError α}
    {value : Except CorrelationError α} (h : Settles action w value final asked) :
    Settles (Placement.correlated action) w (value.mapError .correlation) final asked := by
  have hrun : (Placement.correlated action).run =
      action.run >>= fun result => .done (result.mapError .correlation) := rfl
  constructor
  · rw [hrun, Flow.play_bind, ← h.value_eq]
    rfl
  · rw [hrun, Flow.play_bind, ← h.final_eq]
    rfl
  · rw [hrun, Flow.play_bind, Run.asked_after, ← h.asked_eq]
    exact List.append_nil _

end World

end Placement

end NodeVolumes
