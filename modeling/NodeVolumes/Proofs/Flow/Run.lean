import NodeVolumes.Flow

/-!
# Runs of flows

A run keeps what `Flow.foldM` forgets: beside the value and the final state of a flow in a world
with states, it lists each request with the answer it got.  Runs compose with their complete
dialogues, so equal requests stay distinct by their places.

A world that only adds records of what it was asked to another world has the same runs, up to
those records (`play_recording`).  What a request does not touch is the same in every state that
a run passes through (`view_of_mem_states`).
-/

namespace NodeVolumes

abbrev Exchange (I : Interface) : Type :=
  (r : I.Request) × I.Answer r

/-- What a flow comes to in a world with states `σ`. -/
structure Run (I : Interface) (σ α : Type) where
  value : α
  final : σ
  /-- The exchanges, first one first. -/
  dialogue : List (Exchange I)

namespace Run

variable {I : Interface} {σ α : Type}

def asked (r : Run I σ α) : List I.Request :=
  r.dialogue.map Sigma.fst

def after (earlier : List (Exchange I)) (r : Run I σ α) : Run I σ α :=
  { r with dialogue := earlier ++ r.dialogue }

@[simp] theorem value_after (earlier : List (Exchange I)) (r : Run I σ α) :
    (r.after earlier).value = r.value := rfl

@[simp] theorem final_after (earlier : List (Exchange I)) (r : Run I σ α) :
    (r.after earlier).final = r.final := rfl

@[simp] theorem dialogue_after (earlier : List (Exchange I)) (r : Run I σ α) :
    (r.after earlier).dialogue = earlier ++ r.dialogue := rfl

@[simp] theorem asked_after (earlier : List (Exchange I)) (r : Run I σ α) :
    (r.after earlier).asked = earlier.map Sigma.fst ++ r.asked := by
  simp [asked]

@[simp] theorem after_after (first second : List (Exchange I)) (r : Run I σ α) :
    (r.after second).after first = r.after (first ++ second) := by
  simp [after]

end Run

namespace Flow

variable {I : Interface} {σ α β ε : Type}
variable (answer : (r : I.Request) → StateM σ (I.Answer r))

/-- Runs a flow in a world and keeps the dialogue. -/
def play : Flow I α → σ → Run I σ α
  | .done value, s => ⟨value, s, []⟩
  | .ask r next, s => (play (next (answer r s).1) (answer r s).2).after [⟨r, (answer r s).1⟩]

/-- The states that a run passes through, from the first to the last. -/
def states : Flow I α → σ → List σ
  | .done _, s => [s]
  | .ask r next, s => s :: states (next (answer r s).1) (answer r s).2

@[simp] theorem play_done (value : α) (s : σ) :
    play answer (.done value : Flow I α) s = ⟨value, s, []⟩ := rfl

@[simp] theorem play_ask (r : I.Request) (next : I.Answer r → Flow I α) (s : σ) :
    play answer (.ask r next) s =
      (play answer (next (answer r s).1) (answer r s).2).after [⟨r, (answer r s).1⟩] := rfl

theorem foldM_eq_play (flow : Flow I α) (s : σ) :
    foldM answer flow s = ((play answer flow s).value, (play answer flow s).final) := by
  induction flow generalizing s with
  | done value => rfl
  | ask r next ih => exact ih (answer r s).1 (answer r s).2

/-! ## Composition -/

/-- The run of a sequence is that of its first part and then that of the rest. -/
theorem play_bind (flow : Flow I α) (f : α → Flow I β) (s : σ) :
    play answer (flow >>= f) s =
      (play answer (f (play answer flow s).value) (play answer flow s).final).after
        (play answer flow s).dialogue := by
  induction flow generalizing s with
  | done value => rfl
  | ask r next ih =>
      rw [ask_bind, play_ask, play_ask, ih]
      simp

/-- What only turns the value into another one asks nothing. -/
theorem play_bind_done (flow : Flow I α) (f : α → β) (s : σ) :
    play answer (flow >>= fun a => .done (f a)) s =
      ⟨f (play answer flow s).value, (play answer flow s).final, (play answer flow s).dialogue⟩ := by
  rw [play_bind, play_done]
  simp [Run.after]

/-- What always has a value has the run of that value. -/
theorem play_liftOption (flow : Flow I α) (s : σ) :
    play answer (OptionT.lift flow).run s =
      ⟨some (play answer flow s).value, (play answer flow s).final,
        (play answer flow s).dialogue⟩ :=
  play_bind_done answer flow some s

section Failing

variable {x : ExceptT ε (Flow I) α} {f : α → ExceptT ε (Flow I) β} {s s' : σ}
variable {d : List (Exchange I)}

theorem play_bind_ok {a : α} (h : play answer x.run s = ⟨.ok a, s', d⟩) :
    play answer (x >>= f).run s = (play answer (f a).run s').after d := by
  have hrun : (x >>= f).run = x.run >>= fun result => ExceptT.bindCont f result := rfl
  rw [hrun, play_bind, h]
  rfl

theorem play_bind_error {e : ε} (h : play answer x.run s = ⟨.error e, s', d⟩) :
    play answer (x >>= f).run s = ⟨.error e, s', d⟩ := by
  have hrun : (x >>= f).run = x.run >>= fun result => ExceptT.bindCont f result := rfl
  rw [hrun, play_bind, h]
  change (play answer (Flow.done (Except.error e)) s').after d = _
  simp [Run.after]

theorem play_lift (flow : Flow I α) (s : σ) :
    play answer (ExceptT.lift flow : ExceptT ε (Flow I) α).run s =
      ⟨.ok (play answer flow s).value, (play answer flow s).final,
        (play answer flow s).dialogue⟩ := by
  have hrun : (ExceptT.lift flow : ExceptT ε (Flow I) α).run =
      flow >>= fun a => .done (Except.ok a) := rfl
  rw [hrun, play_bind_done]

/-- What cannot fail is followed by the rest. -/
theorem play_lift_bind (flow : Flow I α) (f : α → ExceptT ε (Flow I) β) (s : σ) :
    play answer (ExceptT.lift flow >>= f).run s =
      (play answer (f (play answer flow s).value).run (play answer flow s).final).after
        (play answer flow s).dialogue := by
  have hrun : (ExceptT.lift flow >>= f).run =
      (flow >>= fun a => .done (Except.ok a)) >>= fun result => ExceptT.bindCont f result := rfl
  rw [hrun, bind_bind, play_bind]
  rfl

end Failing

/-! ## What flows ask -/

/-- Whatever it is answered, the flow makes only requests of which `P` holds. -/
def AsksOnly (P : I.Request → Prop) : Flow I α → Prop
  | .done _ => True
  | .ask r next => P r ∧ ∀ reply, (next reply).AsksOnly P

namespace AsksOnly

variable {P : I.Request → Prop}

theorem bind {flow : Flow I α} {f : α → Flow I β} (first : flow.AsksOnly P)
    (rest : ∀ a, (f a).AsksOnly P) : (flow >>= f).AsksOnly P := by
  induction flow with
  | done value => exact rest value
  | ask r next ih => exact ⟨first.1, fun reply => ih reply (first.2 reply)⟩

theorem bind_run {x : ExceptT ε (Flow I) α} {f : α → ExceptT ε (Flow I) β}
    (first : x.run.AsksOnly P) (rest : ∀ a, (f a).run.AsksOnly P) :
    (x >>= f).run.AsksOnly P := by
  refine AsksOnly.bind first fun result => ?_
  cases result with
  | ok a => exact rest a
  | error e => trivial

theorem of_mem_asked {flow : Flow I α} (h : flow.AsksOnly P) {s : σ} {r : I.Request}
    (hr : r ∈ (play answer flow s).asked) : P r := by
  induction flow generalizing s with
  | done value => cases hr
  | ask first next ih =>
      rw [play_ask, Run.asked_after] at hr
      rcases List.mem_append.mp hr with hr | hr
      · rw [List.mem_singleton.mp hr]
        exact h.1
      · exact ih (answer first s).1 (h.2 (answer first s).1) hr

theorem filter_asked {p : I.Request → Bool} {flow : Flow I α}
    (h : flow.AsksOnly fun r => p r = false) (s : σ) :
    (play answer flow s).asked.filter p = [] := by
  refine List.filter_eq_nil_iff.mpr fun r hr => ?_
  rw [h.of_mem_asked answer hr]
  exact Bool.false_ne_true

theorem filterMap_asked {f : I.Request → Option β} {flow : Flow I α}
    (h : flow.AsksOnly fun r => f r = none) (s : σ) :
    (play answer flow s).asked.filterMap f = [] :=
  List.filterMap_eq_nil_iff.mpr fun _ hr => h.of_mem_asked answer hr

/-- A flow keeps what is kept by the requests that it makes. -/
theorem play_kept {kept : σ → Prop} {flow : Flow I α} (h : flow.AsksOnly P)
    (step : ∀ r s, P r → kept s → kept (answer r s).2) {s : σ} (hs : kept s) :
    kept (play answer flow s).final := by
  induction flow generalizing s with
  | done value => exact hs
  | ask r next ih => exact ih (answer r s).1 (h.2 _) (step r s h.1 hs)

theorem mono {Q : I.Request → Prop} {flow : Flow I α} (h : flow.AsksOnly P)
    (weaken : ∀ r, P r → Q r) : flow.AsksOnly Q := by
  induction flow with
  | done value => trivial
  | ask r next ih => exact ⟨weaken r h.1, fun reply => ih reply (h.2 reply)⟩

end AsksOnly

/-- A first request that is not made again has one answer. -/
theorem answer_of_mem_dialogue {r : I.Request} {next : I.Answer r → Flow I α} {s : σ}
    {reply : I.Answer r} (once : ∀ reply, (next reply).AsksOnly fun q => q ≠ r)
    (h : ⟨r, reply⟩ ∈ (play answer (.ask r next) s).dialogue) : (answer r s).1 = reply := by
  rw [play_ask, Run.dialogue_after] at h
  rcases List.mem_append.mp h with h | h
  · cases List.mem_singleton.mp h
    rfl
  · have hasked := List.mem_map_of_mem (f := Sigma.fst) h
    exact absurd rfl ((once (answer r s).1).of_mem_asked answer hasked)

theorem play_kept {kept : σ → Prop} (step : ∀ r s, kept s → kept (answer r s).2)
    (flow : Flow I α) {s : σ} (h : kept s) : kept (play answer flow s).final := by
  induction flow generalizing s with
  | done value => exact h
  | ask r next ih => exact ih (answer r s).1 (step r s h)

theorem kept_of_mem_states {kept : σ → Prop} (step : ∀ r s, kept s → kept (answer r s).2)
    (flow : Flow I α) {s : σ} (h : kept s) : ∀ t ∈ states answer flow s, kept t := by
  induction flow generalizing s with
  | done value =>
      intro t ht
      rwa [List.mem_singleton.mp ht]
  | ask r next ih =>
      intro t ht
      rcases List.mem_cons.mp ht with rfl | ht
      · exact h
      · exact ih (answer r s).1 (step r s h) t ht

/-- What every answer keeps, and what holds of every exchange while it is kept. -/
theorem play_invariant {kept : σ → Prop} {fine : Exchange I → Prop}
    (step : ∀ r s, kept s → kept (answer r s).2 ∧ fine ⟨r, (answer r s).1⟩)
    (flow : Flow I α) {s : σ} (h : kept s) :
    kept (play answer flow s).final ∧ ∀ x ∈ (play answer flow s).dialogue, fine x := by
  induction flow generalizing s with
  | done value => exact ⟨h, fun x hx => by cases hx⟩
  | ask r next ih =>
      obtain ⟨hkept, hfine⟩ := step r s h
      obtain ⟨hfinal, hrest⟩ := ih (answer r s).1 hkept
      refine ⟨hfinal, ?_⟩
      intro x hx
      rw [play_ask, Run.dialogue_after] at hx
      rcases List.mem_append.mp hx with hx | hx
      · rw [List.mem_singleton.mp hx]
        exact hfine
      · exact hrest x hx

/-- What requests cost together. -/
def total (cost : I.Request → Nat) : List I.Request → Nat
  | [] => 0
  | r :: rest => cost r + total cost rest

theorem total_append (cost : I.Request → Nat) (first second : List I.Request) :
    total cost (first ++ second) = total cost first + total cost second := by
  induction first with
  | nil => simp [total]
  | cons r rest ih => simp [total, ih, Nat.add_assoc]

theorem total_zero (requests : List I.Request) : total (fun _ => 0) requests = 0 := by
  induction requests with
  | nil => rfl
  | cons r rest ih => simpa [total] using ih

/-- A tally grows by what the requests cost that are charged for. -/
theorem play_tally {tally : σ → Nat} {cost : I.Request → Nat} {charged : I.Request → Bool}
    (adds : ∀ r s, tally (answer r s).2 = tally s + cost r)
    (free : ∀ r, charged r = false → cost r = 0) (flow : Flow I α) (s : σ) :
    tally (play answer flow s).final =
      tally s + total cost ((play answer flow s).asked.filter charged) := by
  induction flow generalizing s with
  | done value => rfl
  | ask r next ih =>
      rw [play_ask, Run.final_after, Run.asked_after, ih, adds]
      cases hr : charged r with
      | true => simp [hr, total, Nat.add_assoc]
      | false => simp [hr, free r hr]

/-! ## Worlds that keep records -/

section Recording

variable {answer} {recorded : (r : I.Request) → StateM σ (I.Answer r)} {note : I.Request → σ → σ}

/-- The state with a record of requests, in their order. -/
def noted (note : I.Request → σ → σ) (requests : List I.Request) (s : σ) : σ :=
  requests.foldl (fun s r => note r s) s

theorem play_note
    (blind : ∀ q r s, answer r (note q s) = ((answer r s).1, note q (answer r s).2))
    (flow : Flow I α) (q : I.Request) (s : σ) :
    play answer flow (note q s) =
      { play answer flow s with final := note q (play answer flow s).final } := by
  induction flow generalizing s with
  | done value => rfl
  | ask r next ih =>
      rw [play_ask, play_ask, blind, ih]
      rfl

/-- A world that records its requests runs as the world without records does. -/
theorem play_recording
    (records : ∀ r s, recorded r s = ((answer r s).1, note r (answer r s).2))
    (blind : ∀ q r s, answer r (note q s) = ((answer r s).1, note q (answer r s).2))
    (flow : Flow I α) (s : σ) :
    play recorded flow s =
      { play answer flow s with
        final := noted note (play answer flow s).asked (play answer flow s).final } := by
  induction flow generalizing s with
  | done value => rfl
  | ask r next ih =>
      rw [play_ask, play_ask, records, ih, play_note blind]
      rfl

end Recording

/-! ## What runs leave alone -/

theorem mem_states_final (flow : Flow I α) (s : σ) :
    (play answer flow s).final ∈ states answer flow s := by
  induction flow generalizing s with
  | done value => simp [states]
  | ask r next ih => exact List.mem_cons_of_mem s (ih (answer r s).1 (answer r s).2)

section View

variable {answer} {ν : Type} {writes : I.Request → Bool} (view : σ → ν)

/-- A run without a write keeps the view in all its states. -/
theorem view_of_mem_states
    (keeps : ∀ r s, writes r = false → view (answer r s).2 = view s)
    (flow : Flow I α) (s : σ) (quiet : (play answer flow s).asked.countP writes = 0) :
    ∀ t ∈ states answer flow s, view t = view s := by
  induction flow generalizing s with
  | done value => simp [states]
  | ask r next ih =>
      simp only [play_ask, Run.asked_after, List.map_cons, List.map_nil, List.cons_append,
        List.nil_append, List.countP_cons] at quiet
      have hr : writes r = false := by
        cases hw : writes r with
        | false => rfl
        | true => simp [hw] at quiet
      intro t ht
      rcases List.mem_cons.mp ht with rfl | ht
      · rfl
      · rw [ih (answer r s).1 (answer r s).2 (by omega) t ht, keeps r s hr]

/-- Around a single write a run shows the view of its first state or that of its last one. -/
theorem view_of_mem_states_of_single
    (keeps : ∀ r s, writes r = false → view (answer r s).2 = view s)
    (flow : Flow I α) (s : σ) (single : (play answer flow s).asked.countP writes ≤ 1) :
    ∀ t ∈ states answer flow s, view t = view s ∨ view t = view (play answer flow s).final := by
  induction flow generalizing s with
  | done value => simp [states]
  | ask r next ih =>
      simp only [play_ask, Run.asked_after, List.map_cons, List.map_nil, List.cons_append,
        List.nil_append, List.countP_cons] at single
      intro t ht
      rcases List.mem_cons.mp ht with rfl | ht
      · exact .inl rfl
      cases hw : writes r with
      | false =>
          rcases ih (answer r s).1 (answer r s).2 (by omega) t ht with h | h
          · exact .inl (h.trans (keeps r s hw))
          · exact .inr h
      | true =>
          -- the write is behind us: the rest of the run keeps what it sees
          rw [hw, if_pos rfl] at single
          have rest := view_of_mem_states view keeps (next (answer r s).1) (answer r s).2 (by omega)
          right
          rw [rest t ht]
          exact (rest _ (mem_states_final answer (next (answer r s).1) (answer r s).2)).symm

end View

end Flow

end NodeVolumes
