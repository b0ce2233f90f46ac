import NodeVolumes.Proofs.Flow.Run

/-!
# Interleaved runs

Several flows run in one world at the same time, one request at a time and in any order
(`Interleaves`).  Running them one after the other is one such order (`interleaves_mapM`).

What a flow sees of a world may be less than the world.  When each request is answered from the
part of the state that its flow sees, and changes no part that another flow sees (`Separate`), a
flow cannot tell whether it runs alone: it ends with the value, and leaves its part in the state,
that a run alone would (`Separate.value_and_view`).
-/

namespace NodeVolumes.Flow

variable {I : Interface} {σ α : Type}

/--
The flows run at the same time from a state to a last one, and end with values.

A turn is one request of one of them with its answer.
-/
inductive Interleaves (answer : (r : I.Request) → StateM σ (I.Answer r)) :
    List (Flow I α) → σ → List α → σ → Prop
  | ended (values : List α) (s : σ) : Interleaves answer (values.map .done) s values s
  | turn (before after : List (Flow I α)) (r : I.Request) (next : I.Answer r → Flow I α)
      {s final : σ} {values : List α}
      (rest : Interleaves answer (before ++ next (answer r s).1 :: after) (answer r s).2
        values final) :
      Interleaves answer (before ++ .ask r next :: after) s values final

variable {answer : (r : I.Request) → StateM σ (I.Answer r)} {flows : List (Flow I α)}
variable {s final : σ} {values : List α}

/-! ## Orders -/

/-- A flow that has ended stays out of the turns of the others. -/
theorem Interleaves.cons_done (run : Interleaves answer flows s values final) (value : α) :
    Interleaves answer (.done value :: flows) s (value :: values) final := by
  induction run with
  | ended values s => exact .ended (value :: values) s
  | turn before after r next rest ih => exact .turn (.done value :: before) after r next ih

theorem Interleaves.cons_play (flow : Flow I α)
    (run : Interleaves answer flows (play answer flow s).final values final) :
    Interleaves answer (flow :: flows) s ((play answer flow s).value :: values) final := by
  induction flow generalizing s with
  | done value => exact run.cons_done value
  | ask r next ih => exact .turn [] flows r next (ih (answer r s).1 run)

theorem interleaves_mapM (answer : (r : I.Request) → StateM σ (I.Answer r))
    (flows : List (Flow I α)) (s : σ) :
    Interleaves answer flows s (flows.mapM (foldM answer) s).1
      (flows.mapM (foldM answer) s).2 := by
  induction flows generalizing s with
  | nil => exact .ended [] s
  | cons flow rest ih =>
      have hcons : (flow :: rest).mapM (foldM answer) s =
          ((play answer flow s).value ::
              (rest.mapM (foldM answer) (play answer flow s).final).1,
            (rest.mapM (foldM answer) (play answer flow s).final).2) := by
        rw [List.mapM_cons]
        change ((foldM answer flow s).1 ::
            (rest.mapM (foldM answer) (foldM answer flow s).2).1,
          (rest.mapM (foldM answer) (foldM answer flow s).2).2) = _
        rw [foldM_eq_play]
      rw [hcons]
      exact Interleaves.cons_play flow (ih (play answer flow s).final)

/-- The values of flows that have all ended. -/
def ended? : List (Flow I α) → Option (List α)
  | [] => some []
  | .done value :: rest => (ended? rest).map (value :: ·)
  | .ask _ _ :: _ => none

theorem eq_map_done_of_ended? (h : ended? flows = some values) : flows = values.map .done := by
  fun_induction ended? flows generalizing values with
  | case1 =>
      cases h
      rfl
  | case2 value rest ih =>
      obtain ⟨others, hothers, rfl⟩ := Option.map_eq_some_iff.mp h
      rw [ih hothers, List.map_cons]
  | case3 r next rest => cases h

/-- Runs flows in the order of a schedule, whose numbers pick the flow of each turn. -/
def follow (answer : (r : I.Request) → StateM σ (I.Answer r)) :
    List Nat → List (Flow I α) → σ → Option (List α) × σ
  | [], flows, s => (ended? flows, s)
  | n :: schedule, flows, s =>
      match flows[n]? with
      | some (.ask r next) =>
          follow answer schedule (flows.set n (next (answer r s).1)) (answer r s).2
      | _ => follow answer schedule flows s

theorem interleaves_of_follow {schedule : List Nat}
    (h : (follow answer schedule flows s).1 = some values) :
    Interleaves answer flows s values (follow answer schedule flows s).2 := by
  induction schedule generalizing flows s with
  | nil =>
      rw [eq_map_done_of_ended? h]
      exact .ended values s
  | cons n schedule ih =>
      unfold follow at h ⊢
      split at h
      · rename_i r next hturn
        obtain ⟨hn, hflow⟩ := List.getElem?_eq_some_iff.mp hturn
        obtain ⟨before, after, hflows, -, hset⟩ : ∃ before after,
            flows = before ++ flows[n] :: after ∧ before.length = n ∧
              flows.set n (next (answer r s).1) = before ++ next (answer r s).1 :: after :=
          List.exists_of_set hn
        rw [hset] at h ⊢
        rw [hflow] at hflows
        rw [hflows]
        exact .turn before after r next (ih h)
      · exact ih h

/-! ## What every turn keeps -/

theorem Interleaves.view_eq {ν : Type} (view : σ → ν)
    (keeps : ∀ r s, view (answer r s).2 = view s)
    (run : Interleaves answer flows s values final) : view final = view s := by
  induction run with
  | ended values s => rfl
  | turn before after r next rest ih => rw [ih, keeps]

/-! ## Flows that do not meet -/

/--
Each key sees a part of the state.  A request that belongs to a key is answered, by `serve`, from
the part that the key sees, and changes no other part.
-/
structure Separate {κ ν : Type} (answer : (r : I.Request) → StateM σ (I.Answer r))
    (serve : (r : I.Request) → StateM ν (I.Answer r)) (view : κ → σ → ν)
    (own : κ → I.Request → Prop) : Prop where
  reply : ∀ k r s, own k r → (answer r s).1 = (serve r (view k s)).1
  view_own : ∀ k r s, own k r → view k (answer r s).2 = (serve r (view k s)).2
  view_other : ∀ k k' r s, own k r → k' ≠ k → view k' (answer r s).2 = view k' s

theorem mem_middle_iff {β : Type} {a b : β} {before after : List β} :
    a ∈ before ++ b :: after ↔ a = b ∨ a ∈ before ++ after := by
  rw [List.perm_middle.mem_iff, List.mem_cons]

namespace Separate

variable {κ ν : Type} {serve : (r : I.Request) → StateM ν (I.Answer r)} {view : κ → σ → ν}
variable {own : κ → I.Request → Prop}

/-- The run of a flow alone on the part that its key sees. -/
def alone (serve : (r : I.Request) → StateM ν (I.Answer r)) (view : κ → σ → ν)
    (t : κ × Flow I α) (s : σ) : Run I ν α :=
  play serve t.2 (view t.1 s)

theorem alone_of_ended (serve : (r : I.Request) → StateM ν (I.Answer r)) (view : κ → σ → ν)
    {tasks : List (κ × Flow I α)} (h : tasks.map Prod.snd = values.map .done) (s : σ) :
    values = tasks.map (fun t => (alone serve view t s).value) ∧
      ∀ t ∈ tasks, view t.1 s = (alone serve view t s).final := by
  induction tasks generalizing values with
  | nil =>
      have hvalues : values = [] := List.map_eq_nil_iff.mp h.symm
      exact ⟨hvalues, fun t ht => by cases ht⟩
  | cons t rest ih =>
      obtain ⟨value, others, rfl, hvalue, hothers⟩ := List.map_eq_cons_iff.mp h.symm
      obtain ⟨hrest, hviews⟩ := ih hothers.symm
      have ht : alone serve view t s = ⟨value, view t.1 s, []⟩ := by
        rw [alone, ← hvalue, play_done]
      constructor
      · rw [List.map_cons, ht, ← hrest]
      · intro u hu
        rcases List.mem_cons.mp hu with rfl | hu
        · rw [ht]
        · exact hviews u hu

/-- A turn brings the run of its flow forward and leaves the runs of the others as they are. -/
theorem alone_after_turn (separate : Separate answer serve view own) {k : κ} {r : I.Request}
    (next : I.Answer r → Flow I α) (s : σ) (hr : own k r) :
    alone serve view (k, .ask r next) s =
        (alone serve view (k, next (answer r s).1) (answer r s).2).after [⟨r, (answer r s).1⟩] ∧
      ∀ t : κ × Flow I α, t.1 ≠ k →
        alone serve view t (answer r s).2 = alone serve view t s := by
  constructor
  · simp only [alone, play_ask, separate.reply k r s hr, separate.view_own k r s hr]
  · intro t ht
    rw [alone, separate.view_other k t.1 r s hr ht, alone]

/-- Flows with different keys run as each of them does alone on the part that its key sees. -/
theorem value_and_view (separate : Separate answer serve view own)
    {tasks : List (κ × Flow I α)} (distinct : (tasks.map Prod.fst).Nodup)
    (owned : ∀ t ∈ tasks, ∀ r ∈ (alone serve view t s).asked, own t.1 r)
    (run : Interleaves answer (tasks.map Prod.snd) s values final) :
    values = tasks.map (fun t => (alone serve view t s).value) ∧
      (∀ t ∈ tasks, view t.1 final = (alone serve view t s).final) ∧
      ∀ k, k ∉ tasks.map Prod.fst → view k final = view k s := by
  generalize hflows : tasks.map Prod.snd = flows at run
  induction run generalizing tasks with
  | ended values s =>
      obtain ⟨hvalues, hviews⟩ := alone_of_ended serve view hflows s
      exact ⟨hvalues, hviews, fun k _ => rfl⟩
  | @turn before after r next s final values rest ih =>
      obtain ⟨first, tail, rfl, rfl, htail⟩ := List.map_eq_append_iff.mp hflows
      obtain ⟨⟨k, flow⟩, last, rfl, hflow, rfl⟩ := List.map_eq_cons_iff.mp htail
      cases hflow
      have hr : own k r := by
        refine owned (k, .ask r next) (by simp) r ?_
        simp [alone]
      obtain ⟨hself, hothers⟩ := separate.alone_after_turn next s hr
      have hapart : k ∉ (first ++ last).map Prod.fst := by
        have hmiddle := (List.perm_middle.map Prod.fst).nodup_iff.mp distinct
        exact (List.nodup_cons.mp hmiddle).1
      have hkept : ∀ t ∈ first ++ last,
          alone serve view t (answer r s).2 = alone serve view t s := by
        intro t ht
        exact hothers t fun h => hapart (h ▸ List.mem_map_of_mem ht)
      have howned : ∀ t ∈ first ++ (k, next (answer r s).1) :: last,
          ∀ q ∈ (alone serve view t (answer r s).2).asked, own t.1 q := by
        intro t ht q hq
        rcases mem_middle_iff.mp ht with rfl | ht
        · refine owned (k, .ask r next) (mem_middle_iff.mpr (.inl rfl)) q ?_
          rw [hself, Run.asked_after]
          exact List.mem_append_right _ hq
        · rw [hkept t ht] at hq
          exact owned t (mem_middle_iff.mpr (.inr ht)) q hq
      obtain ⟨hvalues, hviews, hrest⟩ := ih (by simpa using distinct) howned (by simp)
      refine ⟨?_, ?_, ?_⟩
      · have hfirst := List.map_congr_left fun t ht =>
          congrArg Run.value (hkept t (List.mem_append_left last ht))
        have hlast := List.map_congr_left fun t ht =>
          congrArg Run.value (hkept t (List.mem_append_right first ht))
        rw [hvalues, List.map_append, List.map_cons, hfirst, hlast, List.map_append,
          List.map_cons, hself, Run.value_after]
      · intro t ht
        rcases mem_middle_iff.mp ht with rfl | ht
        · rw [hself]
          exact hviews _ (mem_middle_iff.mpr (.inl rfl))
        · rw [hviews t (mem_middle_iff.mpr (.inr ht)), hkept t ht]
      · intro j hj
        have hjk : j ≠ k := by
          rintro rfl
          exact hj (by simp)
        rw [hrest j (by simpa using hj), separate.view_other k j r s hr hjk]

end Separate

end NodeVolumes.Flow
