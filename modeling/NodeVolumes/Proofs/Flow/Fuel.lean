import NodeVolumes.Proofs.Flow.Run

/-!
# Flows that are cut off

A flow whose value is optional may be cut off, and then has none.  `Cut charged n p q` tells that
`p` asks what `q` asks and ends as it does unless it is cut off on the way, and that it is not cut
off before it has made `n` of the requests that are charged for.  Sequences are cut off as their
parts are (`Cut.bindOption`), and so are flows that are served with finer requests (`Cut.foldM`).
A run that is cut off is a beginning of the other run (`Cut.play`), and one that is not is that run.
So where each part of a sequence has a value with enough fuel, the sequence has
(`Cut.exists_value_bind`).
-/

namespace NodeVolumes.Flow

variable {I J : Interface} {σ α β γ : Type}

/-- The first flow does as the second one does, but may be cut off after `n` charged requests. -/
inductive Cut (charged : I.Request → Bool) :
    Nat → Flow I (Option α) → Flow I (Option α) → Prop where
  | off (whole : Flow I (Option α)) : Cut charged 0 (.done none) whole
  | done {n : Nat} (value : α) : Cut charged n (.done (some value)) (.done (some value))
  | ask {n : Nat} (r : I.Request) {next next' : I.Answer r → Flow I (Option α)}
      (rest : ∀ reply, Cut charged (n - (charged r).toNat) (next reply) (next' reply)) :
      Cut charged n (.ask r next) (.ask r next')

theorem value_bindOption (answer : (r : I.Request) → StateM σ (I.Answer r))
    (x : OptionT (Flow I) α) (f : α → OptionT (Flow I) β) (s : σ) :
    ((x >>= f).run.play answer s).value = (x.run.play answer s).value.bind fun a =>
      ((f a).run.play answer (x.run.play answer s).final).value := by
  change ((x.run >>= _).play answer s).value = _
  rw [play_bind, Run.value_after]
  cases (x.run.play answer s).value <;> rfl

theorem value_liftOption_ne_none (answer : (r : I.Request) → StateM σ (I.Answer r))
    (flow : Flow I α) (s : σ) : ((OptionT.lift flow).run.play answer s).value ≠ none := by
  rw [play_liftOption]
  exact Option.some_ne_none _

namespace Cut

variable {charged : I.Request → Bool} {n m : Nat}

theorem mono {p q : Flow I (Option α)} (h : Cut charged n p q) (hle : m ≤ n) :
    Cut charged m p q := by
  induction h generalizing m with
  | off whole =>
      obtain rfl := Nat.le_zero.mp hle
      exact .off whole
  | done value => exact .done value
  | ask r _ ih => exact .ask r fun reply => ih reply (Nat.sub_le_sub_right hle _)

/-- What always has a value is never cut off. -/
theorem lift (flow : Flow I α) :
    Cut charged n (OptionT.lift flow).run (OptionT.lift flow).run := by
  induction flow generalizing n with
  | done value => exact .done value
  | ask r next ih => exact .ask r fun reply => ih reply

theorem bindOption {x y : OptionT (Flow I) α} {f g : α → OptionT (Flow I) β}
    (first : Cut charged n x.run y.run) (rest : ∀ a, Cut charged n (f a).run (g a).run) :
    Cut charged n (x >>= f).run (y >>= g).run := by
  change Cut charged n (x.run >>= _) (y.run >>= _)
  generalize x.run = p, y.run = q at first ⊢
  induction first with
  | off whole => exact .off _
  | done value => exact rest value
  | ask r _ ih =>
      exact .ask r fun reply => ih reply fun a => (rest a).mono (Nat.sub_le _ _)

/-- Flows are cut off in the same way if each of their requests is served by one that is charged
for alike. -/
theorem foldM {charged' : J.Request → Bool} {serve : (r : I.Request) → Flow J (I.Answer r)}
    (alike : ∀ (r : I.Request) (n : Nat) (f g : I.Answer r → Flow J (Option α)),
      (∀ reply, Cut charged' (n - (charged r).toNat) (f reply) (g reply)) →
        Cut charged' n (serve r >>= f) (serve r >>= g))
    {p q : Flow I (Option α)} (h : Cut charged n p q) :
    Cut charged' n (p.foldM serve) (q.foldM serve) := by
  induction h with
  | off whole => exact .off _
  | done value => exact .done value
  | ask r _ ih => exact alike r _ _ _ ih

/-- The run of a flow that is cut off is a beginning of the other run, with `n` charged requests at
the least; otherwise the two runs are the same. -/
theorem play {p q : Flow I (Option α)} (h : Cut charged n p q)
    (answer : (r : I.Request) → StateM σ (I.Answer r)) (s : σ) :
    let run := p.play answer s
    let whole := q.play answer s
    (run.value = none ∧ n ≤ run.asked.countP charged ∧ run.dialogue <+: whole.dialogue) ∨
      (run.value ≠ none ∧ whole = run) := by
  induction h generalizing s with
  | off whole => exact .inl ⟨rfl, Nat.zero_le _, List.nil_prefix⟩
  | done value => exact .inr ⟨Option.some_ne_none value, rfl⟩
  | @ask n r next next' _ ih =>
      rcases ih (answer r s).1 (answer r s).2 with ⟨hvalue, hcount, hprefix⟩ | ⟨hvalue, hwhole⟩
      · refine .inl ⟨hvalue, ?_, (List.prefix_append_right_inj _).mpr hprefix⟩
        rw [play_ask, Run.asked_after, List.countP_append]
        cases hr : charged r <;> simp [hr] at hcount ⊢ <;> omega
      · refine .inr ⟨hvalue, ?_⟩
        rw [play_ask, play_ask, hwhole]

/-- What has a value keeps it with more fuel. -/
theorem play_eq_of_value_ne_none {p q : Flow I (Option α)} (h : Cut charged n p q)
    {answer : (r : I.Request) → StateM σ (I.Answer r)} {s : σ}
    (hvalue : (p.play answer s).value ≠ none) : q.play answer s = p.play answer s :=
  (h.play answer s).elim (fun cut => absurd cut.1 hvalue) And.right

/-- A sequence has a value with enough fuel if its parts have one. -/
theorem exists_value_bind {x : Nat → OptionT (Flow I) α} {f : Nat → α → OptionT (Flow I) β}
    {answer : (r : I.Request) → StateM σ (I.Answer r)} {s : σ} {a : α}
    (first : ∀ {n m}, n ≤ m → Cut charged n (x n).run (x m).run)
    (rest : ∀ a {n m}, n ≤ m → Cut charged n (f n a).run (f m a).run)
    (hfirst : ((x n).run.play answer s).value = some a)
    (hrest : ((f m a).run.play answer ((x n).run.play answer s).final).value ≠ none) :
    ∃ k, ((x k >>= f k).run.play answer s).value ≠ none := by
  have hx : ((x (max n m)).run.play answer s) = (x n).run.play answer s :=
    (first (Nat.le_max_left n m)).play_eq_of_value_ne_none (by rw [hfirst]; exact nofun)
  have hf := (rest a (Nat.le_max_right n m)).play_eq_of_value_ne_none hrest
  refine ⟨max n m, ?_⟩
  rw [value_bindOption, hx, hfirst, Option.bind_some, hf]
  exact hrest

end Cut

end NodeVolumes.Flow
