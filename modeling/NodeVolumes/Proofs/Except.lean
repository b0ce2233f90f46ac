/-!
# Steps that may fail

What succeeds step by step has succeeded at each step, and what fails has failed at one of them.
-/

namespace NodeVolumes

variable {ε α β : Type} {x : Except ε α} {f : α → Except ε β} {b : β}

/-- What succeeds has parts that succeed. -/
theorem exists_of_bind_eq_ok (h : (x >>= f) = .ok b) : ∃ a, x = .ok a ∧ f a = .ok b := by
  cases x with
  | error e => cases h
  | ok a => exact ⟨a, rfl, h⟩

theorem bind_eq_ok_iff : (x >>= f) = .ok b ↔ ∃ a, x = .ok a ∧ f a = .ok b := by
  constructor
  · exact exists_of_bind_eq_ok
  · rintro ⟨a, rfl, h⟩
    exact h

theorem eq_ok_of_toOption {a : α} (h : x.toOption = some a) : x = .ok a := by
  cases x with
  | error e => cases h
  | ok b => exact congrArg Except.ok (Option.some.inj h)

end NodeVolumes
