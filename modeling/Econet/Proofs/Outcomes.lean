/-!
# Outcomes of steps that may fail

A step gives a result or an error. What two steps come to, or one step whose result is changed
afterwards, is said by the outcomes of the single steps.

## Main results

* `bind_eq_ok_iff`: two steps one after the other
* `map_eq_ok_iff`, `map_eq_error_iff`: a step whose result is changed
-/

namespace Econet

variable {ε α β : Type}

/-- What two steps come to is what the second one makes of the first. -/
theorem bind_eq_ok_iff {x : Except ε α} {f : α → Except ε β} {b : β} :
    (x >>= f) = .ok b ↔ ∃ a, x = .ok a ∧ f a = .ok b := by
  cases x with
  | error e =>
    constructor
    · intro h
      cases h
    · rintro ⟨a, h, -⟩
      cases h
  | ok a =>
    constructor
    · exact fun h => ⟨a, rfl, h⟩
    · rintro ⟨_, h, hf⟩
      cases h
      exact hf

theorem map_eq_ok_iff {x : Except ε α} {f : α → β} {b : β} :
    x.map f = .ok b ↔ ∃ a, x = .ok a ∧ f a = b := by
  cases x <;> simp [Except.map]

/-- Only the step itself can fail. -/
theorem map_eq_error_iff {x : Except ε α} {f : α → β} {e : ε} :
    x.map f = .error e ↔ x = .error e := by
  cases x <;> simp [Except.map]

end Econet
