import Mathlib.Tactic.Common

/-!
# Computations that may fail

When a composed computation succeeds, its parts have succeeded.
-/

namespace Except

variable {ε ε' α β : Type} {r : Except ε α}

lemma bind_eq_ok {f : α → Except ε β} {b : β} : r >>= f = .ok b ↔ ∃ a, r = .ok a ∧ f a = .ok b := by
  cases r <;> simp [bind, Except.bind]

lemma map_eq_ok {f : α → β} {b : β} : r.map f = .ok b ↔ ∃ a, r = .ok a ∧ f a = b := by
  cases r <;> simp [Except.map]

lemma mapError_eq_ok {f : ε → ε'} {a : α} : r.mapError f = .ok a ↔ r = .ok a := by
  cases r <;> simp [Except.mapError]

lemma toOption_eq_some {a : α} : r.toOption = some a ↔ r = .ok a := by
  cases r <;> simp [Except.toOption]

end Except
