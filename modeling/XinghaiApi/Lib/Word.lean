import Mathlib.Algebra.Group.Int.Defs
import Mathlib.Algebra.Group.Nat.Defs
import Mathlib.Tactic.Common

/-!
# Machine words

Additions and products of words wrap, so a computation in words gives the same as one in integers
that is wrapped at the end.
-/

namespace Word

/-- An integer as a word of 64 bits with a sign holds it. -/
def wrap64 (x : Int) : Int := x.bmod (2 ^ 64)

lemma wrap64_eq {x : Int} (hlow : -2 ^ 63 ≤ x) (hhigh : x < 2 ^ 63) : wrap64 x = x :=
  Int.bmod_eq_of_le (by omega) (by omega)

end Word
