import Mathlib.Algebra.BigOperators.Group.List.Basic
import Mathlib.Data.List.AList
import Mathlib.Tactic.Abel
import XinghaiApi.Lib.Run

/-!
# Amounts that wait to be written

Amounts are gathered under keys in a finite map, the map is taken as a whole, and its amounts are
written out one key after the other by as many writers at once as there are. What is written plus
what waits plus what the writers still hold is then the sum of all amounts, whatever the order: an
amount moves from one of the three to another and none is lost.
-/

namespace Pending

variable {κ M : Type*} [DecidableEq κ]

abbrev Amounts (κ M : Type*) := AList fun _ : κ => M

section

variable [AddCommGroup M] (amounts : Amounts κ M) (k k' : κ) (v : M)

/-- The amount under a key; a key that is not there has none. -/
def amount : M := (amounts.lookup k).getD 0

def add : Amounts κ M :=
  match amounts.lookup k with
  | none     => amounts.insert k v
  | some old => amounts.insert k (old + v)

@[simp] lemma amount_empty : amount (∅ : Amounts κ M) k = 0 := rfl

@[simp] lemma amount_add :
    amount (add amounts k v) k' = amount amounts k' + if k' = k then v else 0 := by
  unfold add
  by_cases hk : k' = k
  · subst hk
    cases h : amounts.lookup k' <;> simp [amount, h]
  · cases h : amounts.lookup k <;> simp [amount, hk]

@[simp] lemma amount_erase :
    amount (amounts.erase k) k' = if k' = k then 0 else amount amounts k' := by
  by_cases hk : k' = k
  · subst hk
    simp [amount]
  · simp [amount, hk, AList.lookup_erase_ne hk]

lemma amount_of_keys_eq_nil (h : amounts.keys = []) : amount amounts k = 0 := by
  have hnot : k ∉ amounts := by simp [AList.mem_keys, h]
  simp [amount, AList.lookup_eq_none.mpr hnot]

end

/-! ### What the writers hold -/

section

variable [AddCommGroup M] {ω : Type*} (held : ω → M) {writers : List ω}

def inFlight (writers : List ω) : M := (writers.map held).sum

@[simp] lemma inFlight_nil : inFlight held [] = 0 := rfl

@[simp] lemma inFlight_append (writers writers' : List ω) :
    inFlight held (writers ++ writers') = inFlight held writers + inFlight held writers' := by
  simp [inFlight]

@[simp] lemma inFlight_singleton (w : ω) : inFlight held [w] = held w := by
  simp [inFlight]

/-- A writer that moves changes the sum by what it takes or lets go. -/
lemma inFlight_set {i : ℕ} {w : ω} (h : writers[i]? = some w) (w' : ω) :
    inFlight held (writers.set i w') = inFlight held writers - held w + held w' := by
  obtain ⟨hi, rfl⟩ := List.getElem?_eq_some_iff.mp h
  rw [inFlight, List.map_set, List.sum_set', dif_pos (by simpa using hi), List.getElem_map]
  simp only [inFlight]
  abel

lemma inFlight_eraseIdx {i : ℕ} {w : ω} (h : writers[i]? = some w) :
    inFlight held (writers.eraseIdx i) + held w = inFlight held writers := by
  obtain ⟨hi, rfl⟩ := List.getElem?_eq_some_iff.mp h
  have hsum := List.CommMonoid.add_sum_eraseIdx (l := writers.map held) (by simpa using hi)
  rw [List.getElem_map, List.eraseIdx_map, add_comm] at hsum
  exact hsum

lemma inFlight_eq_zero (h : ∀ w ∈ writers, held w = 0) : inFlight held writers = 0 := by
  apply List.sum_eq_zero
  intro x hx
  obtain ⟨w, hw, rfl⟩ := List.mem_map.mp hx
  exact h w hw

end

end Pending
