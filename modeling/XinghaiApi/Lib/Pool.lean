import Mathlib.Data.List.Basic
import Mathlib.Tactic.Common

/-!
# Pools of concurrent calls

The calls in progress are a list; a call moves by replacing its entry. These are the facts that an
invariant over such a pool rests on: how one move changes the number of calls in a phase, what holds
of all calls after it, and what the end of some calls leaves.
-/

namespace Pool

variable {κ : Type*} {calls : List κ} {i : ℕ} {c c' : κ} {p : κ → Bool} {P : κ → Prop}

lemma forall_mem_set (hall : ∀ x ∈ calls, P x) (hnew : P c') : ∀ x ∈ calls.set i c', P x := by
  intro x hx
  rcases List.mem_or_eq_of_mem_set hx with hx | rfl
  · exact hall x hx
  · exact hnew

/-- Some call has the property iff the `i`-th one or another one has it. -/
lemma exists_mem_iff (h : calls[i]? = some c) :
    (∃ x ∈ calls, P x) ↔ P c ∨ ∃ j, j ≠ i ∧ ∃ x, calls[j]? = some x ∧ P x := by
  constructor
  · rintro ⟨x, hx, hPx⟩
    obtain ⟨j, hj⟩ := List.mem_iff_getElem?.mp hx
    by_cases hji : j = i
    · subst hji
      rw [Option.some.inj (hj.symm.trans h)] at hPx
      exact Or.inl hPx
    · exact Or.inr ⟨j, hji, x, hj, hPx⟩
  · rintro (hPc | ⟨j, -, x, hj, hPx⟩)
    · exact ⟨c, List.mem_of_getElem? h, hPc⟩
    · exact ⟨x, List.mem_of_getElem? hj, hPx⟩

/-- A move of the `i`-th call leaves the other ones. -/
lemma exists_mem_set_iff (h : calls[i]? = some c) :
    (∃ x ∈ calls.set i c', P x) ↔ P c' ∨ ∃ j, j ≠ i ∧ ∃ x, calls[j]? = some x ∧ P x := by
  obtain ⟨hi, -⟩ := List.getElem?_eq_some_iff.mp h
  have hset : (calls.set i c')[i]? = some c' := by simp [hi]
  rw [exists_mem_iff hset]
  apply or_congr Iff.rfl
  apply exists_congr
  intro j
  apply and_congr_right
  intro hji
  rw [List.getElem?_set_ne (Ne.symm hji)]

section

variable (h : calls[i]? = some c)

include h

/-- A move within the phase, or outside of it, keeps the number of calls in it. -/
lemma countP_set_of_eq (heq : p c' = p c) : (calls.set i c').countP p = calls.countP p := by
  obtain ⟨hi, rfl⟩ := List.getElem?_eq_some_iff.mp h
  rw [List.countP_set hi, heq]
  split_ifs with hp
  · have hpos : 0 < calls.countP p := List.countP_pos_iff.mpr ⟨_, List.getElem_mem hi, hp⟩
    omega
  · rfl

/-- A call that enters the phase. -/
lemma countP_set_enter (hout : p c = false) (hin : p c' = true) :
    (calls.set i c').countP p = calls.countP p + 1 := by
  obtain ⟨hi, rfl⟩ := List.getElem?_eq_some_iff.mp h
  simp [List.countP_set hi, hout, hin]

/-- A call that leaves the phase. -/
lemma countP_set_leave (hin : p c = true) (hout : p c' = false) :
    (calls.set i c').countP p + 1 = calls.countP p := by
  obtain ⟨hi, rfl⟩ := List.getElem?_eq_some_iff.mp h
  have hpos : 0 < calls.countP p := List.countP_pos_iff.mpr ⟨_, List.getElem_mem hi, hin⟩
  simp only [List.countP_set hi, hin, hout, if_true, Bool.false_eq_true, if_false]
  omega

/-- A move in any case. -/
lemma countP_set_add : (calls.set i c').countP p + (p c).toNat = calls.countP p + (p c').toNat := by
  cases hc : p c <;> cases hc' : p c'
  · simpa using countP_set_of_eq h (hc'.trans hc.symm)
  · simpa using countP_set_enter h hc hc'
  · simpa using countP_set_leave h hc hc'
  · simpa using countP_set_of_eq h (hc'.trans hc.symm)

end

/-- Replacing calls by ones outside of the phase adds none to it. -/
lemma countP_map_le {f : κ → κ} (hf : ∀ x ∈ calls, p (f x) = true → p x = true) :
    (calls.map f).countP p ≤ calls.countP p := by
  rw [List.countP_map]
  exact List.countP_mono_left hf

lemma countP_map_of_eq {f : κ → κ} (hf : ∀ x ∈ calls, p (f x) = p x) :
    (calls.map f).countP p = calls.countP p := by
  rw [List.countP_map]
  apply List.countP_congr
  intro x hx
  rw [Function.comp_apply, hf x hx]

end Pool
