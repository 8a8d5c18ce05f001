import Mathlib.Data.List.Infix
import Mathlib.Tactic.Common

/-!
# First occurrences of a list in a list

What stands in front of the first occurrence and behind it, and replacing it. Where the list is cut
into pieces by a separator that the sought list does not have, an occurrence lies within one piece.
-/

namespace Occurrence

open List

variable {α : Type*} [DecidableEq α]

/-- What stands in front of the first occurrence of `part`; everything, if there is none. -/
def before (part : List α) : List α → List α
  | []      => []
  | x :: xs => if part <+: x :: xs then [] else x :: before part xs

/-- Replace the first occurrence of a list that is not empty. -/
def replace (old new : List α) : List α → List α
  | []      => []
  | x :: xs =>
    if old <+: x :: xs then new ++ (x :: xs).drop old.length else x :: replace old new xs

/-- What stands in front of the first occurrence of `part`, and behind it. -/
def cut (part : List α) : List α → Option (List α × List α)
  | []      => none
  | x :: xs =>
    if part <+: x :: xs then some ([], (x :: xs).drop part.length)
    else (cut part xs).map fun (front, back) => (x :: front, back)

lemma eq_of_cut {part xs front back : List α} (h : cut part xs = some (front, back)) :
    xs = front ++ part ++ back := by
  induction xs generalizing front with
  | nil => cases h
  | cons x xs ih =>
    rw [cut] at h
    split_ifs at h with hpart
    · obtain ⟨rfl, rfl⟩ := Prod.mk.inj (Option.some.inj h)
      exact (prefix_iff_eq_append.mp hpart).symm
    · obtain ⟨⟨front', back'⟩, hcut, heq⟩ := Option.map_eq_some_iff.mp h
      obtain ⟨rfl, rfl⟩ := Prod.mk.inj heq
      simpa using ih hcut

/-- The list does not occur in front of its first occurrence. -/
lemma not_infix_of_cut {part xs front back : List α} (hne : part ≠ [])
    (h : cut part xs = some (front, back)) : ¬part <:+: front := by
  induction xs generalizing front with
  | nil => cases h
  | cons x xs ih =>
    have heq := eq_of_cut h
    rw [cut] at h
    split_ifs at h with hpart
    · obtain ⟨rfl, -⟩ := Prod.mk.inj (Option.some.inj h)
      simpa using hne
    · obtain ⟨⟨front', back'⟩, hcut, hpair⟩ := Option.map_eq_some_iff.mp h
      obtain ⟨rfl, rfl⟩ := Prod.mk.inj hpair
      rw [infix_cons_iff, not_or]
      refine ⟨fun hprefix => hpart ?_, ih hcut⟩
      rw [heq, append_assoc]
      exact hprefix.trans (prefix_append _ _)

lemma cut_of_isPrefix {part xs : List α} (hne : part ≠ []) (h : part <+: xs) :
    cut part xs = some ([], xs.drop part.length) := by
  cases xs with
  | nil => exact absurd (prefix_nil.mp h) hne
  | cons x xs => rw [cut, if_pos h]

/-- A list that has its last element once is found behind what it does not occur in. -/
lemma cut_append {start front : List α} {x : α} (hx : x ∉ start)
    (hfront : ¬start ++ [x] <:+: front) (back : List α) :
    cut (start ++ [x]) (front ++ (start ++ [x]) ++ back) = some (front, back) := by
  induction front with
  | nil =>
    have hne : start ++ [x] ≠ [] := append_ne_nil_of_right_ne_nil start (cons_ne_nil x [])
    rw [nil_append, cut_of_isPrefix hne (prefix_append _ _), drop_left]
  | cons y front ih =>
    have hstart : ¬start ++ [x] <+: y :: (front ++ (start ++ [x]) ++ back) := by
      intro hprefix
      have hget : (y :: front ++ (start ++ ([x] ++ back)))[start.length]? = some x := by
        obtain ⟨rest, hrest⟩ := hprefix
        have hlist : y :: front ++ (start ++ ([x] ++ back)) = start ++ [x] ++ rest := by
          simp [hrest]
        rw [hlist]
        simp
      by_cases hlength : start.length < (y :: front).length
      · refine hfront (prefix_of_prefix_length_le hprefix ?_ ?_).isInfix
        · simp
        · rwa [length_append, length_singleton]
      · -- the last element would stand in the middle
        rw [getElem?_append_right (by omega), getElem?_append_left (by simp at hlength ⊢; omega)]
          at hget
        exact hx (mem_of_getElem? hget)
    rw [cons_append, cons_append, cut, if_neg hstart,
      ih fun h => hfront (h.trans (infix_cons (infix_refl front)))]
    rfl

lemma before_eq_nil {part xs : List α} (h : part <+: xs) : before part xs = [] := by
  cases xs with
  | nil => rfl
  | cons x xs => rw [before, if_pos h]

omit [DecidableEq α] in
/-- An occurrence at the start does not reach over a separator that it does not have. -/
lemma isPrefix_of_append_sep {sep : α} {part s xs : List α} (hsep : sep ∉ part)
    (h : part <+: s ++ sep :: xs) : part <+: s := by
  induction s generalizing part with
  | nil =>
    cases part with
    | nil => exact nil_prefix
    | cons p part => exact absurd (cons_prefix_cons.mp h).1.symm (ne_of_not_mem_cons hsep)
  | cons x s ih =>
    cases part with
    | nil => exact nil_prefix
    | cons p part =>
      obtain ⟨rfl, hpart⟩ := cons_prefix_cons.mp h
      exact cons_prefix_cons.mpr ⟨rfl, ih (not_mem_of_not_mem_cons hsep) hpart⟩

/-- A piece in which the list does not occur is passed over. -/
lemma before_append_sep {sep : α} {part s : List α} (hne : part ≠ []) (hsep : sep ∉ part)
    (hs : ¬part <:+: s) (xs : List α) :
    before part (s ++ sep :: xs) = s ++ sep :: before part xs := by
  induction s with
  | nil =>
    have hstart : ¬part <+: sep :: xs := fun h =>
      hne (prefix_nil.mp (isPrefix_of_append_sep hsep h))
    rw [nil_append, before, if_neg hstart, nil_append]
  | cons x s ih =>
    have hstart : ¬part <+: x :: (s ++ sep :: xs) := fun h =>
      hs (isPrefix_of_append_sep hsep h).isInfix
    have hrest : ¬part <:+: s := fun h => hs (h.trans (infix_cons (infix_refl s)))
    rw [cons_append, before, if_neg hstart, ih hrest, cons_append]

/-- A piece without the first element of the list is passed over. -/
lemma replace_append {y : α} {ys new s : List α} (hy : y ∉ s) (xs : List α) :
    replace (y :: ys) new (s ++ xs) = s ++ replace (y :: ys) new xs := by
  induction s with
  | nil => rfl
  | cons x s ih =>
    have hstart : ¬(y :: ys) <+: x :: (s ++ xs) := fun h =>
      ne_of_not_mem_cons hy (cons_prefix_cons.mp h).1
    rw [cons_append, replace, if_neg hstart, ih (not_mem_of_not_mem_cons hy), cons_append]

lemma replace_cons_append (y : α) (ys new xs : List α) :
    replace (y :: ys) new (y :: ys ++ xs) = new ++ xs := by
  rw [cons_append, replace]
  simp

end Occurrence
