import Mathlib.Data.List.Sort
import Mathlib.Data.List.Dedup
import Mathlib.Order.Interval.Finset.Nat
import Mathlib.Algebra.Order.BigOperators.Group.List
import Mathlib.Tactic.Linarith
import Mathlib.Tactic.Common
import XinghaiApi.Lib.Word

/-!
# Choosing from a list

The first element of each key; the *levels* of a list, which are its distinct values, largest first,
where an index beyond the last level stands for the last one; and *weighted draws*, which walk the
list and take the weight of each element off a number until a stopping test holds.
-/

namespace Selection

open List

/-! ### The first of each key -/

variable {i : ℕ}

section

variable {α κ : Type*} [DecidableEq κ] {key : α → κ} {l : List α} {a : α}

/-- The elements whose key is not seen before them. -/
def keepFirst (key : α → κ) : List κ → List α → List α
  | _, []        => []
  | seen, a :: l =>
    if key a ∈ seen then keepFirst key seen l else a :: keepFirst key (key a :: seen) l

lemma mem_keepFirst {seen : List κ} :
    a ∈ keepFirst key seen l ↔ key a ∉ seen ∧ l.find? (key · = key a) = some a := by
  induction l generalizing seen with
  | nil => simp [keepFirst]
  | cons b l ih =>
    by_cases hkey : key b = key a
    · by_cases hseen : key a ∈ seen
      · simp [keepFirst, hkey, hseen, ih]
      · simp [keepFirst, hkey, hseen, ih, eq_comm]
    · by_cases hseen : key b ∈ seen
      · simp [keepFirst, hkey, hseen, ih]
      · have hne : a ≠ b := fun h => hkey (h ▸ rfl)
        simp [keepFirst, hkey, hseen, ih, hne, Ne.symm hkey]

/-- Where the key tells the elements of a list apart, nothing is dropped. -/
lemma mem_keepFirst_of_inj (hinj : ∀ b ∈ l, key b = key a → b = a) :
    a ∈ keepFirst key [] l ↔ a ∈ l := by
  simp only [mem_keepFirst, not_mem_nil, not_false_eq_true, true_and]
  constructor
  · exact mem_of_find?_eq_some
  · intro ha
    obtain ⟨b, hb⟩ := Option.isSome_iff_exists.mp
      (List.find?_isSome (p := (key · = key a)).mpr ⟨a, ha, by simp⟩)
    rw [hb, hinj b (mem_of_find?_eq_some hb) (by simpa using List.find?_some hb)]

end

/-! ### Levels -/

section

variable {α : Type*} [LinearOrder α] {l : List α} {a : α}

/-- The distinct values of a list, largest first. -/
def levels (l : List α) : List α := l.dedup.insertionSort (· ≥ ·)

/-- The level that an index stands for. -/
def levelAt (l : List α) (i : ℕ) : Option α := (levels l)[min i ((levels l).length - 1)]?

@[simp] lemma mem_levels : a ∈ levels l ↔ a ∈ l := by
  simp [levels]

@[simp] lemma levels_nil : levels ([] : List α) = [] := rfl

@[simp] lemma levels_eq_nil : levels l = [] ↔ l = [] := by
  simp only [eq_nil_iff_forall_not_mem, mem_levels]

lemma pairwise_levels (l : List α) : (levels l).Pairwise (· > ·) := by
  have hsorted : (levels l).Pairwise (· ≥ ·) := pairwise_insertionSort _ _
  have hnodup : (levels l).Nodup :=
    (perm_insertionSort _ _).nodup_iff.mpr (nodup_dedup l)
  refine List.Pairwise.imp₂ ?_ hsorted hnodup
  intro a b hge hne
  exact lt_of_le_of_ne hge (Ne.symm hne)

/-- The levels are determined by which values occur. -/
lemma levels_congr {l' : List α} (h : ∀ a, a ∈ l ↔ a ∈ l') : levels l = levels l' := by
  apply List.Perm.eq_of_pairwise' (pairwise_levels l) (pairwise_levels l')
  rw [perm_ext_iff_of_nodup]
  · simpa using h
  · exact (pairwise_levels l).imp fun h => h.ne'
  · exact (pairwise_levels l').imp fun h => h.ne'

lemma levelAt_congr {l' : List α} (h : ∀ a, a ∈ l ↔ a ∈ l') (i : ℕ) :
    levelAt l i = levelAt l' i := by
  simp only [levelAt, levels_congr h]

@[simp] lemma levelAt_nil (i : ℕ) : levelAt ([] : List α) i = none := rfl

lemma mem_of_levelAt (h : levelAt l i = some a) : a ∈ l :=
  mem_levels.mp (mem_of_getElem? h)

lemma levelAt_eq_none : levelAt l i = none ↔ l = [] := by
  constructor
  · intro h
    have hlen := List.getElem?_eq_none_iff.mp h
    rw [← levels_eq_nil, ← length_eq_zero_iff]
    omega
  · rintro rfl
    rfl

lemma exists_levelAt (h : l ≠ []) (i : ℕ) : ∃ a, levelAt l i = some a :=
  Option.ne_none_iff_exists'.mp fun hn => h (levelAt_eq_none.mp hn)

/-- The first level is the largest value. -/
lemma le_of_levelAt_zero (h : levelAt l 0 = some a) : ∀ b ∈ l, b ≤ a := by
  intro b hb
  have hpair := pairwise_levels l
  have hb := mem_levels.mpr hb
  cases hl : levels l with
  | nil => simp [hl] at hb
  | cons c cs =>
    obtain rfl : c = a := by simpa [levelAt, hl] using h
    rw [hl] at hpair hb
    rcases mem_cons.mp hb with rfl | hb
    · exact le_refl b
    · exact ((pairwise_cons.mp hpair).1 b hb).le

lemma max?_eq_levelAt_zero : l.max? = levelAt l 0 := by
  cases h : levelAt l 0 with
  | none => rw [levelAt_eq_none.mp h, List.max?_nil]
  | some a => exact List.max?_eq_some_iff.mpr ⟨mem_of_levelAt h, le_of_levelAt_zero h⟩

/-- A level is the largest value just in case the index is 0 or there is only one level. -/
lemma levelAt_isMax_iff (h : levelAt l i = some a) :
    (∀ b ∈ l, b ≤ a) ↔ i = 0 ∨ ∀ b ∈ l, ∀ c ∈ l, b = c := by
  constructor
  · intro hmax
    by_contra hcon
    push Not at hcon
    obtain ⟨hi, b, hb, c, hc, hbc⟩ := hcon
    have hpair := pairwise_levels l
    cases hl : levels l with
    | nil => simp [levels_eq_nil.mp hl] at hb
    | cons d ds =>
      have hd := hmax d (mem_levels.mp (hl ▸ mem_cons_self))
      rw [hl] at hpair
      -- with two levels, an index above 0 is not the first one
      have hds : ds ≠ [] := by
        rintro rfl
        have hall : ∀ x ∈ l, x = d := fun x hx => by simpa [hl] using mem_levels.mpr hx
        exact hbc ((hall b hb).trans (hall c hc).symm)
      have hlen := length_pos_of_ne_nil hds
      have ha : a ∈ ds := by
        obtain ⟨k, hk⟩ : ∃ k, min i ((levels l).length - 1) = k + 1 :=
          ⟨min i ((levels l).length - 1) - 1, by simp [hl]; omega⟩
        rw [levelAt, hk, hl] at h
        exact mem_of_getElem? h
      exact absurd hd (not_le.mpr ((pairwise_cons.mp hpair).1 a ha))
  · rintro (rfl | hone)
    · exact le_of_levelAt_zero h
    · intro b hb
      exact (hone b hb a (mem_of_levelAt h)).le

end

/-! ### Weighted draws -/

section

variable {α : Type*} {w : α → ℕ} {l : List α} {a : α} {r : ℤ}

/-- Take the weights off `r` in turn; the first element after which `stop` holds is drawn. -/
def drawUntil (stop : ℤ → Bool) (weight : α → ℕ) : List α → ℤ → Option α
  | [], _     => none
  | a :: l, r =>
    if stop (r - weight a) then some a else drawUntil stop weight l (r - weight a)

/-- Stopping at 0 is stopping below 0 with a number that is one less. -/
lemma drawUntil_nonpos (r : ℤ) : drawUntil (· ≤ 0) w l r = drawUntil (· < 0) w l (r - 1) := by
  induction l generalizing r with
  | nil => rfl
  | cons b l ih =>
    have hstop : (r - w b ≤ 0) ↔ (r - 1 - w b < 0) := by omega
    simp only [drawUntil, hstop, ih]
    rw [sub_right_comm]

lemma mem_of_drawUntil {stop : ℤ → Bool} (h : drawUntil stop w l r = some a) : a ∈ l := by
  induction l generalizing r with
  | nil => cases h
  | cons b l ih =>
    simp only [drawUntil] at h
    split_ifs at h with hstop
    · cases h
      exact mem_cons_self
    · exact mem_cons_of_mem b (ih h)

/-- What a draw from a natural number stops at has a weight. -/
lemma weight_pos_of_drawUntil (hr : 0 ≤ r) (h : drawUntil (· < 0) w l r = some a) : 0 < w a := by
  induction l generalizing r with
  | nil => cases h
  | cons b l ih =>
    simp only [drawUntil, decide_eq_true_eq] at h
    split_ifs at h with hstop
    · cases h
      omega
    · exact ih (not_lt.mp hstop) h

/-- A draw below the total weight finds an element. -/
lemma exists_drawUntil_of_lt (hne : l ≠ []) (h : r < (l.map w).sum) :
    ∃ a ∈ l, drawUntil (· < 0) w l r = some a := by
  induction l generalizing r with
  | nil => exact absurd rfl hne
  | cons b l ih =>
    simp only [drawUntil, decide_eq_true_eq]
    split_ifs with hstop
    · exact ⟨b, mem_cons_self, rfl⟩
    · simp only [map_cons, sum_cons, Nat.cast_add] at h
      have hl : l ≠ [] := by
        rintro rfl
        simp only [map_nil, sum_nil, Nat.cast_zero] at h
        linarith
      obtain ⟨a, ha, hdraw⟩ := ih (r := r - w b) hl (by linarith)
      exact ⟨a, mem_cons_of_mem b ha, hdraw⟩

lemma sum_weight_pos (ha : a ∈ l) (hw : 0 < w a) : 0 < (l.map w).sum :=
  lt_of_lt_of_le hw (le_sum_of_mem (mem_map_of_mem ha))

/-- Every element with a weight is drawn by some number, with its weight to spare. -/
lemma exists_drawUntil_eq (ha : a ∈ l) (hw : 0 < w a) :
    ∃ r : ℕ, r + w a ≤ (l.map w).sum ∧ drawUntil (· < 0) w l r = some a := by
  induction l with
  | nil => cases ha
  | cons b l ih =>
    by_cases hb : b = a
    · subst hb
      exact ⟨0, by simp, by simp [drawUntil, hw]⟩
    · obtain ⟨r, hle, hdraw⟩ := ih ((mem_cons.mp ha).resolve_left (Ne.symm hb))
      refine ⟨w b + r, by simp; omega, ?_⟩
      have hstop : ¬ ((w b + r : ℕ) - w b : ℤ) < 0 := by push_cast; omega
      simp only [drawUntil, decide_eq_true_eq, if_neg hstop]
      rw [← hdraw]
      congr 1
      omega

/-- The elements drawn by the numbers below the total weight are those with a weight. -/
theorem exists_draw_iff :
    (∃ rand : ℕ, drawUntil (· < 0) w l (rand % (l.map w).sum : ℕ) = some a) ↔ a ∈ l ∧ 0 < w a := by
  constructor
  · rintro ⟨rand, h⟩
    exact ⟨mem_of_drawUntil h, weight_pos_of_drawUntil (Int.natCast_nonneg _) h⟩
  · rintro ⟨ha, hw⟩
    obtain ⟨r, hle, h⟩ := exists_drawUntil_eq ha hw
    refine ⟨r, ?_⟩
    rwa [Nat.mod_eq_of_lt (by omega)]

/-- Where the test is at 0, elements that weigh more than 1 are all drawn. -/
theorem exists_draw_nonpos_iff (hw : ∀ b ∈ l, 1 < w b) :
    (∃ rand : ℕ, drawUntil (· ≤ 0) w l (rand % (l.map w).sum : ℕ) = some a) ↔ a ∈ l := by
  constructor
  · rintro ⟨rand, h⟩
    exact mem_of_drawUntil h
  · intro ha
    have hwa := hw a ha
    obtain ⟨r, hle, h⟩ := exists_drawUntil_eq ha (lt_trans one_pos hwa)
    refine ⟨r + 1, ?_⟩
    rw [Nat.mod_eq_of_lt (by omega), drawUntil_nonpos]
    simpa using h

/-! ### The places of a list that draws stop at -/

/-- The place of the element that is drawn. -/
def drawIndex (stop : ℤ → Bool) (weight : α → ℕ) : List α → ℤ → Option ℕ
  | [], _     => none
  | a :: l, r =>
    if stop (r - weight a) then some 0 else (drawIndex stop weight l (r - weight a)).map (· + 1)

lemma drawUntil_eq_bind (stop : ℤ → Bool) (l : List α) (r : ℤ) :
    drawUntil stop w l r = (drawIndex stop w l r).bind (l[·]?) := by
  induction l generalizing r with
  | nil => rfl
  | cons a l ih =>
    simp only [drawUntil, drawIndex]
    split_ifs with hstop
    · rfl
    · rw [ih]
      cases drawIndex stop w l (r - w a) <;> rfl

/-- An element is drawn by the numbers from the weight before it to the weight up to it, with `k` to
spare; the first one is also drawn by all smaller ones. -/
lemma drawIndex_eq_some_iff {k : ℕ} :
    drawIndex (· < (k : ℤ)) w l r = some i ↔ i < l.length ∧
      (i = 0 ∨ (((l.take i).map w).sum + k : ℤ) ≤ r) ∧ r < ((l.take (i + 1)).map w).sum + k := by
  induction l generalizing r i with
  | nil => simp [drawIndex]
  | cons a l ih =>
    simp only [drawIndex, decide_eq_true_eq]
    cases i with
    | zero =>
      split_ifs with hstop
      · simpa using by omega
      · simpa using by omega
    | succ i =>
      split_ifs with hstop
      · simp only [Option.some.injEq, take_succ_cons, map_cons, sum_cons, false_or]
        omega
      · simp only [Option.map_eq_some_iff, Nat.add_right_cancel_iff, exists_eq_right, ih,
          take_succ_cons, map_cons, sum_cons, length_cons, false_or]
        have hfirst : i = 0 → ((l.take i).map w).sum = 0 := by
          rintro rfl
          rfl
        omega

/-- The weight of a list, before a place, at it and after it. -/
lemma sum_take_add_drop (hi : l[i]? = some a) :
    ((l.take i).map w).sum + w a + ((l.drop (i + 1)).map w).sum = (l.map w).sum := by
  obtain ⟨hlt, rfl⟩ := List.getElem?_eq_some_iff.mp hi
  have hsum := sum_take_add_sum_drop (l.map w) i
  rw [drop_eq_getElem_cons (by simpa using hlt)] at hsum
  simpa [add_assoc] using hsum

/-- The numbers below `n` that draw the element at a place. -/
lemma card_drawIndex {k : ℕ} (hi : l[i]? = some a) (n : ℕ) :
    ((Finset.range n).filter fun r : ℕ => drawIndex (· < (k : ℤ)) w l r = some i).card =
      min n (((l.take i).map w).sum + w a + k) -
        if i = 0 then 0 else ((l.take i).map w).sum + k := by
  obtain ⟨hlt, rfl⟩ := List.getElem?_eq_some_iff.mp hi
  have hnext : ((l.take (i + 1)).map w).sum = ((l.take i).map w).sum + w l[i] := by
    rw [map_take, map_take, sum_take_succ _ _ (by simpa using hlt), getElem_map]
  rw [← Nat.card_Ico]
  congr 1
  ext r
  simp only [Finset.mem_filter, Finset.mem_range, Finset.mem_Ico, drawIndex_eq_some_iff, hlt,
    true_and]
  split_ifs <;> omega

/-- A draw in machine integers. -/
def drawWord (stop : ℤ → Bool) (weight : α → ℕ) : List α → ℤ → Option α
  | [], _     => none
  | a :: l, r =>
    let r := Word.wrap64 (r - weight a)
    if stop r then some a else drawWord stop weight l r

/-- Where the weight of the list fits into a word, nothing wraps. -/
lemma drawWord_eq (stop : ℤ → Bool) (hlow : -2 ^ 63 ≤ r - (l.map w).sum) (hhigh : r < 2 ^ 63) :
    drawWord stop w l r = drawUntil stop w l r := by
  induction l generalizing r with
  | nil => rfl
  | cons a l ih =>
    simp only [map_cons, sum_cons, Nat.cast_add] at hlow
    have hfits : Word.wrap64 (r - w a) = r - w a := Word.wrap64_eq (by omega) (by omega)
    simp only [drawWord, drawUntil, hfits, ih (r := r - w a) (by omega) (by omega)]

end

end Selection
