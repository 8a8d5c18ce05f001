import Mathlib.Algebra.BigOperators.Group.Finset.Basic
import Mathlib.Algebra.BigOperators.Group.List.Basic
import Mathlib.Algebra.Order.Field.Rat
import Mathlib.Data.List.AList
import Mathlib.Tactic.Common
import Mathlib.Tactic.FieldSimp

/-!
# Extra ratios of a price

Duration, resolution and the like multiply the price of a call. They are kept by name in a map, and
only positive ratios are. Ratios are exact, so the product does not depend on the order in which the
map is walked.
-/

namespace XinghaiApi

open List

/-- The map of extra ratios, by name. -/
abbrev OtherRatios := AList fun _ : String => ℚ

def isValidOtherRatio (ratio : ℚ) : Bool := decide (0 < ratio)

namespace OtherRatios

variable (ratios : OtherRatios)

def addOtherRatio (ratios : OtherRatios) (key : String) (ratio : ℚ) : OtherRatios :=
  if isValidOtherRatio ratio then ratios.insert key ratio else ratios

/-- Add all ratios of a map, each under its name. -/
def addAll (ratios added : OtherRatios) : OtherRatios :=
  added.entries.foldl (fun m e => addOtherRatio m e.1 e.2) ratios

/-- `ReplaceOtherRatios`: the valid ones among the new ratios, and whether there are any. -/
def replaceOtherRatios (ratios : OtherRatios) : OtherRatios × Bool :=
  let replaced := addAll ∅ ratios
  (replaced, !replaced.entries.isEmpty)

/-- What one entry multiplies a price by. -/
def factor (ratio : ℚ) : ℚ := if isValidOtherRatio ratio ∧ ratio ≠ 1 then ratio else 1

def otherRatioMultiplier (ratios : OtherRatios) : ℚ :=
  (ratios.entries.map fun e => factor e.2).prod

def applyOtherRatios (ratios : OtherRatios) (value : ℚ) : ℚ :=
  value * otherRatioMultiplier ratios

/-- Divide by the ratios, one after the other. -/
def removeOtherRatios (ratios : OtherRatios) (value : ℚ) : ℚ :=
  ratios.entries.foldl (fun v e => v / factor e.2) value

lemma factor_pos (ratio : ℚ) : 0 < factor ratio := by
  unfold factor isValidOtherRatio
  split_ifs with h
  · simpa using h.1
  · exact one_pos

lemma otherRatioMultiplier_pos : 0 < otherRatioMultiplier ratios := by
  unfold otherRatioMultiplier
  induction ratios.entries with
  | nil => simp
  | cons e es ih =>
    exact mul_pos (factor_pos e.2) ih

/-! ### Adding one map to another -/

variable (ratios added : OtherRatios)

/-- The ratio a map has under a name, where it is valid. -/
def validRatio (ratios : OtherRatios) (key : String) : Option ℚ :=
  (ratios.lookup key).filter isValidOtherRatio

lemma lookup_addOtherRatio (key : String) (ratio : ℚ) (k : String) :
    (addOtherRatio ratios key ratio).lookup k =
      if k = key ∧ isValidOtherRatio ratio then some ratio else ratios.lookup k := by
  unfold addOtherRatio
  by_cases hvalid : isValidOtherRatio ratio = true
  · by_cases hk : k = key
    · subst hk
      simp [hvalid]
    · simp [hvalid, hk]
  · simp [hvalid]

/-- The valid ratios that are added win. -/
lemma lookup_addAll (k : String) :
    (addAll ratios added).lookup k = (validRatio added k).or (ratios.lookup k) := by
  unfold addAll validRatio AList.lookup
  have hnodup := added.nodupKeys
  generalize added.entries = l at hnodup
  induction l generalizing ratios with
  | nil => simp
  | cons e l ih =>
    obtain ⟨key, ratio⟩ := e
    rw [nodupKeys_cons] at hnodup
    rw [foldl_cons, ih _ hnodup.2]
    have hhead := lookup_addOtherRatio ratios key ratio k
    unfold AList.lookup at hhead
    rw [hhead]
    by_cases hk : k = key
    · -- no later entry has the name
      subst hk
      have hnone : l.dlookup k = none := dlookup_eq_none.mpr hnodup.1
      rw [hnone]
      by_cases hvalid : isValidOtherRatio ratio = true <;> simp [hvalid, Option.filter]
    · simp [hk]

/-- A product over the entries, as one over any names that cover them. -/
lemma prod_entries_eq_prod (g : String → ℚ → ℚ) (hg : ∀ k, g k 1 = 1) {names : Finset String}
    (h : ratios.keys.toFinset ⊆ names) :
    (ratios.entries.map fun e => g e.1 e.2).prod = ∏ k ∈ names, g k ((ratios.lookup k).getD 1) := by
  have hkeys : (ratios.entries.map fun e => g e.1 e.2).prod =
      (ratios.keys.map fun k => g k ((ratios.lookup k).getD 1)).prod := by
    unfold AList.keys List.keys
    rw [map_map]
    congr 1
    apply map_congr_left
    intro e he
    have hfind : ratios.lookup e.1 = some e.2 := AList.mem_lookup_iff.mpr he
    simp [hfind]
  rw [hkeys, ← prod_toFinset _ ratios.keys_nodup]
  apply Finset.prod_subset h
  intro k _ hk
  have hnone : ratios.lookup k = none := by
    rw [AList.lookup_eq_none, AList.mem_keys]
    simpa using hk
  simp [hnone, hg]

@[simp] lemma factor_one : factor 1 = 1 := by simp [factor]

/-- What is left of a map, as a factor, when another one is added to it. -/
def leftover (ratios added : OtherRatios) : ℚ :=
  (ratios.entries.map fun e => if (validRatio added e.1).isNone then factor e.2 else 1).prod

/-- The names of a sum of maps are names of one of them. -/
lemma keys_addAll_subset :
    (addAll ratios added).keys.toFinset ⊆ ratios.keys.toFinset ∪ added.keys.toFinset := by
  intro k hk
  simp only [mem_toFinset, ← AList.mem_keys, ← AList.lookup_isSome, Finset.mem_union] at hk ⊢
  rw [lookup_addAll] at hk
  cases hadded : added.lookup k with
  | none => simpa [validRatio, hadded] using hk
  | some v => exact Or.inr rfl

/-- The multiplier after a map was added: what is left of the old ratios, times the new ones. -/
theorem otherRatioMultiplier_addAll :
    otherRatioMultiplier (addAll ratios added) =
      leftover ratios added * otherRatioMultiplier (addAll ∅ added) := by
  let names := ratios.keys.toFinset ∪ added.keys.toFinset
  have hnew : (addAll ∅ added).keys.toFinset ⊆ names :=
    (keys_addAll_subset ∅ added).trans (Finset.union_subset_union_left (by simp))
  unfold otherRatioMultiplier leftover
  rw [prod_entries_eq_prod (addAll ratios added) (fun _ => factor) (fun _ => factor_one)
      (keys_addAll_subset ratios added),
    prod_entries_eq_prod (addAll ∅ added) (fun _ => factor) (fun _ => factor_one) hnew,
    prod_entries_eq_prod ratios
      (fun k v => if (validRatio added k).isNone then factor v else 1) (by simp)
      Finset.subset_union_left,
    ← Finset.prod_mul_distrib]
  apply Finset.prod_congr rfl
  intro k _
  simp only [lookup_addAll]
  cases validRatio added k <;> simp

/-! ### Maps of positive ratios -/

variable {ratios}

/-- A map of positive ratios, as it is once it was added to none. -/
lemma addAll_empty_of_pos (h : ∀ e ∈ ratios.entries, 0 < e.2) (k : String) :
    (addAll ∅ ratios).lookup k = ratios.lookup k := by
  rw [lookup_addAll, AList.lookup_empty, validRatio]
  cases hk : ratios.lookup k with
  | none => rfl
  | some ratio => simp [isValidOtherRatio, h _ (AList.mem_lookup_iff.mp hk)]

def product (ratios : OtherRatios) : ℚ := (ratios.entries.map fun e => e.2).prod

lemma otherRatioMultiplier_addAll_empty (h : ∀ e ∈ ratios.entries, 0 < e.2) :
    otherRatioMultiplier (addAll ∅ ratios) = ratios.product := by
  have hkeys : (addAll ∅ ratios).keys.toFinset ⊆ ratios.keys.toFinset := by
    simpa using keys_addAll_subset ∅ ratios
  have hfactor : ratios.product = otherRatioMultiplier ratios := by
    refine congrArg List.prod (map_congr_left fun e he => ?_)
    by_cases hone : e.2 = 1 <;> simp [factor, isValidOtherRatio, h e he]
  rw [hfactor]
  unfold otherRatioMultiplier
  rw [prod_entries_eq_prod (addAll ∅ ratios) (fun _ => factor) (fun _ => factor_one) hkeys,
    prod_entries_eq_prod ratios (fun _ => factor) (fun _ => factor_one) subset_rfl]
  simp only [addAll_empty_of_pos h]

lemma removeOtherRatios_eq (value : ℚ) :
    ratios.removeOtherRatios value = value / ratios.otherRatioMultiplier := by
  unfold removeOtherRatios otherRatioMultiplier
  induction ratios.entries generalizing value with
  | nil => simp
  | cons e es ih => rw [foldl_cons, ih, map_cons, prod_cons, div_div]

end OtherRatios

end XinghaiApi
