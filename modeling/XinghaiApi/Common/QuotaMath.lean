import Mathlib.Data.Rat.Floor
import Mathlib.Tactic.Common
import Mathlib.Tactic.Linarith

/-!
# Conversions to quota units

Every billing path turns a computed amount into an integer through these conversions. Quota columns
are 32-bit integers, so an amount out of that range is clamped and the clamp is reported. Amounts
are exact rationals here, so the case of a value that is not a number does not arise.
-/

namespace XinghaiApi

def maxQuota : Int := 2 ^ 31 - 1

def minQuota : Int := -2 ^ 31

inductive QuotaClampKind where
  | overflow
  | underflow
deriving DecidableEq

/-- One saturation: which conversion met it, and what it did. -/
structure QuotaClamp where
  op : String
  kind : QuotaClampKind
  original : ℚ
  clamped : Int
deriving DecidableEq

def QuotaClampKind.text : QuotaClampKind → String
  | .overflow  => "overflow"
  | .underflow => "underflow"

/-- The text of a clamp as an error; the original value is written as a fraction. -/
def QuotaClamp.error (c : QuotaClamp) : String :=
  s!"quota conversion ({c.op}) {c.kind.text}: original={c.original}, clamped={c.clamped}"

/-- Truncation towards zero. -/
def truncate (x : ℚ) : Int :=
  if 0 ≤ x then ⌊x⌋ else -⌊-x⌋

/-- Rounding to the nearest integer, halves away from zero. -/
def roundHalfAway (x : ℚ) : Int :=
  if 0 ≤ x then ⌊x + 1 / 2⌋ else -⌊-x + 1 / 2⌋

def saturateQuota (value : ℚ) (op : String) : Int × Option QuotaClamp :=
  if maxQuota ≤ value then (maxQuota, some ⟨op, .overflow, value, maxQuota⟩)
  else if value ≤ minQuota then (minQuota, some ⟨op, .underflow, value, minQuota⟩)
  else (truncate value, none)

def quotaFromDecimalChecked (d : ℚ) : Int × Option QuotaClamp :=
  saturateQuota (roundHalfAway d) "QuotaFromDecimal"

/-! ### Signs -/

variable {value : ℚ} (op : String)

lemma truncate_nonneg {x : ℚ} (h : 0 ≤ x) : 0 ≤ truncate x := by
  rw [truncate, if_pos h]
  exact Int.floor_nonneg.mpr h

lemma roundHalfAway_nonneg {x : ℚ} (h : 0 ≤ x) : 0 ≤ roundHalfAway x := by
  rw [roundHalfAway, if_pos h]
  exact Int.floor_nonneg.mpr (by linarith)

lemma saturateQuota_nonneg (h : 0 ≤ value) : 0 ≤ (saturateQuota value op).1 := by
  unfold saturateQuota
  split_ifs with hmax hmin
  · show 0 ≤ maxQuota
    decide
  · -- a value that is not negative is above the lower end of the range
    have : (minQuota : ℚ) < 0 := by norm_num [minQuota]
    exact absurd hmin (by linarith)
  · exact truncate_nonneg h

lemma saturateQuota_eq_floor (h : 0 ≤ value) (hmax : value < maxQuota) :
    (saturateQuota value op).1 = ⌊value⌋ := by
  have hmin : ¬ value ≤ minQuota := by
    have : (minQuota : ℚ) < 0 := by norm_num [minQuota]
    linarith
  rw [saturateQuota, if_neg (not_le.mpr hmax), if_neg hmin, truncate, if_pos h]

/-- Nothing is lost exactly if the value is an integer within the range. -/
lemma saturateQuota_eq_self_iff (h : 0 ≤ value) :
    ((saturateQuota value op).1 : ℚ) = value ↔ ∃ n ≤ maxQuota, value = n := by
  by_cases hmax : value < maxQuota
  · rw [saturateQuota_eq_floor op h hmax]
    refine ⟨fun heq => ⟨⌊value⌋, ?_, heq.symm⟩, ?_⟩
    · exact_mod_cast (heq ▸ hmax.le)
    · rintro ⟨n, -, rfl⟩
      rw [Int.floor_intCast]
  · rw [saturateQuota, if_pos (not_lt.mp hmax)]
    refine ⟨fun heq => ⟨maxQuota, le_rfl, heq.symm⟩, ?_⟩
    rintro ⟨n, hn, rfl⟩
    exact le_antisymm (not_lt.mp hmax) (by exact_mod_cast hn)

/-- Two values of which all multiples are converted to the same are the same. -/
lemma eq_of_saturateQuota_mul_eq {x y : ℚ} (hx : 0 ≤ x) (hy : 0 ≤ y)
    (h : ∀ a, 0 < a → (saturateQuota (x * a) op).1 = (saturateQuota (y * a) op).1) : x = y := by
  wlog hlt : x < y generalizing x y
  · rcases eq_or_lt_of_le (not_lt.mp hlt) with heq | hgt
    · exact heq.symm
    · exact (this hy hx (fun a ha => (h a ha).symm) hgt).symm
  -- one over the larger value turns it into a unit, and the other one into nothing
  have hypos : 0 < y := hx.trans_lt hlt
  have hxy : x * y⁻¹ < 1 := by rwa [← div_eq_mul_inv, div_lt_one hypos]
  have hnonneg : 0 ≤ x * y⁻¹ := mul_nonneg hx (inv_nonneg.mpr hy)
  have hmax : (1 : ℚ) < maxQuota := by norm_num [maxQuota]
  have hunit := h y⁻¹ (inv_pos.mpr hypos)
  rw [mul_inv_cancel₀ hypos.ne', saturateQuota_eq_floor op zero_le_one hmax,
    saturateQuota_eq_floor op hnonneg (hxy.trans hmax),
    Int.floor_eq_zero_iff.mpr ⟨hnonneg, hxy⟩] at hunit
  exact absurd hunit zero_ne_one

/-- What a charge is converted to: it is rounded, halves up, and stops at the end of the range. -/
lemma quotaFromDecimal_eq {d : ℚ} (h : 0 ≤ d) :
    (quotaFromDecimalChecked d).1 = min maxQuota ⌊d + 1 / 2⌋ := by
  have hround : roundHalfAway d = ⌊d + 1 / 2⌋ := by rw [roundHalfAway, if_pos h]
  have hnonneg : 0 ≤ ⌊d + 1 / 2⌋ := hround ▸ roundHalfAway_nonneg h
  have hmin : ¬ ((⌊d + 1 / 2⌋ : Int) : ℚ) ≤ minQuota := by
    rw [Int.cast_le, minQuota]
    omega
  rw [quotaFromDecimalChecked, hround, saturateQuota]
  by_cases hmax : maxQuota ≤ ⌊d + 1 / 2⌋
  · rw [if_pos (Int.cast_le.mpr hmax)]
    exact (min_eq_left hmax).symm
  · rw [if_neg (by rwa [Int.cast_le]), if_neg hmin, truncate, if_pos (Int.cast_nonneg hnonneg)]
    exact (min_eq_right (not_le.mp hmax).le).symm

/-- A charge below half a unit is dropped, and no other is. -/
lemma quotaFromDecimal_eq_zero_iff {d : ℚ} (h : 0 ≤ d) :
    (quotaFromDecimalChecked d).1 = 0 ↔ d < 1 / 2 := by
  rw [quotaFromDecimal_eq h]
  have hmax : 0 < maxQuota := by decide
  constructor
  · intro hzero
    have hfloor : ⌊d + 1 / 2⌋ < 1 := by omega
    have := Int.floor_lt.mp hfloor
    linarith
  · intro hlt
    have hfloor : ⌊d + 1 / 2⌋ = 0 := by
      rw [Int.floor_eq_zero_iff]
      constructor <;> linarith
    rw [hfloor]
    exact min_eq_right hmax.le

end XinghaiApi
