import Mathlib.Data.List.Infix
import Mathlib.Data.List.TakeDrop

/-!
# Search in strings

`SundaySearch` aligns the pattern with the text and, where it does not match, shifts it so far that
the last occurrence in it of the byte behind the alignment comes under that byte.
-/

namespace XinghaiApi

/-- The bytes of ASCII strings are their runes. -/
abbrev Ascii := { b : UInt8 // b < 128 }

section

variable (text pattern : List UInt8)

/-- The offset table: a later occurrence of a byte overwrites an earlier one. -/
def sundayOffsets (offset : UInt8 → Option ℕ) : List UInt8 → UInt8 → Option ℕ
  | []           => offset
  | c :: pattern => sundayOffsets (Function.update offset c (some (pattern.length + 1))) pattern

/-- How far the pattern is shifted when `next` is the byte behind it. -/
def sundayShift (next : UInt8) : ℕ :=
  match sundayOffsets (fun _ => none) pattern next with
  | some val => val
  | none     => pattern.length + 1

/-- The number of bytes at which the pattern agrees with the text before they differ. -/
def matchedBytes : List UInt8 → List UInt8 → ℕ
  | t :: text, p :: pattern => if t = p then matchedBytes text pattern + 1 else 0
  | _, _                    => 0

lemma sundayOffsets_eq (offset : UInt8 → Option ℕ) (c : UInt8) :
    sundayOffsets offset pattern c =
      if c ∈ pattern then some (pattern.reverse.idxOf c + 1) else offset c := by
  induction pattern generalizing offset with
  | nil => rfl
  | cons d pattern ih =>
    rw [sundayOffsets, ih, List.reverse_cons]
    by_cases hmem : c ∈ pattern
    · rw [List.idxOf_append_of_mem (List.mem_reverse.mpr hmem)]
      simp [hmem]
    · rw [List.idxOf_append_of_notMem (mt List.mem_reverse.mp hmem)]
      by_cases hc : c = d
      · subst hc
        simp [hmem]
      · simp [hc, hmem]

lemma sundayShift_eq (c : UInt8) : sundayShift pattern c = pattern.reverse.idxOf c + 1 := by
  rw [sundayShift, sundayOffsets_eq]
  by_cases hmem : c ∈ pattern
  · simp [hmem]
  · simp [hmem]

/-- The main loop, from the alignment at `i` on. -/
def sundayLoop (i : ℕ) : Bool :=
  if i + pattern.length ≤ text.length then
    if matchedBytes (text.drop i) pattern = pattern.length then true
    else
      match text[i + pattern.length]? with
      | some next => sundayLoop (i + sundayShift pattern next)
      | none      => false
  else false
termination_by text.length + 1 - i
decreasing_by
  rw [sundayShift_eq]
  omega

end

def sundaySearch (text : List UInt8) (pattern : List Ascii) : Bool :=
  sundayLoop text (pattern.map Subtype.val) 0

/-! ### No occurrence is skipped -/

section

variable {text pattern : List UInt8}

lemma matchedBytes_eq_length_iff :
    matchedBytes text pattern = pattern.length ↔ pattern <+: text := by
  induction pattern generalizing text with
  | nil => cases text <;> simp [matchedBytes]
  | cons p pattern ih =>
    cases text with
    | nil => simp [matchedBytes]
    | cons t text =>
      rw [matchedBytes, List.cons_prefix_cons, ← ih]
      by_cases h : t = p
      · simp [h]
      · simp [h, Ne.symm h]

/-- An alignment between one and the next would put another byte of the pattern under `next`. -/
lemma not_prefix_drop_of_lt_shift {i d : ℕ} {next : UInt8}
    (hnext : text[i + pattern.length]? = some next) (hpos : 0 < d)
    (hlt : d < sundayShift pattern next) : ¬ pattern <+: text.drop (i + d) := by
  rintro ⟨rest, hrest⟩
  have hle : pattern.reverse.idxOf next ≤ pattern.length := by
    simpa using List.idxOf_le_length (a := next) (l := pattern.reverse)
  rw [sundayShift_eq] at hlt
  -- the byte behind the first alignment is the one at `m - d` of the pattern
  have hbyte : pattern[pattern.length - d]? = some next := by
    have hget := congrArg (·[pattern.length - d]?) hrest
    simp only [List.getElem?_drop] at hget
    rw [List.getElem?_append_left (by omega)] at hget
    rw [hget, ← hnext]
    congr 1
    omega
  have hreverse : pattern.reverse[d - 1]? = some next := by
    rw [List.getElem?_reverse (by omega), ← hbyte]
    congr 1
    omega
  obtain ⟨hd, hget⟩ := List.getElem?_eq_some_iff.mp hreverse
  have hearlier : d - 1 < pattern.reverse.idxOf next := by omega
  simpa [hget] using List.not_of_lt_findIdx hearlier

lemma sundayLoop_iff (i : ℕ) :
    sundayLoop text pattern i = true ↔
      ∃ k, i ≤ k ∧ k + pattern.length ≤ text.length ∧ pattern <+: text.drop k := by
  fun_induction sundayLoop text pattern i with
  | case1 i hle hmatched =>
    exact iff_of_true rfl ⟨i, le_rfl, hle, matchedBytes_eq_length_iff.mp hmatched⟩
  | case2 i hle hmatched next hnext ih =>
    rw [ih]
    constructor
    · rintro ⟨k, hk, hfits, hprefix⟩
      exact ⟨k, by omega, hfits, hprefix⟩
    · rintro ⟨k, hk, hfits, hprefix⟩
      refine ⟨k, ?_, hfits, hprefix⟩
      by_contra hskipped
      obtain ⟨d, rfl⟩ := Nat.exists_eq_add_of_le hk
      obtain rfl | hpos := Nat.eq_zero_or_pos d
      · exact hmatched (matchedBytes_eq_length_iff.mpr hprefix)
      · exact not_prefix_drop_of_lt_shift hnext hpos (by omega) hprefix
  | case3 i hle hmatched hnext =>
    refine iff_of_false Bool.false_ne_true ?_
    rintro ⟨k, hk, hfits, hprefix⟩
    have hend := List.getElem?_eq_none_iff.mp hnext
    obtain rfl : k = i := by omega
    exact hmatched (matchedBytes_eq_length_iff.mpr hprefix)
  | case4 i hle =>
    refine iff_of_false Bool.false_ne_true ?_
    rintro ⟨k, hk, hfits, -⟩
    omega

end

/-- The search finds the pattern just in case it occurs in the text. -/
theorem sundaySearch_iff (text : List UInt8) (pattern : List Ascii) :
    sundaySearch text pattern = true ↔ pattern.map Subtype.val <:+: text := by
  rw [sundaySearch, sundayLoop_iff]
  constructor
  · rintro ⟨k, -, -, hprefix⟩
    exact hprefix.isInfix.trans (List.drop_suffix k text).isInfix
  · rintro ⟨before, after, rfl⟩
    exact ⟨before.length, by simp⟩

end XinghaiApi
