import XinghaiApi.Lib.Text

/-!
# Records of comma separated values

A record is read field by field: white space in front of a field is skipped, a field that begins
with a quote goes on to the closing one, any other field goes on to the comma or the end of the
line. Fields without separators, quotes and leading white space are read back as they were joined.
-/

namespace Csv

open Text List

/-- Where the reader is: before a field, in a field, in a quoted field, behind a quote in it. -/
inductive Mode
  | start
  | plain
  | quoted
  | closed

def bareQuote : String := "bare \" in non-quoted-field"

def strayQuote : String := "extraneous or missing \" in quoted-field"

/-- The fields of the record, the first of which begins with `acc`. -/
def readFields : Mode → List Char → List Char → Except String (List (List Char))
  | .quoted, _,   []     => .error strayQuote
  | _,       acc, []     => .ok [acc]
  | .start,  acc, c :: s =>
    if c = '\n' then .ok [acc]
    else if isSpace c then readFields .start acc s
    else if c = '"' then readFields .quoted acc s
    else if c = ',' then (readFields .start [] s).map (acc :: ·)
    else readFields .plain (acc ++ [c]) s
  | .plain,  acc, c :: s =>
    if c = '\n' then .ok [acc]
    else if c = '"' then .error bareQuote
    else if c = ',' then (readFields .start [] s).map (acc :: ·)
    else readFields .plain (acc ++ [c]) s
  | .quoted, acc, c :: s =>
    if c = '"' then readFields .closed acc s else readFields .quoted (acc ++ [c]) s
  | .closed, acc, c :: s =>
    if c = '"' then readFields .quoted (acc ++ [c]) s
    else if c = ',' then (readFields .start [] s).map (acc :: ·)
    else if c = '\n' then .ok [acc]
    else .error strayQuote

/-- Lines end with a line feed. -/
def normalizeNewlines : List Char → List Char
  | '\r' :: '\n' :: s => '\n' :: normalizeNewlines s
  | c :: s            => c :: normalizeNewlines s
  | []                => []

/-- The first record of a text that begins with neither an empty line nor a comment. -/
def readRecord (s : String) : Except String (List String) :=
  (readFields .start [] (normalizeNewlines s.toList)).map (·.map String.ofList)

/-! ### Plain fields -/

variable {fields : List String}

/-- A field that needs no quotes. -/
def isPlain (s : String) : Bool :=
  s ≠ "" && s.toList.all (fun c => c ≠ ',' && c ≠ '"' && c ≠ '\n') &&
    s.toList.head?.all fun c => !isSpace c

lemma isPlain_iff {s : String} : isPlain s = true ↔
    s ≠ "" ∧ (∀ c ∈ s.toList, c ≠ ',' ∧ c ≠ '"' ∧ c ≠ '\n') ∧
      ∀ c, s.toList.head? = some c → isSpace c = false := by
  simp [isPlain, Option.all_eq_true, and_assoc]

lemma normalizeNewlines_eq_self {s : List Char} (h : '\n' ∉ s) : normalizeNewlines s = s := by
  induction s with
  | nil => rfl
  | cons c s ih =>
    rw [mem_cons, not_or] at h
    rw [normalizeNewlines, ih h.2]
    intro s' _ hs
    simp [hs] at h

lemma readFields_plain {t : List Char} (h : ∀ c ∈ t, c ≠ ',' ∧ c ≠ '"' ∧ c ≠ '\n')
    (acc rest : List Char) :
    readFields .plain acc (t ++ rest) = readFields .plain (acc ++ t) rest := by
  induction t generalizing acc with
  | nil => simp
  | cons c t ih =>
    obtain ⟨hcomma, hquote, hline⟩ := h c mem_cons_self
    rw [cons_append, readFields, if_neg hline, if_neg hquote, if_neg hcomma,
      ih fun d hd => h d (mem_cons_of_mem _ hd)]
    simp

lemma readFields_start {s : String} (h : isPlain s = true) (rest : List Char) :
    readFields .start [] (s.toList ++ rest) = readFields .plain s.toList rest := by
  obtain ⟨hne, hchars, hspace⟩ := isPlain_iff.mp h
  cases hs : s.toList with
  | nil => exact absurd (by simpa using hs) hne
  | cons c t =>
    rw [hs] at hchars hspace
    obtain ⟨hcomma, hquote, hline⟩ := hchars c mem_cons_self
    rw [cons_append, readFields, if_neg hline, if_neg (by simp [hspace c rfl]), if_neg hquote,
      if_neg hcomma, readFields_plain fun d hd => hchars d (mem_cons_of_mem _ hd)]
    simp

lemma readFields_join (hne : fields ≠ []) (h : ∀ s ∈ fields, isPlain s = true) :
    readFields .start [] (join ", " fields).toList = .ok (fields.map String.toList) := by
  induction fields with
  | nil => exact absurd rfl hne
  | cons s fields ih =>
    have hs := readFields_start (h s mem_cons_self)
    cases fields with
    | nil => simpa [join, readFields] using hs []
    | cons t fields =>
      have hrest := ih (by simp) fun f hf => h f (mem_cons_of_mem _ hf)
      have htext : (join ", " (s :: t :: fields)).toList =
          s.toList ++ ',' :: ' ' :: (join ", " (t :: fields)).toList := by
        simp [join]
      have hskip : readFields .start [] (' ' :: (join ", " (t :: fields)).toList) =
          readFields .start [] (join ", " (t :: fields)).toList := by
        rw [readFields, if_neg (by decide), if_pos (by decide)]
      rw [htext, hs, readFields, hskip, hrest]
      rfl

/-- Plain fields are read back from the record that joins them. -/
theorem readRecord_join (hne : fields ≠ []) (h : ∀ s ∈ fields, isPlain s = true) :
    readRecord (join ", " fields) = .ok fields := by
  have hline : '\n' ∉ (join ", " fields).toList := by
    clear hne
    induction fields with
    | nil => simp [join]
    | cons s fields ih =>
      have hs : '\n' ∉ s.toList := fun hmem =>
        ((isPlain_iff.mp (h s mem_cons_self)).2.1 _ hmem).2.2 rfl
      have hrest := ih fun f hf => h f (mem_cons_of_mem _ hf)
      cases fields with
      | nil => simpa [join] using hs
      | cons t fields => simp [join, hs, hrest]
  rw [readRecord, normalizeNewlines_eq_self hline, readFields_join hne h]
  simp [Except.map]

end Csv
