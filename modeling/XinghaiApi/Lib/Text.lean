import Mathlib.Data.List.DropRight
import Mathlib.Data.List.Infix
import Mathlib.Tactic.Common

/-!
# Fields of a text

Trimming, splitting at separator characters and joining, with the laws that relate them: the
fields of two texts joined by a separator are the fields of both, and a text without separators
is its own only field.
-/

namespace Text

open List

-- Found before the instances that run through all characters there are.
instance (priority := 2000) decidableForallMemList (l : List Char) (p : Char → Prop)
    [DecidablePred p] : Decidable (∀ c ∈ l, p c) := l.decidableBAll p

instance (priority := 2000) decidableForallMemOption (o : Option Char) (p : Char → Prop)
    [DecidablePred p] : Decidable (∀ c ∈ o, p c) := o.decidableForallMem

/-- Unicode white space. -/
def isSpace (c : Char) : Bool :=
  c.val ∈ ([0x09, 0x0A, 0x0B, 0x0C, 0x0D, 0x20, 0x85, 0xA0, 0x1680, 0x2000, 0x2001, 0x2002,
    0x2003, 0x2004, 0x2005, 0x2006, 0x2007, 0x2008, 0x2009, 0x200A, 0x2028, 0x2029, 0x202F,
    0x205F, 0x3000] : List UInt32)

/-- The text without the white space at its two ends. -/
def trimSpace (s : String) : String :=
  String.ofList ((s.toList.dropWhile isSpace).rdropWhile isSpace)

/-- The text without the separators at its two ends. -/
def trimSep (sep : Char) (s : String) : String :=
  String.ofList ((s.toList.dropWhile (· = sep)).rdropWhile (· = sep))

/-- The stretches between the separators, the empty ones included. -/
def split (sep : Char) (s : String) : List String :=
  (s.toList.splitOn sep).map String.ofList

def hasPrefix (s start : String) : Bool := start.toList.isPrefixOf s.toList

def hasSuffix (s tail : String) : Bool := tail.toList.isSuffixOf s.toList

/-- Lower case, of ASCII letters only; other characters stay, as they do in the folding below. -/
def toLower (s : String) : String := String.ofList (s.toList.map Char.toLower)

/-- Upper case, of ASCII letters only. -/
def toUpper (s : String) : String := String.ofList (s.toList.map Char.toUpper)

def equalFold (s t : String) : Bool := toLower s = toLower t

def contains (s part : String) : Bool := decide (part.toList <:+: s.toList)

/-- The maximal non-empty stretches of a text without separators. -/
def fieldsFunc (p : Char → Bool) (s : String) : List String :=
  ((s.toList.splitOnP p).filter (· ≠ [])).map String.ofList

/-- The texts in order, with `sep` between them. -/
def join (sep : String) : List String → String
  | []           => ""
  | [s]          => s
  | s :: t :: ts => s ++ sep ++ join sep (t :: ts)

/-! ### Trimming -/

variable {s : String} {p : Char → Bool} {sep c : Char}

lemma mem_of_mem_trimSpace (h : c ∈ (trimSpace s).toList) : c ∈ s.toList := by
  simp only [trimSpace, String.toList_ofList] at h
  exact (dropWhile_sublist _).mem ((List.rdropWhile_prefix _ _).mem h)

/-- The first character that `dropWhile` keeps is still kept after the right end is cut. -/
lemma dropWhile_rdropWhile {α : Type*} (p : α → Bool) (l : List α) :
    ((l.dropWhile p).rdropWhile p).dropWhile p = (l.dropWhile p).rdropWhile p := by
  cases hr : (l.dropWhile p).rdropWhile p with
  | nil => rfl
  | cons a as =>
    have hpre : (a :: as) <+: l.dropWhile p := hr ▸ rdropWhile_prefix _ _
    obtain ⟨t, ht⟩ := hpre
    have ha : p a = false := by
      have hne : l.dropWhile p ≠ [] := by rw [← ht]; simp
      have := head_dropWhile_not p hne
      simpa [← ht] using this
    rw [dropWhile_cons_of_neg (by simp [ha])]

@[simp] lemma trimSpace_trimSpace (s : String) : trimSpace (trimSpace s) = trimSpace s := by
  simp only [trimSpace, String.toList_ofList, dropWhile_rdropWhile, rdropWhile_idempotent]

lemma trimSpace_eq_self (h : ∀ c ∈ s.toList, isSpace c = false) : trimSpace s = s := by
  have hdrop : s.toList.dropWhile isSpace = s.toList := by
    cases hs : s.toList with
    | nil => rfl
    | cons c cs => rw [dropWhile_cons_of_neg (by simp [h c (hs ▸ mem_cons_self)])]
  have hrdrop : s.toList.rdropWhile isSpace = s.toList :=
    rdropWhile_eq_self_iff.mpr fun hne => by simp [h _ (getLast_mem hne)]
  rw [trimSpace, hdrop, hrdrop, String.ofList_toList]

/-- Nothing is left of white space only. -/
lemma trimSpace_eq_empty_iff : trimSpace s = "" ↔ ∀ c ∈ s.toList, isSpace c = true := by
  rw [trimSpace, String.ofList_eq_empty_iff, rdropWhile_eq_nil_iff]
  constructor
  · intro hall
    refine dropWhile_eq_nil_iff.mp ?_
    by_contra hne
    have hhead := head_dropWhile_not isSpace hne
    rw [hall _ (head_mem hne)] at hhead
    exact absurd hhead (by decide)
  · exact fun hall c hc => hall c ((dropWhile_sublist _).mem hc)

/-! ### Splitting -/

@[simp] lemma fieldsFunc_empty (p : Char → Bool) : fieldsFunc p "" = [] := by
  simp [fieldsFunc]

/-- A separator between two texts is a cut between their fields. -/
lemma fieldsFunc_append_sep (hc : p c = true) (s t : String) :
    fieldsFunc p (s ++ String.singleton c ++ t) = fieldsFunc p s ++ fieldsFunc p t := by
  have hlist : (s ++ String.singleton c ++ t).toList = s.toList ++ c :: t.toList := by
    simp
  simp only [fieldsFunc, hlist, splitOnP_append_cons _ _ hc, filter_append, map_append]

/-- Separators at the ends of a text are no part of its fields. -/
lemma fieldsFunc_trimSep (sep : Char) (s : String) :
    fieldsFunc (· = sep) (trimSep sep s) = fieldsFunc (· = sep) s := by
  have hdrop : ∀ l : List Char, ((l.dropWhile (· = sep)).splitOnP (· = sep)).filter (· ≠ []) =
      (l.splitOnP (· = sep)).filter (· ≠ []) := by
    intro l
    induction l with
    | nil => rfl
    | cons c l ih =>
      by_cases hc : c = sep
      · rw [dropWhile_cons_of_pos (by simp [hc]), ih, splitOnP_cons_eq_if_modifyHead,
          if_pos (by simp [hc])]
        simp
      · simp [hc]
  have hrdrop : ∀ l : List Char, ((l.rdropWhile (· = sep)).splitOnP (· = sep)).filter (· ≠ []) =
      (l.splitOnP (· = sep)).filter (· ≠ []) := by
    intro l
    induction l using List.reverseRecOn with
    | nil => rfl
    | append_singleton l c ih =>
      by_cases hc : c = sep
      · rw [rdropWhile_concat_pos _ _ _ (by simp [hc]), ih,
          splitOnP_append_cons l [] (by simp [hc])]
        simp
      · rw [rdropWhile_concat_neg _ _ _ (by simp [hc])]
  simp only [fieldsFunc, trimSep, String.toList_ofList, hrdrop, hdrop]

lemma split_ne_nil (sep : Char) (s : String) : split sep s ≠ [] := by
  simp [split, List.splitOn, splitOnP_ne_nil]

/-- The stretches that are not empty are the fields. -/
lemma filter_split (sep : Char) (s : String) :
    (split sep s).filter (· ≠ "") = fieldsFunc (· = sep) s := by
  rw [split, filter_map]
  congr 2
  funext l
  simp

lemma not_sep_of_mem_splitOnP {α : Type*} {p : α → Bool} {xs l : List α}
    (hl : l ∈ xs.splitOnP p) : ∀ c ∈ l, p c = false := by
  induction xs generalizing l with
  | nil =>
    intro c hc
    simp_all
  | cons x xs ih =>
    rw [splitOnP_cons_eq_if_modifyHead] at hl
    split_ifs at hl with hx
    · rcases mem_cons.mp hl with rfl | hl
      · simp
      · exact ih hl
    · cases hs : xs.splitOnP p with
      | nil => exact absurd hs (splitOnP_ne_nil p xs)
      | cons y ys =>
        rw [hs] at hl
        rcases mem_cons.mp hl with rfl | hl
        · intro c hc
          rcases mem_cons.mp hc with rfl | hc
          · simpa using hx
          · exact ih (hs ▸ mem_cons_self) c hc
        · exact ih (hs ▸ mem_cons_of_mem _ hl)

lemma not_sep_of_mem_split {f : String} (hf : f ∈ split sep s) : ∀ c ∈ f.toList, c ≠ sep := by
  obtain ⟨l, hl, rfl⟩ := mem_map.mp hf
  intro c hc
  rw [String.toList_ofList] at hc
  simpa using not_sep_of_mem_splitOnP hl c hc

/-- A text without separators is its own only stretch. -/
lemma split_eq_singleton (h : sep ∉ s.toList) : split sep s = [s] := by
  have hsplit : s.toList.splitOn sep = [s.toList] := by
    refine splitOnP_eq_singleton fun c hc => ?_
    simp only [beq_eq_false_iff_ne]
    rintro rfl
    exact h hc
  simp [split, hsplit]

lemma not_sep_of_mem_fieldsFunc {f : String} (hf : f ∈ fieldsFunc p s) :
    ∀ c ∈ f.toList, p c = false := by
  obtain ⟨l, hl, rfl⟩ := mem_map.mp hf
  intro c hc
  rw [String.toList_ofList] at hc
  exact not_sep_of_mem_splitOnP (mem_of_mem_filter hl) c hc

/-- A non-empty text without separators is its own only field. -/
lemma fieldsFunc_eq_singleton (hne : s ≠ "") (h : ∀ c ∈ s.toList, p c = false) :
    fieldsFunc p s = [s] := by
  have hsplit : s.toList.splitOnP p = [s.toList] :=
    splitOnP_eq_singleton h
  have hlist : s.toList ≠ [] := by simpa using hne
  simp [fieldsFunc, hsplit, hlist]

lemma fieldsFunc_join (hc : p c = true) {l : List String} (hne : ∀ s ∈ l, s ≠ "")
    (h : ∀ s ∈ l, ∀ d ∈ s.toList, p d = false) :
    fieldsFunc p (join (String.singleton c) l) = l := by
  induction l with
  | nil => exact fieldsFunc_empty p
  | cons s l ih =>
    have hs := fieldsFunc_eq_singleton (hne s mem_cons_self) (h s mem_cons_self)
    cases l with
    | nil => exact hs
    | cons t ts =>
      have htail := ih (fun x hx => hne x (mem_cons_of_mem _ hx))
        (fun x hx => h x (mem_cons_of_mem _ hx))
      rw [join, fieldsFunc_append_sep hc, hs, htail]
      rfl

/-! ### Joining -/

lemma toList_join (sep : Char) (l : List String) :
    (join (String.singleton sep) l).toList = [sep].intercalate (l.map String.toList) := by
  induction l with
  | nil => rfl
  | cons s l ih =>
    cases l with
    | nil => simp [join]
    | cons t l => simp [join, ih]

/-- The joined texts are the first one and each further one behind a separator. -/
lemma toList_join_cons (sep : Char) (s : String) (l : List String) :
    (join (String.singleton sep) (s :: l)).toList =
      s.toList ++ l.flatMap fun t => sep :: t.toList := by
  induction l generalizing s with
  | nil => simp [join]
  | cons t l ih => simp [join, ih]

lemma join_split (sep : Char) (s : String) : join (String.singleton sep) (split sep s) = s := by
  have hmap : (s.toList.splitOn sep).map (String.toList ∘ String.ofList) = s.toList.splitOn sep :=
    map_id'' (fun l => String.toList_ofList) _
  refine String.toList_inj.mp ?_
  rw [toList_join, split, map_map, hmap, intercalate_splitOn]

lemma split_join {l : List String} (hne : l ≠ []) (h : ∀ s ∈ l, sep ∉ s.toList) :
    split sep (join (String.singleton sep) l) = l := by
  rw [split, toList_join, splitOn_intercalate sep (by simpa using h) (by simpa using hne), map_map]
  exact map_id'' (fun s => String.ofList_toList) l

end Text
