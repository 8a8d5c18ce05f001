import Mathlib.Data.List.Chain
import XinghaiApi.Lib.JsonPath
import XinghaiApi.Lib.Occurrence

/-!
# Paths of override operations

The operations on a body name its values by paths, which the JSON libraries read. An index below
zero counts from the end of an array; the libraries do not know it, so that it is replaced before
they see the path.

A path is searched for such indices as a text. The array of an index is looked for at what stands
in front of the first occurrence of the index in the path as it was given. This is right for the
only index of a path, if no segment in front of it has its text. The array of a second one is looked
for at a path with an index that was not replaced, or at the array of the first one if the indices
begin alike.
-/

namespace XinghaiApi

open Text Ip Occurrence Json
open List hiding replace

/-! ### The JSON libraries -/

/-- Characters that the libraries do not read as themselves. -/
def specialChars : List Char := ['.', '\\', '|', '#', '@', '*', '?', '"']

/-- Characters that the libraries do not read as themselves in front of a part. -/
def leadingChars : List Char := ['!', ':', '[', '\x7b']

/-- A part of a path that the libraries read as it is written. -/
structure PlainPart (part : String) : Prop where
  chars : ∀ c ∈ part.toList, c ∉ specialChars
  first : ∀ c ∈ part.toList.head?, c ∉ leadingChars
  not_blank : trimSpace part ≠ ""
  index_lt : ∀ n ∈ index? part, n < 2 ^ 63

instance (part : String) : Decidable (PlainPart part) :=
  decidable_of_iff
    ((∀ c ∈ part.toList, c ∉ specialChars) ∧ (∀ c ∈ part.toList.head?, c ∉ leadingChars) ∧
      trimSpace part ≠ "" ∧ ∀ n ∈ index? part, n < 2 ^ 63)
    ⟨fun ⟨chars, first, not_blank, index_lt⟩ => ⟨chars, first, not_blank, index_lt⟩,
      fun h => ⟨h.chars, h.first, h.not_blank, h.index_lt⟩⟩

lemma PlainPart.dot_notMem {part : String} (h : PlainPart part) : '.' ∉ part.toList := fun hdot =>
  h.chars '.' hdot (by decide)

/-- What the libraries do with a document at a path. It is known for paths of plain parts; to
delete, they read `-1` as the last element. -/
structure PathLib where
  get : Json → String → Option Json
  delete : Json → String → Except String Json
  get_join : ∀ (doc : Json) {parts : List String}, parts ≠ [] → (∀ part ∈ parts, PlainPart part) →
    get doc (join "." parts) = doc.lookup parts
  delete_join : ∀ (doc : Json) {parts : List String}, parts ≠ [] →
    (∀ part ∈ parts, PlainPart part ∧ part ≠ "-1") →
    delete doc (join "." parts) = .ok (doc.erase parts)

lemma split_dot {parts : List String} (hne : parts ≠ []) (h : ∀ part ∈ parts, PlainPart part) :
    split '.' (join "." parts) = parts :=
  split_join hne fun part hpart => (h part hpart).dot_notMem

def plainPaths : PathLib where
  get doc path := doc.lookup (split '.' path)
  delete doc path := .ok (doc.erase (split '.' path))
  get_join doc parts hne h := by rw [split_dot hne h]
  delete_join doc parts hne h := by rw [split_dot hne fun part hpart => (h part hpart).1]

/-! ### Indices below zero -/

/-- The digits of the matches of `\.(-\d+)`. -/
def negativeMatches : List Char → List (List Char)
  | '.' :: '-' :: rest =>
    let digits := rest.takeWhile Char.isDigit
    if digits = [] then negativeMatches rest else digits :: negativeMatches rest
  | _ :: rest          => negativeMatches rest
  | []                 => []

def arrayLength : Option Json → Option ℕ
  | some (.arr items) => some items.length
  | _                 => none

def trimDot (path : List Char) : List Char :=
  if path.getLast? = some '.' then path.dropLast else path

def arrayPath (path negIndex : List Char) : String :=
  String.ofList (trimDot (before negIndex path))

/-- Replace one index, with the lengths of the arrays at paths. -/
def resolveMatch (lengthAt : String → Option ℕ) (path result digits : List Char) : List Char :=
  let negIndex := '-' :: digits
  let index := (atoi (String.ofList negIndex)).getD (-2 ^ 63)
  match lengthAt (arrayPath path negIndex) with
  | some length =>
    let actualIndex := length + index
    if 0 ≤ actualIndex ∧ actualIndex < length then
      replace ('.' :: negIndex) ('.' :: actualIndex.toNat.repr.toList) result
    else result
  | none        => result

def processNegativeIndex (lib : PathLib) (data : Json) (path : String) : String :=
  String.ofList <| (negativeMatches path.toList).foldl
    (resolveMatch (fun arrayPath => arrayLength (lib.get data arrayPath)) path.toList) path.toList

/-! ### What an index below zero means -/

/-- The `j` of an index `-j`. -/
def negative? (segment : String) : Option ℕ :=
  (atoi segment).bind fun i => if i < 0 then some i.natAbs else none

/-- A segment, where the segments in front of it lead to `node`. -/
def resolveSegment (node : Option Json) (segment : String) : String :=
  match negative? segment, arrayLength node with
  | some j, some n => if j ≤ n then (n - j).repr else segment
  | _, _           => segment

/-- The segments of a path from `node` on, each resolved at what the resolved ones lead to. -/
def resolveIndices (node : Option Json) : List String → List String
  | []              => []
  | segment :: rest =>
    let resolved := resolveSegment node segment
    resolved :: resolveIndices (node.bind (child? resolved)) rest

/-- The digits of the match that a segment begins with, behind a dot. -/
def matchDigits (segment : List Char) : List (List Char) :=
  match segment with
  | '-' :: rest => if rest.takeWhile Char.isDigit = [] then [] else [rest.takeWhile Char.isDigit]
  | _           => []

/-- The segments have no index below zero, or `s` only, behind `front`. Of the segments behind the
first one no other begins with a hyphen and a digit, and those in front of `s` do not have its
text and are plain. -/
inductive SinglyIndexed : List String → Prop
  | names {t : String} {rest : List String} (hfirst : negative? t = none)
    (hrest : ∀ u ∈ rest, matchDigits u.toList = []) : SinglyIndexed (t :: rest)
  | index {t s : String} {front rest : List String} (hfirst : negative? t = none)
    (hsign : matchDigits s.toList ≠ []) (hindex : atoi s ≠ none)
    (hother : ∀ u ∈ front ++ rest, matchDigits u.toList = [])
    (hfront : ∀ u ∈ t :: front, PlainPart u ∧ ¬s.toList <:+: u.toList) :
    SinglyIndexed (t :: front ++ s :: rest)

/-! ### Segments -/

variable {segment s : String} {part : List Char} {segments before names : List String}

/-- A segment that begins with a match and is a number is a sign with digits. -/
lemma digits_of_matchDigits (hsign : matchDigits segment.toList ≠ []) {i : ℤ}
    (hi : atoi segment = some i) :
    ∃ (digits : List Char) (j : ℕ), segment.toList = '-' :: digits ∧
      matchDigits segment.toList = [digits] ∧ i = -(j : ℤ) := by
  by_cases hminus : ∃ digits, segment.toList = '-' :: digits
  · obtain ⟨digits, hlist⟩ := hminus
    rw [atoi, hlist] at hi
    obtain ⟨j, hj, rfl⟩ := Option.map_eq_some_iff.mp hi
    have hdigits := takeWhile_eq_self_iff.mpr
      (isDigit_of_readNumber (Option.filter_eq_some_iff.mp hj).1)
    refine ⟨digits, j, hlist, ?_, rfl⟩
    rw [hlist, matchDigits, hdigits] at hsign ⊢
    exact if_neg (by simpa using hsign)
  · exact absurd (matchDigits.eq_2 _ fun digits hlist => hminus ⟨digits, hlist⟩) hsign

lemma negative?_eq_none_of_matchDigits (h : matchDigits segment.toList = []) :
    negative? segment = none := by
  by_contra hnegative
  obtain ⟨j, hj⟩ := Option.ne_none_iff_exists'.mp hnegative
  obtain ⟨i, hi, hif⟩ := Option.bind_eq_some_iff.mp hj
  split_ifs at hif with hneg
  obtain ⟨digits, hlist, hread⟩ := digits_of_atoi_neg hi hneg
  have hdigits := takeWhile_eq_self_iff.mpr (isDigit_of_readNumber hread)
  have hne : digits ≠ [] := by
    rintro rfl
    simp [readNumber] at hread
  simp [hlist, matchDigits, hdigits, hne] at h

/-! ### The matches in a path -/

lemma negativeMatches_append {s : List Char} (hs : '.' ∉ s) (rest : List Char) :
    negativeMatches (s ++ rest) = negativeMatches rest := by
  induction s with
  | nil => rfl
  | cons c s ih =>
    have hc : c ≠ '.' := (ne_of_not_mem_cons hs).symm
    rw [cons_append, negativeMatches.eq_2 _ _ fun x hx => absurd hx hc,
      ih (not_mem_of_not_mem_cons hs)]

lemma takeWhile_isDigit_append (s : List Char) {rest : List Char}
    (hrest : ∀ c ∈ rest.head?, c.isDigit = false) :
    (s ++ rest).takeWhile Char.isDigit = s.takeWhile Char.isDigit := by
  induction s with
  | nil =>
    cases rest with
    | nil => rfl
    | cons c rest => simp [hrest c rfl]
  | cons c s ih => simp [takeWhile_cons, ih]

def dotted (segments : List String) : List Char := segments.flatMap fun s => '.' :: s.toList

@[simp] lemma dotted_nil : dotted [] = [] := rfl

@[simp] lemma dotted_cons (s : String) (segments : List String) :
    dotted (s :: segments) = '.' :: (s.toList ++ dotted segments) := by simp [dotted]

@[simp] lemma dotted_append (segments rest : List String) :
    dotted (segments ++ rest) = dotted segments ++ dotted rest := by simp [dotted]

lemma head?_dotted (segments : List String) : ∀ c ∈ (dotted segments).head?, c = '.' := by
  cases segments <;> simp

lemma toList_join_dotted (s : String) (segments : List String) :
    (join "." (s :: segments)).toList = s.toList ++ dotted segments :=
  toList_join_cons '.' s segments

lemma negativeMatches_dotted (h : ∀ s ∈ segments, '.' ∉ s.toList) :
    negativeMatches (dotted segments) = segments.flatMap fun s => matchDigits s.toList := by
  induction segments with
  | nil => rfl
  | cons s segments ih =>
    obtain ⟨hs, hsegments⟩ := forall_mem_cons.mp h
    have hdot := head?_dotted segments
    rw [dotted_cons, flatMap_cons, ← ih hsegments]
    cases hlist : s.toList with
    | nil =>
      rw [nil_append, negativeMatches.eq_2]
      · rfl
      · intro rest _ hrest
        exact absurd (hdot '-' (by simp [hrest])) (by decide)
    | cons c rest =>
      rw [hlist] at hs
      have hrest := not_mem_of_not_mem_cons hs
      by_cases hc : c = '-'
      · have hdigits := takeWhile_isDigit_append rest
          (fun d hd => by rw [hdot d hd]; decide : ∀ d ∈ (dotted segments).head?, _)
        subst hc
        simp only [cons_append, negativeMatches, hdigits, negativeMatches_append hrest, matchDigits]
        split_ifs <;> rfl
      · have hskip : negativeMatches ('.' :: (c :: rest ++ dotted segments)) =
            negativeMatches (c :: rest ++ dotted segments) :=
          negativeMatches.eq_2 _ _ fun x _ hx => hc (List.cons.inj hx).1
        have hnone := matchDigits.eq_2 (c :: rest) fun x hx => hc (List.cons.inj hx).1
        rw [hskip, negativeMatches_append hs, hnone, nil_append]

/-- The matches in a path are the indices behind its first segment. -/
lemma negativeMatches_join (h : ∀ t ∈ s :: segments, '.' ∉ t.toList) :
    negativeMatches (join "." (s :: segments)).toList =
      segments.flatMap fun s => matchDigits s.toList := by
  obtain ⟨hs, hsegments⟩ := forall_mem_cons.mp h
  rw [toList_join_dotted, negativeMatches_append hs, negativeMatches_dotted hsegments]

/-! ### The array and the replacement -/

/-- The array of an index is looked for in front of the first segment in which its text occurs. -/
lemma before_join (hne : part ≠ []) (hdot : '.' ∉ part)
    (hbefore : ∀ t ∈ before, ¬part <:+: t.toList) (hs : part <+: s.toList) (rest : List String) :
    Occurrence.before part (join "." (before ++ s :: rest)).toList =
      before.flatMap fun t => t.toList ++ ['.'] := by
  induction before with
  | nil =>
    rw [nil_append, toList_join_dotted]
    exact before_eq_nil (hs.trans (prefix_append _ _))
  | cons t before ih =>
    obtain ⟨ht, hbefore⟩ := forall_mem_cons.mp hbefore
    obtain ⟨next, tail, htail⟩ : ∃ next tail, before ++ s :: rest = next :: tail :=
      exists_cons_of_ne_nil (by simp)
    have hstep := before_append_sep hne hdot ht (join "." (next :: tail)).toList
    have hlist : (join "." (t :: next :: tail)).toList =
        t.toList ++ '.' :: (join "." (next :: tail)).toList := by
      rw [toList_join_dotted, toList_join_dotted, dotted_cons]
    rw [cons_append, htail, hlist, hstep, ← htail, ih hbefore]
    simp

lemma arrayPath_join (hne : part ≠ []) (hdot : '.' ∉ part) {t : String}
    (hbefore : ∀ u ∈ t :: before, ¬part <:+: u.toList) (hs : part <+: s.toList)
    (rest : List String) :
    arrayPath (join "." (t :: before ++ s :: rest)).toList part = join "." (t :: before) := by
  have hflat : ∀ (t : String) (before : List String),
      ((t :: before).flatMap fun u => u.toList ++ ['.']) =
        (join "." (t :: before)).toList ++ ['.'] := by
    intro t before
    induction before generalizing t with
    | nil => simp [join]
    | cons u before ih =>
      rw [flatMap_cons, ih, toList_join_dotted, toList_join_dotted]
      simp
  rw [arrayPath, before_join hne hdot hbefore hs, hflat, trimDot]
  simp

lemma replace_dotted {new : List Char} (hdots : ∀ t ∈ before, '.' ∉ t.toList) (hdot : '.' ∉ part)
    (hbefore : ∀ t ∈ before, ¬part <+: t.toList) (rest : List Char) :
    replace ('.' :: part) new (dotted before ++ '.' :: (part ++ rest)) =
      dotted before ++ (new ++ rest) := by
  induction before with
  | nil => exact replace_cons_append '.' part new rest
  | cons t before ih =>
    obtain ⟨hdott, hdots⟩ := forall_mem_cons.mp hdots
    obtain ⟨ht, hbefore⟩ := forall_mem_cons.mp hbefore
    have hstart :
        ¬ '.' :: part <+: '.' :: (t.toList ++ (dotted before ++ '.' :: (part ++ rest))) := by
      intro h
      obtain ⟨tail, htail⟩ : ∃ tail, dotted before ++ '.' :: (part ++ rest) = '.' :: tail := by
        cases before <;> simp
      rw [cons_prefix_cons, htail] at h
      exact ht (isPrefix_of_append_sep hdot h.2)
    rw [dotted_cons, cons_append, append_assoc, replace, if_neg hstart,
      replace_append hdott, ih hdots hbefore]
    simp

/-- The first segment with the text is replaced, where no segment in front has it. -/
lemma replace_join {new t : String} (hdots : ∀ u ∈ t :: before, '.' ∉ u.toList)
    (hdot : '.' ∉ s.toList) (hbefore : ∀ u ∈ before, ¬s.toList <+: u.toList) (rest : List String) :
    replace ('.' :: s.toList) ('.' :: new.toList) (join "." (t :: before ++ s :: rest)).toList =
      (join "." (t :: before ++ new :: rest)).toList := by
  obtain ⟨ht, hdots⟩ := forall_mem_cons.mp hdots
  rw [cons_append, cons_append, toList_join_dotted, toList_join_dotted, dotted_append,
    dotted_append, dotted_cons, replace_append ht, replace_dotted hdots hdot hbefore]
  simp

/-! ### Resolved segments -/

lemma resolveIndices_append (h : ∀ s ∈ names, negative? s = none) (node : Option Json)
    (rest : List String) :
    resolveIndices node (names ++ rest) =
      names ++ resolveIndices (node.bind (lookup names)) rest := by
  induction names generalizing node with
  | nil => cases node <;> rfl
  | cons s names ih =>
    obtain ⟨hs, hnames⟩ := forall_mem_cons.mp h
    simp only [cons_append, resolveIndices, resolveSegment, hs, ih hnames]
    cases node <;> rfl

lemma resolveIndices_names (h : ∀ s ∈ names, negative? s = none) (node : Option Json) :
    resolveIndices node names = names := by
  simpa [resolveIndices] using resolveIndices_append h node []

/-! ### All paths -/

section

variable (lib : PathLib)

lemma processNegativeIndex_index {t : String} {front rest : List String}
    (hdots : ∀ u ∈ t :: front ++ s :: rest, '.' ∉ u.toList)
    (hsign : matchDigits s.toList ≠ []) {i : ℤ} (hi : atoi s = some i)
    (hother : ∀ u ∈ front ++ rest, matchDigits u.toList = [])
    (hfront : ∀ u ∈ t :: front, PlainPart u ∧ ¬s.toList <:+: u.toList) (doc : Json) :
    processNegativeIndex lib doc (join "." (t :: front ++ s :: rest)) =
      join "." (t :: front ++ resolveSegment (doc.lookup (t :: front)) s :: rest) := by
  obtain ⟨digits, j, hlist, hmatch, rfl⟩ := digits_of_matchDigits hsign hi
  have habsent : ∀ u ∈ t :: front, ¬ '-' :: digits <:+: u.toList := fun u hu =>
    hlist ▸ (hfront u hu).2
  have hmatches : negativeMatches (join "." (t :: front ++ s :: rest)).toList = [digits] := by
    obtain ⟨hbefore, hrest⟩ := forall_mem_append.mp hother
    rw [cons_append] at hdots ⊢
    rw [negativeMatches_join hdots, flatMap_append, flatMap_cons,
      flatMap_eq_nil_iff.mpr hbefore, flatMap_eq_nil_iff.mpr hrest, hmatch]
    rfl
  have hdot : '.' ∉ s.toList := hdots s (by simp)
  have hatoi : atoi (String.ofList ('-' :: digits)) = some (-(j : ℤ)) := by
    rw [← hlist, String.ofList_toList, hi]
  have hget : lib.get doc (join "." (t :: front)) = doc.lookup (t :: front) :=
    lib.get_join doc (by simp) fun u hu => (hfront u hu).1
  have hnegative : negative? s = if 0 < j then some j else none := by
    rw [negative?, hi, Option.bind_some, Int.natAbs_neg, Int.natAbs_natCast]
    split_ifs <;> first | rfl | omega
  rw [processNegativeIndex, hmatches, foldl_cons, foldl_nil, resolveMatch,
    arrayPath_join (by simp) (hlist ▸ hdot) habsent (by rw [hlist]), hget, hatoi,
    resolveSegment, hnegative]
  cases arrayLength (doc.lookup (t :: front)) with
  | none =>
    rw [String.ofList_toList]
    split_ifs <;> rfl
  | some n =>
    by_cases hle : 0 < j ∧ j ≤ n
    · have hnat : ((n : ℤ) + -(j : ℤ)).toNat = n - j := by omega
      have hreplace := @replace_join s front (n - j).repr t
        (fun u hu => hdots u (mem_append_left _ hu)) hdot
        (fun u hu hpre => habsent u (mem_cons_of_mem _ hu) (hlist ▸ hpre.isInfix)) rest
      have hrange : 0 ≤ (n : ℤ) + -(j : ℤ) ∧ (n : ℤ) + -(j : ℤ) < n := by omega
      simp only [Option.getD_some, if_pos hrange, hnat, if_pos hle.1, if_pos hle.2, ← hlist,
        hreplace, String.ofList_toList]
    · -- an index of zero, and one in front of the array, stays
      have hrange : ¬(0 ≤ (n : ℤ) + -(j : ℤ) ∧ (n : ℤ) + -(j : ℤ) < n) := by omega
      simp only [Option.getD_some, if_neg hrange, String.ofList_toList]
      by_cases hpos : 0 < j
      · have hshort : ¬j ≤ n := fun h => hle ⟨hpos, h⟩
        simp only [if_pos hpos, if_neg hshort]
      · simp only [if_neg hpos]

end

end XinghaiApi
