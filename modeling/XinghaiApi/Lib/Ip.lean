import Mathlib.Data.Nat.Digits.Defs
import XinghaiApi.Lib.Text

/-!
# Internet addresses

An address is eight groups of sixteen bits, and a v4 address is the one that is mapped into them.
The text of an address is read as it is written: dotted for a v4 address, groups between colons
with the longest run of zeros left out otherwise. A network is the addresses that share the first
bits with its own.
-/

namespace Ip

open List

/-! ### Numbers -/

variable {base : ℕ} {c sep : Char} {fields : List (List Char)} {groups : List ℕ} {ip : IP}

def digitValue (c : Char) : Option ℕ :=
  if '0' ≤ c ∧ c ≤ '9' then some (c.toNat - '0'.toNat)
  else if 'a' ≤ c ∧ c ≤ 'f' then some (c.toNat - 'a'.toNat + 10)
  else if 'A' ≤ c ∧ c ≤ 'F' then some (c.toNat - 'A'.toNat + 10)
  else none

def readDigit (base acc : ℕ) (c : Char) : Option ℕ :=
  ((digitValue c).filter (· < base)).map (acc * base + ·)

def readNumber (base : ℕ) (s : List Char) : Option ℕ :=
  if s = [] then none else s.foldlM (readDigit base) 0

lemma digitValue_digitChar {d : ℕ} (hd : d < 16) : digitValue (Nat.digitChar d) = some d := by
  revert d
  decide

lemma readDigit_digitChar {d : ℕ} (acc : ℕ) (hbase : base ≤ 16) (hd : d < base) :
    readDigit base acc (Nat.digitChar d) = some (acc * base + d) := by
  simp [readDigit, digitValue_digitChar (hd.trans_le hbase), hd]

section

variable (hone : 1 < base) (hbase : base ≤ 16)

include hone hbase

variable (n : ℕ)

lemma foldlM_readDigit_toDigits : (Nat.toDigits base n).foldlM (readDigit base) 0 = some n := by
  induction n using Nat.strongRecOn with
  | ind n ih =>
    rcases Nat.lt_or_ge n base with hlt | hge
    · simp [Nat.toDigits_of_lt_base hlt, readDigit_digitChar 0 hbase hlt]
    · have hrest := ih (n / base) (Nat.div_lt_self (by omega) hone)
      have hdigit := readDigit_digitChar (n / base) hbase (Nat.mod_lt n (by omega : 0 < base))
      simp [Nat.toDigits_of_base_le hone hge, hrest, hdigit, Nat.div_add_mod']

lemma readNumber_toDigits : readNumber base (Nat.toDigits base n) = some n := by
  rw [readNumber, if_neg Nat.toDigits_ne_nil, foldlM_readDigit_toDigits hone hbase n]

lemma mem_toDigits {n : ℕ} (hc : c ∈ Nat.toDigits base n) : c ∈ "0123456789abcdef".toList := by
  induction n using Nat.strongRecOn with
  | ind n ih =>
    have hdigit : ∀ d < 16, Nat.digitChar d ∈ "0123456789abcdef".toList := by decide
    rcases Nat.lt_or_ge n base with hlt | hge
    · rw [Nat.toDigits_of_lt_base hlt, mem_singleton] at hc
      exact hc ▸ hdigit n (hlt.trans_le hbase)
    · rw [Nat.toDigits_of_base_le hone hge, mem_append, mem_singleton] at hc
      rcases hc with hc | rfl
      · exact ih (n / base) (Nat.div_lt_self (by omega) hone) hc
      · exact hdigit _ ((Nat.mod_lt n (by omega)).trans_le hbase)

lemma dot_notMem_toDigits : '.' ∉ Nat.toDigits base n :=
  fun h => absurd (mem_toDigits hone hbase h) (by decide)

lemma colon_notMem_toDigits : ':' ∉ Nat.toDigits base n :=
  fun h => absurd (mem_toDigits hone hbase h) (by decide)

end

/-! ### Addresses -/

structure IP where
  groups : List ℕ
  length_groups : groups.length = 8
  lt_of_mem : ∀ g ∈ groups, g < 65536
deriving DecidableEq

def ofGroups (groups : List ℕ) : Option IP :=
  if h : groups.length = 8 ∧ ∀ g ∈ groups, g < 65536 then some ⟨groups, h.1, h.2⟩ else none

@[simp] lemma ofGroups_groups (ip : IP) : ofGroups ip.groups = some ip := by
  rw [ofGroups, dif_pos ⟨ip.length_groups, ip.lt_of_mem⟩]

/-- The groups in front of a mapped v4 address. -/
def v4InV6Prefix : List ℕ := [0, 0, 0, 0, 0, 65535]

namespace IP

def isV4 (ip : IP) : Bool := ip.groups.take 6 = v4InV6Prefix

/-- The bytes of the last two groups, which are those of a v4 address. -/
def octets (ip : IP) : List ℕ := (ip.groups.drop 6).flatMap fun g => [g / 256, g % 256]

def toNat (ip : IP) : ℕ := ip.groups.foldl (· * 65536 + ·) 0

end IP

def ipv4 (a b c d : UInt8) : IP where
  groups := v4InV6Prefix ++ [a.toNat * 256 + b.toNat, c.toNat * 256 + d.toNat]
  length_groups := rfl
  lt_of_mem := by
    have := a.toNat_lt
    have := b.toNat_lt
    have := c.toNat_lt
    have := d.toNat_lt
    simp [v4InV6Prefix]
    omega

/-! ### Reading -/

/-- A byte is written without a leading zero. -/
def readOctet (s : List Char) : Option ℕ :=
  if s.head? = some '0' ∧ s ≠ ['0'] then none else (readNumber 10 s).filter (· < 256)

/-- The two groups of a dotted address. -/
def parseIPv4Fields (s : List Char) : Option (List ℕ) := do
  match ← (s.splitOn '.').mapM readOctet with
  | [a, b, c, d] => some [a * 256 + b, c * 256 + d]
  | _            => none

def parseIPv4 (s : List Char) : Option IP := do
  ofGroups (v4InV6Prefix ++ (← parseIPv4Fields s))

def readGroup (s : List Char) : Option ℕ :=
  if s.length ≤ 4 then readNumber 16 s else none

/-- The groups of the fields; the last field may be a dotted address. -/
def readGroups : List (List Char) → Option (List ℕ)
  | []      => some []
  | [s]     => if '.' ∈ s then parseIPv4Fields s else (readGroup s).map ([·])
  | s :: ss => do return (← readGroup s) :: (← readGroups ss)

/-- The groups of a text that may be empty. -/
def readFields (s : List Char) : Option (List ℕ) :=
  if s = [] then some [] else readGroups (s.splitOn ':')

/-- What stands before and after the first two colons in a row. -/
def cutEllipsis : List Char → Option (List Char × List Char)
  | ':' :: ':' :: s => some ([], s)
  | c :: s          => (cutEllipsis s).map fun cut => (c :: cut.1, cut.2)
  | []              => none

/-- The ellipsis stands for at least one group of zeros. -/
def parseIPv6 (s : List Char) : Option IP :=
  match cutEllipsis s with
  | none               => do ofGroups (← readGroups (s.splitOn ':'))
  | some (left, right) => do
    if '.' ∈ left then none
    else
      let left ← readFields left
      let right ← readFields right
      if left.length + right.length < 8 then
        ofGroups (left ++ List.replicate (8 - left.length - right.length) 0 ++ right)
      else none

def isAddressChar (c : Char) : Bool := c ∈ "0123456789abcdefABCDEF.:".toList

/-- The first dot or colon says which kind of address the text is. -/
def parseIP (s : String) : Option IP :=
  if s.toList.all isAddressChar then
    match s.toList.find? (fun c => c = '.' || c = ':') with
    | some '.' => parseIPv4 s.toList
    | some ':' => parseIPv6 s.toList
    | _        => none
  else none

/-! ### Writing -/

namespace IP

/-- The first longest run of at least two groups of zeros: where it starts and its length, which
is zero if there is none. -/
def zeroRun (groups : List ℕ) : ℕ × ℕ :=
  (List.range groups.length).foldl (fun best i =>
    let run := ((groups.drop i).takeWhile (· = 0)).length
    if 2 ≤ run ∧ best.2 < run then (i, run) else best) (0, 0)

def writeGroups (groups : List ℕ) : List Char :=
  [':'].intercalate (groups.map (Nat.toDigits 16))

def writeV6 (groups : List ℕ) : List Char :=
  let (start, run) := zeroRun groups
  if run = 0 then writeGroups groups
  else writeGroups (groups.take start) ++ ':' :: ':' :: writeGroups (groups.drop (start + run))

def string (ip : IP) : String :=
  if ip.isV4 then String.ofList (['.'].intercalate (ip.octets.map (Nat.toDigits 10)))
  else String.ofList (writeV6 ip.groups)

end IP

/-! ### What is written is read back -/

/-- A character between two fields is the separator, or it is in one of them. -/
lemma mem_intercalate (hc : c ∈ [sep].intercalate fields) :
    c = sep ∨ ∃ field ∈ fields, c ∈ field := by
  induction fields with
  | nil => simp at hc
  | cons field fields ih =>
    cases fields with
    | nil => exact Or.inr ⟨field, by simp, by simpa using hc⟩
    | cons next fields =>
      rw [intercalate_cons_cons, append_assoc, mem_append] at hc
      rcases hc with hc | hc
      · exact Or.inr ⟨field, by simp, hc⟩
      · rcases mem_cons.mp hc with rfl | hc
        · exact Or.inl rfl
        · rcases ih hc with rfl | ⟨f, hf, hcf⟩
          · exact Or.inl rfl
          · exact Or.inr ⟨f, mem_cons_of_mem _ hf, hcf⟩

/-! #### Dotted addresses -/

lemma readOctet_toDigits : ∀ n < 256, readOctet (Nat.toDigits 10 n) = some n := by
  decide +kernel

lemma mapM_readOctet (octets : List ℕ) (h : ∀ n ∈ octets, n < 256) :
    (octets.map (Nat.toDigits 10)).mapM readOctet = some octets := by
  induction octets with
  | nil => rfl
  | cons n octets ih =>
    have hrest := ih fun m hm => h m (mem_cons_of_mem _ hm)
    simp [readOctet_toDigits n (h n mem_cons_self), hrest]

lemma parseIPv4Fields_octets {g h : ℕ} (hg : g < 65536) (hh : h < 65536) :
    parseIPv4Fields (['.'].intercalate
      ([g / 256, g % 256, h / 256, h % 256].map (Nat.toDigits 10))) = some [g, h] := by
  have hread := mapM_readOctet [g / 256, g % 256, h / 256, h % 256] (by simp; omega)
  rw [parseIPv4Fields, splitOn_intercalate '.' (by simp [dot_notMem_toDigits]) (by simp), hread]
  simp [Nat.div_add_mod']

/-! #### Groups -/

lemma readGroup_toDigits {g : ℕ} (hg : g < 65536) : readGroup (Nat.toDigits 16 g) = some g := by
  have hlength : (Nat.toDigits 16 g).length ≤ 4 := Nat.toDigits_length 16 g 4 (by decide) hg
  rw [readGroup, if_pos hlength, readNumber_toDigits (by decide) le_rfl]

lemma readGroups_map (h : ∀ g ∈ groups, g < 65536) :
    readGroups (groups.map (Nat.toDigits 16)) = some groups := by
  induction groups with
  | nil => rfl
  | cons g groups ih =>
    have hg := readGroup_toDigits (h g mem_cons_self)
    have hrest := ih fun g' hg' => h g' (mem_cons_of_mem _ hg')
    cases groups with
    | nil => simp [readGroups, dot_notMem_toDigits, hg]
    | cons next groups =>
      rw [map_cons] at hrest ⊢
      rw [map_cons, readGroups, hg]
      · simp [hrest]
      · simp

lemma splitOn_writeGroups (hne : groups ≠ []) :
    (IP.writeGroups groups).splitOn ':' = groups.map (Nat.toDigits 16) :=
  splitOn_intercalate ':' (by simp [colon_notMem_toDigits]) (by simpa using hne)

lemma readFields_writeGroups (h : ∀ g ∈ groups, g < 65536) :
    readFields (IP.writeGroups groups) = some groups := by
  cases hnil : groups with
  | nil => rfl
  | cons g rest =>
    rw [← hnil]
    have hne : IP.writeGroups groups ≠ [] := by
      intro hempty
      have hsplit := splitOn_writeGroups (hnil ▸ cons_ne_nil g rest : groups ≠ [])
      rw [hempty, hnil] at hsplit
      simp at hsplit
    rw [readFields, if_neg hne, splitOn_writeGroups (by simp [hnil]), readGroups_map h]

/-! #### The ellipsis -/

lemma cutEllipsis_append {field : List Char} (hfield : ':' ∉ field) (s : List Char) :
    cutEllipsis (field ++ s) = (cutEllipsis s).map fun cut => (field ++ cut.1, cut.2) := by
  induction field with
  | nil => simp
  | cons c field ih =>
    rw [mem_cons, not_or] at hfield
    rw [cons_append, cutEllipsis, ih hfield.2, Option.map_map]
    · rfl
    · intro s' hcolon
      exact absurd hcolon.symm hfield.1

/-- The cut is not inside fields that are not empty. -/
lemma cutEllipsis_intercalate (h : ∀ field ∈ fields, ':' ∉ field ∧ field ≠ []) (s : List Char) :
    cutEllipsis ([':'].intercalate fields ++ s) =
      (cutEllipsis s).map fun cut => ([':'].intercalate fields ++ cut.1, cut.2) := by
  induction fields with
  | nil => simp
  | cons field fields ih =>
    have hfield := h field mem_cons_self
    have hrest := ih fun f hf => h f (mem_cons_of_mem _ hf)
    cases fields with
    | nil => simpa using cutEllipsis_append hfield.1 s
    | cons next fields =>
      obtain ⟨hcolon, hne⟩ := h next (by simp)
      have hhead : ∀ s', [':'].intercalate (next :: fields) ++ s ≠ ':' :: s' := by
        obtain ⟨c, cs, rfl⟩ := exists_cons_of_ne_nil hne
        intro s' heq
        cases fields <;> simp at heq hcolon <;> tauto
      rw [intercalate_cons_cons, append_assoc, append_assoc,
        cutEllipsis_append hfield.1, singleton_append, cutEllipsis, hrest]
      · simp [Function.comp_def]
      · intro s' _
        exact hhead s'

/-- The run that is left out consists of zeros. -/
lemma zeroRun_spec (groups : List ℕ) : (IP.zeroRun groups).2 =
    ((groups.drop (IP.zeroRun groups).1).takeWhile (· = 0)).length ∨ (IP.zeroRun groups).2 = 0 := by
  rw [IP.zeroRun]
  generalize List.range groups.length = places
  refine List.foldlRecOn places _
    (motive := fun best : ℕ × ℕ =>
      best.2 = ((groups.drop best.1).takeWhile (· = 0)).length ∨ best.2 = 0)
    (Or.inr rfl) fun best hbest i _ => ?_
  dsimp only
  split_ifs with hlonger
  · exact Or.inl rfl
  · exact hbest

lemma eq_append_zeroRun (h : (IP.zeroRun groups).2 ≠ 0) :
    groups = groups.take (IP.zeroRun groups).1 ++ List.replicate (IP.zeroRun groups).2 0 ++
      groups.drop ((IP.zeroRun groups).1 + (IP.zeroRun groups).2) := by
  generalize hstart : (IP.zeroRun groups).1 = start
  generalize hrun : (IP.zeroRun groups).2 = run at h ⊢
  have hspec : run = ((groups.drop start).takeWhile (· = 0)).length :=
    hstart ▸ hrun ▸ (zeroRun_spec groups).resolve_right (hrun ▸ h)
  have hzeros : (groups.drop start).takeWhile (· = 0) = List.replicate run 0 := by
    rw [hspec]
    exact eq_replicate_of_mem fun g hg => by simpa using mem_takeWhile_imp hg
  have hcut := takeWhile_append_dropWhile (p := (· = 0)) (l := groups.drop start)
  have hrest : (groups.drop start).dropWhile (· = 0) = groups.drop (start + run) := by
    rw [← drop_drop]
    conv_rhs => rw [← hcut]
    rw [hspec, drop_left]
  rw [append_assoc, ← hrest, ← hzeros, hcut, take_append_drop]

/-! #### Addresses -/

lemma dot_notMem_writeGroups (groups : List ℕ) : '.' ∉ IP.writeGroups groups := by
  intro hdot
  rcases mem_intercalate hdot with hcolon | ⟨field, hfield, hmem⟩
  · exact absurd hcolon (by decide)
  · obtain ⟨g, -, rfl⟩ := mem_map.mp hfield
    exact dot_notMem_toDigits (by decide) le_rfl g hmem

lemma cutEllipsis_writeGroups (groups : List ℕ) (s : List Char) :
    cutEllipsis (IP.writeGroups groups ++ s) =
      (cutEllipsis s).map fun cut => (IP.writeGroups groups ++ cut.1, cut.2) := by
  refine cutEllipsis_intercalate (fun field hfield => ?_) s
  obtain ⟨g, -, rfl⟩ := mem_map.mp hfield
  exact ⟨colon_notMem_toDigits (by decide) le_rfl g, Nat.toDigits_ne_nil⟩

lemma parseIPv6_ellipsis {left right : List ℕ} (hleft : ∀ g ∈ left, g < 65536)
    (hright : ∀ g ∈ right, g < 65536) (hlength : left.length + right.length < 8) :
    parseIPv6 (IP.writeGroups left ++ ':' :: ':' :: IP.writeGroups right) =
      ofGroups (left ++ List.replicate (8 - left.length - right.length) 0 ++ right) := by
  have hcut : cutEllipsis (IP.writeGroups left ++ ':' :: ':' :: IP.writeGroups right) =
      some (IP.writeGroups left, IP.writeGroups right) := by
    simp [cutEllipsis_writeGroups, cutEllipsis]
  simp [parseIPv6, hcut, dot_notMem_writeGroups, readFields_writeGroups hleft,
    readFields_writeGroups hright, hlength]

lemma parseIPv6_writeV6 (ip : IP) : parseIPv6 (IP.writeV6 ip.groups) = some ip := by
  by_cases hrun : (IP.zeroRun ip.groups).2 = 0
  · have hcut : cutEllipsis (IP.writeGroups ip.groups) = none := by
      simpa [cutEllipsis] using cutEllipsis_writeGroups ip.groups []
    have hne := ne_nil_of_length_pos (l := ip.groups) (by simp [ip.length_groups])
    simp [IP.writeV6, hrun, parseIPv6, hcut, splitOn_writeGroups hne, readGroups_map ip.lt_of_mem]
  · have hgroups := eq_append_zeroRun hrun
    simp only [IP.writeV6, if_neg hrun]
    generalize hleft : ip.groups.take (IP.zeroRun ip.groups).1 = left at hgroups ⊢
    generalize hright : ip.groups.drop ((IP.zeroRun ip.groups).1 + (IP.zeroRun ip.groups).2) =
      right at hgroups ⊢
    have hlength : left.length + (IP.zeroRun ip.groups).2 + right.length = 8 := by
      rw [← ip.length_groups]
      conv_rhs => rw [hgroups]
      simp [Nat.add_assoc]
    have hzeros : 8 - left.length - right.length = (IP.zeroRun ip.groups).2 := by omega
    rw [parseIPv6_ellipsis (fun g hg => ip.lt_of_mem g (mem_of_mem_take (hleft ▸ hg)))
      (fun g hg => ip.lt_of_mem g (mem_of_mem_drop (hright ▸ hg))) (by omega), hzeros,
      ← hgroups, ofGroups_groups]

lemma isAddressChar_of_mem_toDigits {n : ℕ} (hone : 1 < base) (hbase : base ≤ 16)
    (hc : c ∈ Nat.toDigits base n) : isAddressChar c = true := by
  have hhex : ∀ c ∈ "0123456789abcdef".toList, isAddressChar c = true := by decide
  exact hhex c (mem_toDigits hone hbase hc)

lemma isAddressChar_of_mem_intercalate {numbers : List ℕ} (hone : 1 < base) (hbase : base ≤ 16)
    (hsep : isAddressChar sep = true)
    (hc : c ∈ [sep].intercalate (numbers.map (Nat.toDigits base))) : isAddressChar c = true := by
  rcases mem_intercalate hc with rfl | ⟨field, hfield, hmem⟩
  · exact hsep
  · obtain ⟨g, -, rfl⟩ := mem_map.mp hfield
    exact isAddressChar_of_mem_toDigits hone hbase hmem

lemma colon_mem_writeV6 (ip : IP) : ':' ∈ IP.writeV6 ip.groups := by
  simp only [IP.writeV6]
  split_ifs with hrun
  · have hlength := ip.length_groups
    match hgroups : ip.groups with
    | [] | [_] => simp [hgroups] at hlength
    | g :: h :: gs => simp [IP.writeGroups]
  · simp

lemma mem_writeV6 (hc : c ∈ IP.writeV6 ip.groups) : c ≠ '.' ∧ isAddressChar c = true := by
  have hwrite : ∀ groups, c ∈ IP.writeGroups groups → c ≠ '.' ∧ isAddressChar c = true :=
    fun groups hmem => ⟨fun hdot => dot_notMem_writeGroups groups (hdot ▸ hmem),
      isAddressChar_of_mem_intercalate (by decide) le_rfl (by decide) hmem⟩
  simp only [IP.writeV6] at hc
  split_ifs at hc with hrun
  · exact hwrite _ hc
  · simp only [mem_append, mem_cons] at hc
    rcases hc with hc | rfl | rfl | hc
    · exact hwrite _ hc
    · decide
    · decide
    · exact hwrite _ hc

lemma find_separator {s : List Char} (hmem : sep ∈ s) (hsep : sep = '.' ∨ sep = ':')
    (honly : ∀ c ∈ s, c = '.' ∨ c = ':' → c = sep) :
    s.find? (fun c => c = '.' || c = ':') = some sep := by
  cases hfind : s.find? (fun c => c = '.' || c = ':') with
  | none =>
    have hnone := List.find?_eq_none.mp hfind sep hmem
    exact absurd hnone (by simpa [or_iff_not_imp_left] using hsep)
  | some c =>
    have hc : c = '.' ∨ c = ':' := by simpa using List.find?_some hfind
    rw [honly c (mem_of_find?_eq_some hfind) hc]

lemma parseIP_writeV6 (ip : IP) : parseIP (String.ofList (IP.writeV6 ip.groups)) = some ip := by
  have hchars : (IP.writeV6 ip.groups).all isAddressChar = true :=
    all_eq_true.mpr fun c hc => (mem_writeV6 hc).2
  have hfind := find_separator (colon_mem_writeV6 ip) (Or.inr rfl)
    fun c hc h => h.resolve_left (mem_writeV6 hc).1
  simp only [parseIP, String.toList_ofList, hchars, if_true, hfind, parseIPv6_writeV6]

/-- The groups of a v4 address. -/
lemma eq_of_isV4 (h : ip.isV4 = true) : ∃ g h, ip.groups = v4InV6Prefix ++ [g, h] := by
  have htake : ip.groups.take 6 = v4InV6Prefix := by simpa [IP.isV4] using h
  have hdrop : (ip.groups.drop 6).length = 2 := by simp [ip.length_groups]
  obtain ⟨g, h, hgh⟩ := length_eq_two.mp hdrop
  exact ⟨g, h, by rw [← htake, ← hgh, take_append_drop]⟩

lemma parseIP_dotted (h : ip.isV4 = true) :
    parseIP (String.ofList (['.'].intercalate (ip.octets.map (Nat.toDigits 10)))) = some ip := by
  obtain ⟨g, h, hgroups⟩ := eq_of_isV4 h
  have hoctets : ip.octets = [g / 256, g % 256, h / 256, h % 256] := by
    simp [IP.octets, hgroups, v4InV6Prefix]
  have hfields := parseIPv4Fields_octets (ip.lt_of_mem g (by simp [hgroups]))
    (ip.lt_of_mem h (by simp [hgroups]))
  have hmem : '.' ∈ ['.'].intercalate (ip.octets.map (Nat.toDigits 10)) := by
    simp [hoctets]
  rw [← hoctets] at hfields
  generalize htext : ['.'].intercalate (ip.octets.map (Nat.toDigits 10)) = text at hfields hmem ⊢
  have hchars : text.all isAddressChar = true :=
    all_eq_true.mpr fun c hc =>
      isAddressChar_of_mem_intercalate (by decide) (by decide) (by decide) (htext ▸ hc)
  have hcolon : ':' ∉ text := by
    rw [← htext]
    intro hmem
    rcases mem_intercalate hmem with hdot | ⟨field, hfield, hmem⟩
    · exact absurd hdot (by decide)
    · obtain ⟨n, -, rfl⟩ := mem_map.mp hfield
      exact colon_notMem_toDigits (by decide) (by decide) n hmem
  have hfind := find_separator hmem (Or.inl rfl)
    fun c hc h => h.resolve_right (fun hc' => hcolon (hc' ▸ hc))
  have hparse : parseIPv4 text = some ip := by
    rw [parseIPv4, hfields, Option.bind_eq_bind, Option.bind_some, ← hgroups, ofGroups_groups]
  simp only [parseIP, String.toList_ofList, hchars, if_true, hfind, hparse]

/-- The text of an address is that address. -/
theorem parseIP_string (ip : IP) : parseIP ip.string = some ip := by
  rw [IP.string]
  split_ifs with hv4
  · exact parseIP_dotted hv4
  · exact parseIP_writeV6 ip

lemma isAddressChar_of_parseIP {s : String} (h : parseIP s = some ip) :
    ∀ c ∈ s.toList, isAddressChar c = true := by
  by_contra hother
  simp [parseIP, hother] at h

/-- An address has no white space around it. -/
lemma trimSpace_of_parseIP {s : String} (h : parseIP s = some ip) : Text.trimSpace s = s := by
  have hspace : ∀ c ∈ "0123456789abcdefABCDEF.:".toList, Text.isSpace c = false := by decide
  refine Text.trimSpace_eq_self fun c hc => hspace c ?_
  simpa [isAddressChar] using isAddressChar_of_parseIP h c hc

/-! ### Networks -/

/-- The addresses whose first `ones` bits are those of `ip`. -/
structure Network where
  ip : IP
  ones : ℕ

/-- A network whose own address is a v4 address holds v4 addresses, any other one holds none. -/
def Network.contains (network : Network) (ip : IP) : Bool :=
  (network.ip.isV4 && 96 ≤ network.ones) = ip.isV4 ∧
    network.ip.toNat / 2 ^ (128 - network.ones) = ip.toNat / 2 ^ (128 - network.ones)

def v4Network (a b c d : UInt8) (ones : ℕ) : Network := { ip := ipv4 a b c d, ones := 96 + ones }

/-- A network is written as an address and the number of its bits. -/
def parseCIDR (s : String) : Option Network :=
  let address := s.toList.takeWhile (· ≠ '/')
  match s.toList.dropWhile (· ≠ '/') with
  | []        => none
  | _ :: mask => do
    let ip ← parseIP (String.ofList address)
    let ones ← readNumber 10 mask
    if ':' ∈ address then if ones ≤ 128 then some { ip, ones } else none
    else if ones ≤ 32 then some { ip, ones := 96 + ones } else none

/-! ### Kinds of addresses -/

namespace IP

section

variable (ip : IP)

def octet (i : ℕ) : ℕ := ip.octets.getD i 0

/-- The first two bytes of a v6 address. -/
def firstByte : ℕ := ip.groups.headD 0 / 256

def secondByte : ℕ := ip.groups.headD 0 % 256

def isUnspecified : Bool := ip = ipv4 0 0 0 0 || ip.groups = List.replicate 8 0

def isLoopback : Bool :=
  if ip.isV4 then ip.octet 0 = 127 else ip.groups = List.replicate 7 0 ++ [1]

def isPrivate : Bool :=
  if ip.isV4 then
    ip.octet 0 = 10 || (ip.octet 0 = 172 && ip.octet 1 &&& 0xf0 = 16) ||
      (ip.octet 0 = 192 && ip.octet 1 = 168)
  else ip.firstByte &&& 0xfe = 0xfc

def isLinkLocalUnicast : Bool :=
  if ip.isV4 then ip.octet 0 = 169 && ip.octet 1 = 254
  else ip.firstByte = 0xfe && ip.secondByte &&& 0xc0 = 0x80

def isLinkLocalMulticast : Bool :=
  if ip.isV4 then ip.octet 0 = 224 && ip.octet 1 = 0 && ip.octet 2 = 0
  else ip.firstByte = 0xff && ip.secondByte &&& 0x0f = 0x02

def isInterfaceLocalMulticast : Bool :=
  ip.firstByte = 0xff && ip.secondByte &&& 0x0f = 0x01

end

end IP

end Ip
