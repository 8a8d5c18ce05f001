import XinghaiApi.Lib.HostPort
import XinghaiApi.Lib.Json

/-!
# Paths into JSON values

A path is a list of parts. A part is the key of a member where it meets an object and the index of
an element where it meets an array. Erasing several paths one after the other is understood through
the children: paths with the same first part act on one child, and paths with different first parts
act on different ones.
-/

namespace Json

open List

/-! ### Children -/

/-- The index that a part is, of digits only. -/
def index? (part : String) : Option ℕ := Ip.readNumber 10 part.toList

def child? (part : String) : Json → Option Json
  | .obj members => members.lookup part
  | .arr items   => (index? part).bind (items[·]?)
  | _            => none

def modifyMember (key : String) (f : Json → Json) : List (String × Json) → List (String × Json)
  | []           => []
  | m :: members => if m.1 = key then (m.1, f m.2) :: members else m :: modifyMember key f members

def modifyChild (part : String) (f : Json → Json) : Json → Json
  | .obj members => .obj (modifyMember part f members)
  | .arr items   => .arr ((index? part).elim items fun i => items.modify i f)
  | node         => node

def eraseChild (part : String) : Json → Json
  | .obj members => .obj (members.eraseP (·.1 = part))
  | .arr items   => .arr ((index? part).elim items items.eraseIdx)
  | node         => node

/-! ### Paths -/

variable {α : Type*} (part : String)

/-- The value at the end of a path. -/
def lookup : List String → Json → Option Json
  | [], node            => some node
  | part :: parts, node => (node.child? part).bind (lookup parts)

/-- Remove the value at the end of a path. Nothing changes if there is none. -/
def erase : List String → Json → Json
  | [], node            => node
  | part :: parts, node =>
    if parts = [] then node.eraseChild part else node.modifyChild part (erase parts)

/-- Remove the values at the ends of paths, one after the other. -/
def eraseAll (paths : List (List String)) (node : Json) : Json :=
  paths.foldl (fun node path => node.erase path) node

section

variable (node : Json)

@[simp] lemma lookup_nil : node.lookup [] = some node := rfl

@[simp] lemma lookup_cons (parts : List String) :
    node.lookup (part :: parts) = (node.child? part).bind (lookup parts) := rfl

@[simp] lemma eraseAll_nil : eraseAll [] node = node := rfl

@[simp] lemma eraseAll_cons (path : List String) (paths : List (List String)) :
    eraseAll (path :: paths) node = eraseAll paths (node.erase path) := rfl

lemma eraseAll_flatMap (xs : List α) (paths : α → List (List String)) :
    eraseAll (xs.flatMap paths) node = xs.foldl (fun node x => eraseAll (paths x) node) node := by
  simp [eraseAll, foldl_flatMap]

end

/-! ### Changes of children -/

/-- The text of a number is the index. -/
@[simp] lemma index?_repr (i : ℕ) : index? i.repr = some i := by
  rw [index?, Nat.repr_eq_ofList_toDigits, String.toList_ofList]
  exact Ip.readNumber_toDigits (by decide) (by decide) i

section

variable (key : String) (members : List (String × Json))

lemma modifyMember_id : modifyMember key id members = members := by
  induction members with
  | nil => rfl
  | cons m members ih => simp [modifyMember, ih]

lemma modifyMember_modifyMember (f g : Json → Json) :
    modifyMember key g (modifyMember key f members) = modifyMember key (g ∘ f) members := by
  induction members with
  | nil => rfl
  | cons m members ih => by_cases hkey : m.1 = key <;> simp [modifyMember, hkey, ih]

@[simp] lemma map_fst_modifyMember (f : Json → Json) :
    (modifyMember key f members).map Prod.fst = members.map Prod.fst := by
  induction members with
  | nil => rfl
  | cons m members ih => by_cases hkey : m.1 = key <;> simp [modifyMember, hkey, ih]

end

lemma modifyChild_id (node : Json) : node.modifyChild part id = node := by
  cases node with
  | obj members => simp [modifyChild, modifyMember_id]
  | arr items => cases hindex : index? part <;> simp [modifyChild, hindex]
  | _ => rfl

lemma modifyChild_modifyChild (f g : Json → Json) (node : Json) :
    (node.modifyChild part f).modifyChild part g = node.modifyChild part (g ∘ f) := by
  cases node with
  | obj members => simp [modifyChild, modifyMember_modifyMember]
  | arr items => cases hindex : index? part <;> simp [modifyChild, hindex, modify_modify_eq]
  | _ => rfl

/-- Paths with the same first part change one child. -/
lemma eraseAll_map_cons {paths : List (List String)} (hpaths : ∀ path ∈ paths, path ≠ [])
    (node : Json) :
    eraseAll (paths.map (part :: ·)) node = node.modifyChild part (eraseAll paths) := by
  induction paths generalizing node with
  | nil => exact (modifyChild_id part node).symm
  | cons path paths ih =>
    have hpath : path ≠ [] := hpaths path mem_cons_self
    rw [map_cons, eraseAll_cons, erase, if_neg hpath,
      ih fun q hq => hpaths q (mem_cons_of_mem _ hq), modifyChild_modifyChild]
    rfl

/-! ### Members with different keys -/

variable {members : List (String × Json)} {m : String × Json}

/-- The keys of an object are different. -/
def DistinctKeys (members : List (String × Json)) : Prop := (members.map Prod.fst).Nodup

instance (members : List (String × Json)) : Decidable (DistinctKeys members) :=
  inferInstanceAs (Decidable (members.map Prod.fst).Nodup)

lemma DistinctKeys.of_cons (h : DistinctKeys (m :: members)) : DistinctKeys members :=
  (nodup_cons.mp h).2

lemma DistinctKeys.ne_of_mem {m' : String × Json} (h : DistinctKeys (m :: members))
    (hm : m' ∈ members) : m'.1 ≠ m.1 := fun hkey =>
  (nodup_cons.mp h).1 (hkey ▸ mem_map_of_mem hm)

/-- The member is the one that is found under its key. -/
lemma DistinctKeys.lookup_eq (h : DistinctKeys members) (hm : m ∈ members) :
    members.lookup m.1 = some m.2 := by
  induction members with
  | nil => simp at hm
  | cons first members ih =>
    obtain ⟨key, value⟩ := first
    rcases mem_cons.mp hm with rfl | hm
    · exact lookup_cons_self
    · have hne : m.1 ≠ key := h.ne_of_mem hm
      rw [List.lookup_cons, beq_eq_false_iff_ne.mpr hne]
      exact ih h.of_cons hm

lemma modifyMember_eq_map (h : DistinctKeys members) (key : String) (f : Json → Json) :
    modifyMember key f members = members.map fun m => if m.1 = key then (m.1, f m.2) else m := by
  induction members with
  | nil => rfl
  | cons m members ih =>
    by_cases hkey : m.1 = key
    · have hrest : ∀ m' ∈ members, (if m'.1 = key then (m'.1, f m'.2) else m') = m' := by
        intro m' hm'
        rw [if_neg (hkey ▸ h.ne_of_mem hm')]
      simp [modifyMember, hkey, map_congr_left hrest]
    · simp [modifyMember, hkey, ih h.of_cons]

lemma eraseP_eq_filter (h : DistinctKeys members) (key : String) :
    members.eraseP (·.1 = key) = members.filter (·.1 ≠ key) := by
  induction members with
  | nil => rfl
  | cons m members ih =>
    by_cases hkey : m.1 = key
    · have hrest : members.filter (·.1 ≠ key) = members :=
        filter_eq_self.mpr fun m' hm' => by simpa using hkey ▸ h.ne_of_mem hm'
      rw [eraseP_cons_of_pos (by simpa using hkey), filter_cons_of_neg (by simpa using hkey), hrest]
    · rw [eraseP_cons_of_neg (by simpa using hkey),
        filter_cons_of_pos (by simpa using hkey), ih h.of_cons]

/-- Changes under different keys change each member on its own. -/
lemma foldl_modifyMember (g : String → Json → Json) {keys : List String} (hkeys : keys.Nodup)
    (h : DistinctKeys members) :
    keys.foldl (fun (node : Json) key => node.modifyChild key (g key)) (.obj members) =
      .obj (members.map fun m => if m.1 ∈ keys then (m.1, g m.1 m.2) else m) := by
  induction keys generalizing members with
  | nil => simp
  | cons key keys ih =>
    obtain ⟨hkey, hkeys⟩ := nodup_cons.mp hkeys
    have hdistinct : DistinctKeys (modifyMember key (g key) members) := by
      simpa [DistinctKeys] using h
    rw [foldl_cons, modifyChild, ih hkeys hdistinct, modifyMember_eq_map h, map_map]
    congr 1
    refine map_congr_left fun m _ => ?_
    by_cases hm : m.1 = key
    · simp [hm, hkey]
    · simp [hm]

lemma foldl_eraseMember (keys : List String) (h : DistinctKeys members) :
    keys.foldl (fun (node : Json) key => node.eraseChild key) (.obj members) =
      .obj (members.filter (·.1 ∉ keys)) := by
  induction keys generalizing members with
  | nil => simp
  | cons key keys ih =>
    have hdistinct : DistinctKeys (members.filter (·.1 ≠ key)) :=
      h.sublist (filter_sublist.map Prod.fst)
    rw [foldl_cons, eraseChild, eraseP_eq_filter h, ih hdistinct, filter_filter]
    congr 1
    refine filter_congr fun m _ => ?_
    by_cases hm : m.1 = key <;> simp [hm]

/-! ### Elements of an array -/

/-- Changes at the indices change each element on its own. -/
lemma foldl_modify_zipIdx (g : α → α → α) (before items : List α) :
    (items.zipIdx before.length).foldl (fun xs x => xs.modify x.2 (g x.1)) (before ++ items) =
      before ++ items.map fun item => g item item := by
  induction items generalizing before with
  | nil => simp
  | cons item items ih =>
    have hmodify : (before ++ item :: items).modify before.length (g item) =
        (before ++ [g item item]) ++ items := by
      rw [modify_eq_take_cons_drop (by simp)]
      simp
    have hlength : before.length + 1 = (before ++ [g item item]).length := by simp
    rw [zipIdx_cons, foldl_cons, hmodify, hlength, ih]
    simp

end Json
