import Mathlib.Data.List.Nodup
import Mathlib.Tactic.Common

/-!
# Tables under a primary key

A table whose rows are told apart by a key computed from their columns. That no two rows share a key
is a field. What an operation does is said by the row it leaves under each key.
-/

structure Keyed {ρ κ : Type*} (key : ρ → κ) where
  rows : List ρ
  nodup : (rows.map key).Nodup

namespace Keyed

open List

variable {ρ κ : Type*} {key : ρ → κ}

instance : Membership ρ (Keyed key) := ⟨fun t r => r ∈ t.rows⟩

variable {t : Keyed key} {r : ρ}

lemma mem_def : r ∈ t ↔ r ∈ t.rows := Iff.rfl

instance [DecidableEq ρ] (r : ρ) (t : Keyed key) : Decidable (r ∈ t) :=
  inferInstanceAs (Decidable (r ∈ t.rows))

def empty : Keyed key where
  rows := []
  nodup := by simp

variable [DecidableEq κ]

/-! ### Lookup -/

/-- The row under a key, if any. -/
def find (t : Keyed key) (k : κ) : Option ρ :=
  t.rows.find? (key · = k)

lemma find_eq_some_iff {k : κ} : t.find k = some r ↔ r ∈ t ∧ key r = k := by
  constructor
  · intro h
    exact ⟨mem_of_find?_eq_some h, by simpa using List.find?_some h⟩
  · rintro ⟨hr, rfl⟩
    obtain ⟨r', hr'⟩ := Option.isSome_iff_exists.mp
      (List.find?_isSome (p := (key · = key r)).mpr ⟨r, hr, by simp⟩)
    have hkey : key r' = key r := by simpa using List.find?_some hr'
    rw [find, hr', inj_on_of_nodup_map t.nodup (mem_of_find?_eq_some hr') hr hkey]

lemma find_eq_none_iff {k : κ} : t.find k = none ↔ ∀ r ∈ t, key r ≠ k := by
  simp [find, mem_def]

@[simp] lemma find_key (h : r ∈ t) : t.find (key r) = some r :=
  find_eq_some_iff.mpr ⟨h, rfl⟩

/-! ### Insertion -/

/-- `INSERT ... ON CONFLICT DO NOTHING`. -/
def insertNew (t : Keyed key) (r : ρ) : Keyed key :=
  if h : t.find (key r) = none then
    { rows := t.rows ++ [r]
      nodup := by
        rw [map_append, nodup_append]
        refine ⟨t.nodup, by simp, ?_⟩
        rintro k hk k' hk' rfl
        obtain ⟨r₀, hr₀, rfl⟩ := mem_map.mp hk
        simp only [map_cons, map_nil, mem_singleton] at hk'
        exact find_eq_none_iff.mp h r₀ hr₀ hk' }
  else t

lemma find_insertNew (t : Keyed key) (r : ρ) (k : κ) :
    (t.insertNew r).find k = (t.find k).or (if key r = k then some r else none) := by
  unfold insertNew
  split_ifs with h hk hk
  · subst hk
    simp [find]
  · simp [find, hk]
  · subst hk
    obtain ⟨r', hr'⟩ := Option.ne_none_iff_exists'.mp h
    simp [hr']
  · simp

/-- Insert the rows one after the other. -/
def insertAll (t : Keyed key) (rs : List ρ) : Keyed key := rs.foldl insertNew t

lemma find_insertAll (t : Keyed key) (rs : List ρ) (k : κ) :
    (t.insertAll rs).find k = (t.find k).or (rs.find? (key · = k)) := by
  induction rs generalizing t with
  | nil => simp [insertAll]
  | cons r rs ih =>
    rw [show t.insertAll (r :: rs) = (t.insertNew r).insertAll rs from rfl, ih, find_insertNew]
    by_cases hk : key r = k <;> simp [hk]

lemma mem_insertNew {x : ρ} (h : x ∈ t.insertNew r) : x ∈ t ∨ x = r := by
  unfold insertNew at h
  split_ifs at h
  · simpa [mem_def] using h
  · exact Or.inl h

lemma mem_insertNew_of_mem {x : ρ} (h : x ∈ t) : x ∈ t.insertNew r := by
  unfold insertNew
  split_ifs
  · exact mem_append_left _ h
  · exact h

lemma mem_insertAll {rs : List ρ} {x : ρ} (h : x ∈ t.insertAll rs) : x ∈ t ∨ x ∈ rs := by
  induction rs generalizing t with
  | nil => exact Or.inl h
  | cons r rs ih =>
    rcases ih h with hx | hx
    · rcases mem_insertNew hx with hx | rfl
      · exact Or.inl hx
      · exact Or.inr mem_cons_self
    · exact Or.inr (mem_cons_of_mem r hx)

/-! ### Deletion and updates -/

/-- `DELETE ... WHERE p`. -/
def deleteWhere (t : Keyed key) (p : ρ → Bool) : Keyed key where
  rows := t.rows.filter fun r => !p r
  nodup := t.nodup.sublist (filter_sublist.map _)

omit [DecidableEq κ] in
lemma mem_deleteWhere {p : ρ → Bool} : r ∈ t.deleteWhere p ↔ r ∈ t ∧ p r = false := by
  simp [mem_def, deleteWhere]

section

variable (t : Keyed key) (p : ρ → Bool)

lemma find_deleteWhere (k : κ) : (t.deleteWhere p).find k = (t.find k).filter fun r => !p r := by
  ext r
  simp only [find_eq_some_iff, mem_deleteWhere, Option.filter_eq_some_iff, Bool.not_eq_true']
  tauto

/-- `UPDATE ... SET f WHERE p`, for an `f` that does not write the key. -/
def updateWhere (f : ρ → ρ) (hf : ∀ r, key (f r) = key r) : Keyed key where
  rows := t.rows.map fun r => if p r then f r else r
  nodup := by
    have hkeys : (t.rows.map fun r => if p r then f r else r).map key = t.rows.map key := by
      rw [map_map]
      apply map_congr_left
      intro r _
      simp only [Function.comp_apply]
      split_ifs
      · exact hf r
      · rfl
    rw [hkeys]
    exact t.nodup

lemma find_updateWhere (f : ρ → ρ) (hf : ∀ r, key (f r) = key r) (k : κ) :
    (t.updateWhere p f hf).find k = (t.find k).map fun r => if p r then f r else r := by
  simp only [find, updateWhere, List.find?_map]
  congr 2
  funext r
  simp only [Function.comp_apply]
  split_ifs
  · simp [hf]
  · rfl

end

end Keyed
