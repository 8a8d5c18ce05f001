import Mathlib.Data.List.Nodup
import Mathlib.Data.List.Sort
import Mathlib.Tactic.Common

/-!
# Tables with an auto-increment key

A table is a list of rows in insertion order. Its invariant is a field: the keys are distinct
and below the key the next inserted row will get, so no operation can build a table in which two
rows share a key.
-/

/-- A row type whose key column can be read and written. -/
class Row (ρ : Type*) where
  key : ρ → Int
  withKey : Int → ρ → ρ
  key_withKey : ∀ k r, key (withKey k r) = k
  withKey_key : ∀ r, withKey (key r) r = r

attribute [simp] Row.key_withKey Row.withKey_key

structure Table (ρ : Type*) [Row ρ] where
  rows : List ρ
  next : Int
  nodup : (rows.map Row.key).Nodup
  fresh : ∀ r ∈ rows, Row.key r < next

namespace Table

open List

variable {ρ : Type*} [Row ρ] {t : Table ρ} {r : ρ} {p : ρ → Bool}

instance : Membership ρ (Table ρ) := ⟨fun t r => r ∈ t.rows⟩

instance [DecidableEq ρ] (r : ρ) (t : Table ρ) : Decidable (r ∈ t) :=
  inferInstanceAs (Decidable (r ∈ t.rows))

lemma mem_def : r ∈ t ↔ r ∈ t.rows := Iff.rfl

/-- The empty table; keys start at 1. -/
def empty : Table ρ where
  rows := []
  next := 1
  nodup := by simp
  fresh := by simp

lemma eq_of_key_eq {r' : ρ} (hr : r ∈ t) (hr' : r' ∈ t) (h : Row.key r = Row.key r') : r = r' :=
  inj_on_of_nodup_map t.nodup hr hr' h

/-! ### Lookup -/

variable {k : Int} {P : ρ → Prop} {f : ρ → ρ} {x : ρ} {le : ρ → ρ → Prop}

/-- The row with key `k`, if any. -/
def find (t : Table ρ) (k : Int) : Option ρ :=
  t.rows.find? fun r => Row.key r == k

lemma find_eq_some_iff : t.find k = some r ↔ r ∈ t ∧ Row.key r = k := by
  constructor
  · intro h
    have hk := List.find?_some h
    exact ⟨mem_of_find?_eq_some h, by simpa using hk⟩
  · rintro ⟨hr, hk⟩
    cases hf : t.find k with
    | none =>
      have := List.find?_eq_none.mp hf r hr
      simp [hk] at this
    | some r' =>
      have hr' := mem_of_find?_eq_some hf
      have hk' := List.find?_some hf
      rw [eq_of_key_eq hr hr' (by rw [hk]; simpa using (beq_iff_eq.mp hk').symm)]

/-- The first row that satisfies `p`, if any. -/
def findBy (t : Table ρ) (p : ρ → Bool) : Option ρ :=
  t.rows.find? p

lemma findBy_eq_some (h : t.findBy p = some r) : r ∈ t ∧ p r = true :=
  ⟨mem_of_find?_eq_some h, List.find?_some h⟩

/-- Every row of the table satisfies `P`. -/
def All (P : ρ → Prop) (t : Table ρ) : Prop := ∀ r ∈ t, P r

lemma All.of_find (h : t.All P) (hf : t.find k = some r) : P r := h r (find_eq_some_iff.mp hf).1

/-! ### Updates -/

@[ext] lemma ext {t' : Table ρ} (hrows : t.rows = t'.rows) (hnext : t.next = t'.next) : t = t' := by
  cases t'
  subst hrows hnext
  rfl

/-- `UPDATE ... SET f WHERE p`. The key column is never written. -/
def modifyWhere (t : Table ρ) (p : ρ → Bool) (f : ρ → ρ) : Table ρ where
  rows := t.rows.map fun r => if p r then Row.withKey (Row.key r) (f r) else r
  next := t.next
  nodup := by
    have : (t.rows.map fun r => if p r then Row.withKey (Row.key r) (f r) else r).map Row.key
        = t.rows.map Row.key := by
      rw [map_map]
      apply map_congr_left
      intro r _
      simp only [Function.comp_apply]
      split_ifs <;> simp
    rw [this]
    exact t.nodup
  fresh := by
    intro r hr
    obtain ⟨r₀, hr₀, rfl⟩ := mem_map.mp hr
    have := t.fresh r₀ hr₀
    split_ifs <;> simpa using this

lemma mem_modifyWhere :
    r ∈ t.modifyWhere p f ↔
      ∃ r₀ ∈ t, (if p r₀ then Row.withKey (Row.key r₀) (f r₀) else r₀) = r := by
  simp [mem_def, modifyWhere]

lemma find_modifyWhere (t : Table ρ) (p : ρ → Bool) (f : ρ → ρ) (k : Int) :
    (t.modifyWhere p f).find k =
      (t.find k).map fun r => if p r then Row.withKey (Row.key r) (f r) else r := by
  simp only [find, modifyWhere, List.find?_map]
  congr 2
  funext r
  simp only [Function.comp_apply]
  split_ifs <;> simp

lemma All.modifyWhere (h : t.All P)
    (hf : ∀ r, P r → p r = true → P (Row.withKey (Row.key r) (f r))) :
    (t.modifyWhere p f).All P := by
  intro r hr
  obtain ⟨r₀, hr₀, rfl⟩ := mem_modifyWhere.mp hr
  split_ifs with hp
  · exact hf r₀ (h r₀ hr₀) hp
  · exact h r₀ hr₀

lemma modifyWhere_congr (t : Table ρ) {q : ρ → Bool} {g : ρ → ρ}
    (hrow : ∀ r, (if p r then Row.withKey (Row.key r) (f r) else r) =
      if q r then Row.withKey (Row.key r) (g r) else r) :
    t.modifyWhere p f = t.modifyWhere q g := by
  apply Table.ext
  · apply map_congr_left
    intro r _
    exact hrow r
  · rfl

/-- An update that changes no row. -/
lemma modifyWhere_eq_self (h : ∀ r ∈ t, p r = true → Row.withKey (Row.key r) (f r) = r) :
    t.modifyWhere p f = t := by
  apply Table.ext
  · conv_rhs => rw [← map_id t.rows]
    apply map_congr_left
    intro r hr
    split_ifs with hp
    · exact h r hr hp
    · rfl
  · rfl

lemma modifyWhere_modifyWhere (t : Table ρ) {g h : ρ → ρ} (hf : ∀ r, Row.key (f r) = Row.key r)
    (hrow : ∀ r, g (f r) = h r) :
    (t.modifyWhere (fun _ => true) f).modifyWhere (fun _ => true) g =
      t.modifyWhere (fun _ => true) h := by
  have hkeep : ∀ r, Row.withKey (Row.key r) (f r) = f r := by
    intro r
    rw [← hf r, Row.withKey_key]
  apply Table.ext
  · simp only [modifyWhere, map_map]
    apply map_congr_left
    intro r _
    simp [hkeep, hf, hrow]
  · rfl

/-- `UPDATE ... SET f WHERE id = k`. -/
def modify (t : Table ρ) (k : Int) (f : ρ → ρ) : Table ρ :=
  t.modifyWhere (fun r => Row.key r == k) f

lemma mem_modify :
    r ∈ t.modify k f ↔ ∃ r₀ ∈ t, (if Row.key r₀ = k then Row.withKey k (f r₀) else r₀) = r := by
  simp only [modify, mem_modifyWhere, beq_iff_eq]
  constructor
  · rintro ⟨r₀, hr₀, rfl⟩
    refine ⟨r₀, hr₀, ?_⟩
    split_ifs with h <;> simp [h]
  · rintro ⟨r₀, hr₀, rfl⟩
    refine ⟨r₀, hr₀, ?_⟩
    split_ifs with h <;> simp [h]

/-- An update of a key that no row has changes nothing. -/
lemma modify_eq_self_of_find_eq_none (f : ρ → ρ) (h : t.find k = none) : t.modify k f = t := by
  apply modifyWhere_eq_self
  intro r hr hk
  exact absurd hk (List.find?_eq_none.mp h r hr)

/-- An update of other columns than the key reaches the row with the key and no other one. -/
lemma find_modify (t : Table ρ) (k : Int) (hf : ∀ r, Row.key (f r) = Row.key r) (k' : Int) :
    (t.modify k f).find k' = if k' = k then (t.find k').map f else t.find k' := by
  have hkeep : ∀ r, Row.withKey (Row.key r) (f r) = f r := by
    intro r
    rw [← hf r, Row.withKey_key]
  rw [modify, find_modifyWhere]
  cases h : t.find k' with
  | none => simp
  | some r =>
    have hr : Row.key r = k' := (find_eq_some_iff.mp h).2
    by_cases hk : k' = k <;> simp [hr, hk, hkeep]

/-- An update that a second one takes back leaves the table as it was. -/
lemma modify_modify_cancel (t : Table ρ) (k : Int) (f g : ρ → ρ)
    (hkey : ∀ r, Row.key (f r) = Row.key r) (hg : ∀ r, g (f r) = r) :
    (t.modify k f).modify k g = t := by
  apply Table.ext
  · simp only [modify, modifyWhere, map_map]
    conv_rhs => rw [← map_id t.rows]
    apply map_congr_left
    intro r _
    have hf : Row.withKey (Row.key r) (f r) = f r := by
      conv_lhs => rw [← hkey r]
      exact Row.withKey_key (f r)
    simp only [Function.comp_apply, hf]
    by_cases h : Row.key r = k
    · subst h
      simp [hkey, hg]
    · simp [h]
  · rfl

/-- Save a whole row over the stored row with its key. -/
def save (t : Table ρ) (r : ρ) : Table ρ :=
  t.modify (Row.key r) fun _ => r

/-- A saved table holds the saved row in the place of the old one, and nothing else new. -/
lemma mem_save :
    x ∈ t.save r ↔
      (x ∈ t ∧ Row.key x ≠ Row.key r) ∨ (x = r ∧ ∃ r₀ ∈ t, Row.key r₀ = Row.key r) := by
  simp only [save, mem_modify, Row.withKey_key]
  constructor
  · rintro ⟨r₀, hr₀, rfl⟩
    split_ifs with h
    · exact Or.inr ⟨rfl, r₀, hr₀, h⟩
    · exact Or.inl ⟨hr₀, h⟩
  · rintro (⟨hx, hne⟩ | ⟨rfl, r₀, hr₀, hk⟩)
    · exact ⟨x, hx, by simp [hne]⟩
    · exact ⟨r₀, hr₀, by simp [hk]⟩

lemma All.save (h : t.All P) (hr : P r) : (t.save r).All P := by
  intro x hx
  rcases mem_save.mp hx with ⟨hx, -⟩ | ⟨rfl, -⟩
  · exact h x hx
  · exact hr

/-- Saving a row that the table holds changes nothing. -/
lemma save_eq_self (h : r ∈ t) : t.save r = t := by
  apply modifyWhere_eq_self
  intro x hx hk
  simp [eq_of_key_eq hx h (beq_iff_eq.mp hk)]

/-- Of two rows saved under one key the second stays. -/
lemma save_save {r' : ρ} (h : Row.key r = Row.key r') : (t.save r).save r' = t.save r' := by
  apply Table.ext
  · simp only [save, modify, modifyWhere, map_map]
    apply map_congr_left
    intro x _
    by_cases hk : Row.key x = Row.key r'
    · simp [h, hk]
    · simp [h, hk]
  · rfl

lemma find_save_self {r₀ : ρ} (h : t.find (Row.key r) = some r₀) :
    (t.save r).find (Row.key r) = some r := by
  obtain ⟨hr₀, hk⟩ := find_eq_some_iff.mp h
  exact find_eq_some_iff.mpr ⟨mem_save.mpr (Or.inr ⟨rfl, r₀, hr₀, hk⟩), rfl⟩

lemma find_save_of_ne (h : k ≠ Row.key r) : (t.save r).find k = t.find k := by
  ext x
  simp only [find_eq_some_iff, mem_save]
  constructor
  · rintro ⟨⟨hx, -⟩ | ⟨rfl, -⟩, hk⟩
    · exact ⟨hx, hk⟩
    · exact absurd hk.symm h
  · rintro ⟨hx, hk⟩
    exact ⟨Or.inl ⟨hx, by rw [hk]; exact h⟩, hk⟩

/-- The first row with a property is found again after it is saved with the property. -/
lemma findBy_save_self {r₀ : ρ} (h : t.findBy p = some r₀) (hk : Row.key r = Row.key r₀)
    (hp : p r = true) : (t.save r).findBy p = some r := by
  obtain ⟨hp₀, as, bs, hrows, has⟩ := List.find?_eq_some_iff_append.mp h
  have hnodup := t.nodup
  rw [hrows, map_append, nodup_append] at hnodup
  have hbefore : ∀ x ∈ as, Row.key x ≠ Row.key r := by
    intro x hx
    rw [hk]
    exact hnodup.2.2 _ (mem_map_of_mem hx) _ (by simp)
  have hsame : as.map (fun x => if Row.key x == Row.key r then Row.withKey (Row.key x) r else x)
      = as := by
    conv_rhs => rw [← map_id as]
    apply map_congr_left
    intro x hx
    simp [hbefore x hx]
  apply List.find?_eq_some_iff_append.mpr
  refine ⟨hp, as, bs.map fun x => if Row.key x == Row.key r then Row.withKey (Row.key x) r else x,
    ?_, has⟩
  simp only [save, modify, modifyWhere, hrows, map_append, map_cons, hsame, ← hk,
    beq_self_eq_true, if_true, Row.withKey_key]

/-- `INSERT ... ON CONFLICT (id) DO UPDATE` with a row that has a key. -/
def upsert (t : Table ρ) (r : ρ) : Table ρ :=
  if h : t.find (Row.key r) = none then
    { rows := t.rows ++ [r]
      next := max t.next (Row.key r + 1)
      nodup := by
        rw [map_append, nodup_append]
        refine ⟨t.nodup, by simp, ?_⟩
        rintro k hk k' hk' rfl
        obtain ⟨r₀, hr₀, rfl⟩ := mem_map.mp hk
        obtain hkey : Row.key r₀ = Row.key r := by simpa using hk'
        exact absurd (find_eq_some_iff.mpr ⟨hr₀, hkey⟩) (by simp [h])
      fresh := by
        intro x hx
        rcases mem_append.mp hx with hx | hx
        · have := t.fresh x hx
          omega
        · rw [mem_singleton.mp hx]
          omega }
  else t.save r

lemma mem_upsert : x ∈ t.upsert r ↔ (x ∈ t ∧ Row.key x ≠ Row.key r) ∨ x = r := by
  rw [upsert]
  split_ifs with h
  · have hother : ∀ x ∈ t, Row.key x ≠ Row.key r := by
      intro x hx hkey
      rw [find_eq_some_iff.mpr ⟨hx, hkey⟩] at h
      cases h
    simp only [mem_def, mem_append, mem_singleton] at hother ⊢
    exact or_congr (iff_self_and.mpr (hother x)) Iff.rfl
  · obtain ⟨r₀, hr₀⟩ := Option.ne_none_iff_exists'.mp h
    obtain ⟨hmem, hkey⟩ := find_eq_some_iff.mp hr₀
    rw [mem_save]
    exact or_congr Iff.rfl (and_iff_left ⟨r₀, hmem, hkey⟩)

lemma next_le_upsert (t : Table ρ) (r : ρ) : t.next ≤ (t.upsert r).next := by
  rw [upsert]
  split_ifs
  · exact Int.le_max_left _ _
  · exact Int.le_refl _

/-- Insert a row under the next key. -/
def insert (t : Table ρ) (r : ρ) : Table ρ where
  rows := t.rows ++ [Row.withKey t.next r]
  next := t.next + 1
  nodup := by
    rw [map_append, nodup_append]
    refine ⟨t.nodup, nodup_singleton _, ?_⟩
    rintro k hk k' hk' rfl
    obtain ⟨r₀, hr₀, rfl⟩ := mem_map.mp hk
    simp only [map_cons, Row.key_withKey, map_nil, mem_singleton] at hk'
    exact absurd hk' (ne_of_lt (t.fresh r₀ hr₀))
  fresh := by
    intro x hx
    rcases mem_append.mp hx with hx | hx
    · exact Int.lt_trans (t.fresh x hx) (Int.lt_succ t.next)
    · rw [mem_singleton.mp hx, Row.key_withKey]
      exact Int.lt_succ t.next

lemma mem_insert : x ∈ t.insert r ↔ x ∈ t ∨ x = Row.withKey t.next r := by
  simp [mem_def, insert]

lemma All.insert (h : t.All P) (hr : P (Row.withKey t.next r)) : (t.insert r).All P := by
  intro x hx
  rcases mem_insert.mp hx with hx | rfl
  · exact h x hx
  · exact hr

/-- `DELETE ... WHERE id = k`. -/
def delete (t : Table ρ) (k : Int) : Table ρ where
  rows := t.rows.filter fun r => Row.key r != k
  next := t.next
  nodup := t.nodup.sublist (filter_sublist.map _)
  fresh r hr := t.fresh r (mem_of_mem_filter hr)

lemma mem_delete : x ∈ t.delete k ↔ x ∈ t ∧ Row.key x ≠ k := by
  simp [mem_def, delete]

lemma All.delete (h : t.All P) : (t.delete k).All P := fun x hx => h x (mem_delete.mp hx).1

/-- `DELETE ... WHERE p`. -/
def deleteWhere (t : Table ρ) (p : ρ → Bool) : Table ρ where
  rows := t.rows.filter fun r => !p r
  next := t.next
  nodup := t.nodup.sublist (filter_sublist.map _)
  fresh r hr := t.fresh r (mem_of_mem_filter hr)

lemma mem_deleteWhere : x ∈ t.deleteWhere p ↔ x ∈ t ∧ p x = false := by
  simp [mem_def, deleteWhere]

/-- `SELECT ... WHERE p ORDER BY le`. -/
def select (t : Table ρ) (p : ρ → Bool) (le : ρ → ρ → Prop) [DecidableRel le] : List ρ :=
  (t.rows.filter p).insertionSort le

lemma mem_select [DecidableRel le] : r ∈ t.select p le ↔ r ∈ t ∧ p r = true := by
  simp [select, mem_def]

/-- A selection holds each row once. -/
lemma nodup_key_select [DecidableRel le] : ((t.select p le).map Row.key).Nodup := by
  have hperm : ((t.select p le).map Row.key).Perm ((t.rows.filter p).map Row.key) :=
    (perm_insertionSort le _).map _
  rw [hperm.nodup_iff]
  exact t.nodup.sublist (filter_sublist.map _)

end Table
