import XinghaiApi.Model.ChannelUpdate

/-!
# Abilities as a mirror of channels

The abilities repeat the status, the disabled models, the priority, the weight and the tag of the
channels, so that a channel can be selected from them alone. Operations that write the rows of a
channel anew keep the mirror, up to pairs that `AddAbilities` takes for one another. Operations that
switch all rows of a channel at once forget the models that are disabled on it.
-/

namespace XinghaiApi

open Machine Selection Text Abilities ChannelStore Ability

/-! ### The mirror -/

namespace Channel

/-- The rows of the channel say what the channel says. -/
def MirroredIn (abilities : Abilities) (c : Channel) : Prop :=
  ∀ group ∈ split ',' c.group, ∀ model ∈ split ',' c.models,
    ∃ a ∈ abilities.find (group, model, c.id),
      (a.enabled = true ↔ c.status = .enabled ∧ model ∉ c.getDisabledModelSet) ∧
        a.priority = c.getPriority ∧ a.weight = c.getWeight ∧ a.tag = c.tag

/-- `AddAbilities` tells the pairs of the channel apart. -/
def DistinctPairs (c : Channel) : Prop := ∀ pair ∈ c.abilityPairs, c.HasAbility pair.1 pair.2

def NoneDisabled (c : Channel) : Prop := ∀ model ∈ split ',' c.models, model ∉ c.getDisabledModelSet

instance (abilities : Abilities) (c : Channel) : Decidable (c.MirroredIn abilities) :=
  inferInstanceAs (Decidable (∀ group ∈ _, ∀ model ∈ _, ∃ a ∈ abilities.find _, _))

instance (c : Channel) : Decidable c.DistinctPairs :=
  inferInstanceAs (Decidable (∀ pair ∈ _, _))

instance (c : Channel) : Decidable c.NoneDisabled := inferInstanceAs (Decidable (∀ model ∈ _, _))

end Channel

namespace ChannelStore

/-- For every channel and every group and model it names, there is a row that says what the channel
says. -/
def Mirrored (s : ChannelStore) : Prop := ∀ c ∈ s.channels, c.MirroredIn s.abilities

instance (s : ChannelStore) : Decidable s.Mirrored :=
  inferInstanceAs (Decidable (∀ c ∈ s.channels.rows, _))

/-- Ids are given by the database, from 1 on. -/
structure Assigned (s : ChannelStore) : Prop where
  next_pos : 0 < s.channels.next
  id_pos : s.channels.All fun c => 0 < c.id
  /-- no row is there for a channel to come -/
  row_lt : ∀ a ∈ s.abilities, a.channelId < s.channels.next

structure Consistent (s : ChannelStore) : Prop extends Assigned s where
  mirrored : s.Mirrored

/-! ### The condition under which an operation keeps the mirror -/

section

variable (unmarshal : String → Option (List String))

/-- What switches on all rows of the backup of a channel. -/
def KeepsBackup (channel : Channel) (s : ChannelStore) : Prop :=
  ∀ backup ∈ s.backupOf channel, backup.NoneDisabled

/-- `UpdateChannelStatus` writes the rows of a channel that it enables anew, and activates the
backup of a channel that it leaves disabled. -/
def KeepsStatus (now id : ℤ) (usingKey : String) (status : ChannelStatus) (reason : String)
    (s : ChannelStore) : Prop :=
  ∀ channel ∈ s.channels.find id, channel.status ≠ status →
    let updated := switched unmarshal now usingKey status reason channel
    if status = .enabled then channel.status = updated.status ∨ channel.DistinctPairs
    else updated.status = .enabled ∨ s.KeepsBackup updated

/-- `UpdateMultiKeyStatus` switches all rows of a channel when its status changes. -/
def KeepsKeyStatus (now id keyIndex : ℤ) (status : ChannelStatus) (reason : String)
    (s : ChannelStore) : Prop :=
  ∀ channel ∈ s.channels.find id, ∀ key ∈ keyAt unmarshal keyIndex channel,
    let updated := channel.handlerMultiKeyUpdate unmarshal now key status reason
    channel.status = updated.status ∨
      if status = .enabled then channel.NoneDisabled else s.KeepsBackup updated

/-- The cache lets a call through to the database. -/
def PassesCache (gate : MemoryCache → Option MemoryCache) (s : ChannelStore) : Prop :=
  ∀ cache ∈ s.memoryCache, (gate cache).isSome = true

def TagEdit.edited (edit : TagEdit) (tag : String) (c : Channel) : Channel :=
  if c.tag = some tag then edit.apply c else c

/-- The operation keeps the abilities a mirror of the channels. -/
def Keeps (s : ChannelStore) : Op → Prop
  | .insert c => (created c).DistinctPairs
  | .update patch => patch.id = 0 ∨
    match s.channels.find patch.id with
    | some c => (patch.apply unmarshal c).DistinctPairs
    | none   => patch.id < s.channels.next
  | .updateChannelStatus now id usingKey status reason =>
    s.PassesCache (cacheStatus unmarshal now id usingKey status reason) →
      s.KeepsStatus unmarshal now id usingKey status reason
  | .updateMultiKeyStatus now id keyIndex status reason =>
    s.PassesCache (cacheKeyStatus unmarshal now id keyIndex status reason) →
      s.KeepsKeyStatus unmarshal now id keyIndex status reason
  | .toggleChannelModelDisabled _ _ _ => True
  | .enableChannelByTag tag => ∀ c ∈ s.channels, c.tag = some tag → c.NoneDisabled
  | .disableChannelByTag _ => True
  | .editChannelByTag tag edit =>
    if edit.shouldReCreateAbilities then
      ∀ c ∈ s.channels, (edit.edited tag c).tag = some (edit.updatedTag tag) →
        (edit.edited tag c).DistinctPairs
    -- the channels get a weight of zero, their abilities do not
    else edit.weight = some 0 → ∀ c ∈ s.channels, c.tag = some tag → c.getWeight = 0
  | .activateBackupChannel _ channel => s.KeepsBackup channel
  | .initChannelCache => True

instance (channel : Channel) (s : ChannelStore) : Decidable (s.KeepsBackup channel) :=
  inferInstanceAs (Decidable (∀ backup ∈ s.backupOf channel, _))

instance (now id : ℤ) (usingKey : String) (status : ChannelStatus) (reason : String)
    (s : ChannelStore) : Decidable (s.KeepsStatus unmarshal now id usingKey status reason) :=
  inferInstanceAs (Decidable (∀ channel ∈ s.channels.find id, channel.status ≠ status →
    if status = .enabled then _ else _))

instance (now id keyIndex : ℤ) (status : ChannelStatus) (reason : String) (s : ChannelStore) :
    Decidable (s.KeepsKeyStatus unmarshal now id keyIndex status reason) :=
  inferInstanceAs (Decidable (∀ channel ∈ s.channels.find id,
    ∀ key ∈ keyAt unmarshal keyIndex channel, _ ∨ if status = .enabled then _ else _))

instance (gate : MemoryCache → Option MemoryCache) (s : ChannelStore) :
    Decidable (s.PassesCache gate) :=
  inferInstanceAs (Decidable (∀ cache ∈ s.memoryCache, _))

instance (s : ChannelStore) : ∀ op, Decidable (s.Keeps unmarshal op)
  | .insert c => inferInstanceAs (Decidable (created c).DistinctPairs)
  | .update patch =>
    match h : s.channels.find patch.id with
    | some c => decidable_of_iff (patch.id = 0 ∨ (patch.apply unmarshal c).DistinctPairs)
      (by simp [Keeps, h])
    | none => decidable_of_iff (patch.id = 0 ∨ patch.id < s.channels.next) (by simp [Keeps, h])
  | .updateChannelStatus _ _ _ _ _ => inferInstanceAs (Decidable (s.PassesCache _ → _))
  | .updateMultiKeyStatus _ _ _ _ _ => inferInstanceAs (Decidable (s.PassesCache _ → _))
  | .toggleChannelModelDisabled _ _ _ => .isTrue trivial
  | .enableChannelByTag _ => inferInstanceAs (Decidable (∀ c ∈ s.channels.rows, _ → _))
  | .disableChannelByTag _ => .isTrue trivial
  | .editChannelByTag tag edit =>
    inferInstanceAs (Decidable (if edit.shouldReCreateAbilities then
      ∀ c ∈ s.channels.rows, (edit.edited tag c).tag = some (edit.updatedTag tag) →
        (edit.edited tag c).DistinctPairs
      else edit.weight = some 0 → ∀ c ∈ s.channels.rows, c.tag = some tag → c.getWeight = 0))
  | .activateBackupChannel _ _ => inferInstanceAs (Decidable (s.KeepsBackup _))
  | .initChannelCache => .isTrue trivial

end

end ChannelStore

/-! ### Rows -/

section

variable {abilities abilities' : Abilities} {c c' : Channel} {group model : String} {id : ℤ}

lemma Abilities.fields_of_find {a : Ability} (h : abilities.find (group, model, id) = some a) :
    a.group = group ∧ a.model = model ∧ a.channelId = id := by
  simpa [primaryKey] using (Keyed.find_eq_some_iff.mp h).2

lemma Channel.mirroredIn_iff : c.MirroredIn abilities ↔
    ∀ group ∈ split ',' c.group, ∀ model ∈ split ',' c.models,
      abilities.find (group, model, c.id) = some (c.ability (group, model)) := by
  refine forall₄_congr fun group _ model _ => ?_
  constructor
  · rintro ⟨a, ha, henabled, hpriority, hweight, htag⟩
    obtain ⟨rfl, rfl, hid⟩ := fields_of_find ha
    have hbool : a.enabled = decide (c.status = .enabled ∧ a.model ∉ c.getDisabledModelSet) := by
      rw [Bool.eq_iff_iff, henabled, decide_eq_true_iff]
    cases a
    simp_all [Channel.ability, Channel.getPriority]
  · intro ha
    exact ⟨_, ha, by simp [Channel.ability], rfl, rfl, rfl⟩

/-- The rows that `AddAbilities` creates, by their key. -/
lemma Channel.find?_addAbilities :
    c.addAbilities.find? (primaryKey · = (group, model, id)) =
      if id = c.id ∧ c.HasAbility group model then some (c.ability (group, model)) else none := by
  cases h : c.addAbilities.find? (primaryKey · = (group, model, id)) with
  | none =>
    rw [if_neg]
    rintro ⟨rfl, hhas⟩
    have hmem : c.ability (group, model) ∈ c.addAbilities :=
      Channel.mem_addAbilities.mpr ⟨group, model, hhas, rfl⟩
    exact List.find?_eq_none.mp h _ hmem (by simp [primaryKey, Channel.ability])
  | some a =>
    obtain ⟨group', model', hhas, rfl⟩ :=
      Channel.mem_addAbilities.mp (List.mem_of_find?_eq_some h)
    have hkey := List.find?_some h
    obtain ⟨rfl, rfl, rfl⟩ : group' = group ∧ model' = model ∧ c.id = id := by
      simpa [primaryKey, Channel.ability] using hkey
    rw [if_pos ⟨rfl, hhas⟩]

namespace Abilities

lemma find_updateAbilities :
    (abilities.updateAbilities c).find (group, model, id) =
      if id = c.id then
        if c.HasAbility group model then some (c.ability (group, model)) else none
      else abilities.find (group, model, id) := by
  rw [updateAbilities, Keyed.find_insertAll, Keyed.find_deleteWhere, Channel.find?_addAbilities]
  cases h : abilities.find (group, model, id) with
  | none => by_cases hid : id = c.id <;> simp [hid]
  | some a =>
    obtain ⟨-, -, rfl⟩ := fields_of_find h
    by_cases hid : a.channelId = c.id <;> simp [Option.filter, hid]

lemma find_updateEnabled {p : Ability → Bool} {enabled : Bool} {k : String × String × ℤ} :
    (abilities.updateEnabled p enabled).find k =
      (abilities.find k).map fun a => if p a then { a with enabled := enabled } else a :=
  Keyed.find_updateWhere _ _ _ _ _

lemma find_updateAbilityStatus {status : Bool} {id' : ℤ} :
    (abilities.updateAbilityStatus id' status).find (group, model, id) =
      if id = id' then (abilities.find (group, model, id)).map fun a => { a with enabled := status }
      else abilities.find (group, model, id) := by
  rw [updateAbilityStatus, find_updateEnabled]
  cases h : abilities.find (group, model, id) with
  | none => simp
  | some a =>
    obtain ⟨-, -, rfl⟩ := fields_of_find h
    by_cases hid : a.channelId = id' <;> simp [hid]

end Abilities

/-- Rows that are written anew mirror the channel if its pairs are told apart. -/
lemma Channel.mirroredIn_of_find (hrows : ∀ group model, abilities.find (group, model, c.id) =
      if c.HasAbility group model then some (c.ability (group, model)) else none) :
    c.MirroredIn abilities ↔ c.DistinctPairs := by
  simp only [Channel.mirroredIn_iff, hrows, DistinctPairs, Prod.forall, Channel.mem_abilityPairs]
  constructor
  · rintro h group model ⟨hgroup, hmodel⟩
    simpa using h group hgroup model hmodel
  · intro h group hgroup model hmodel
    rw [if_pos (h group model ⟨hgroup, hmodel⟩)]

lemma Channel.mirroredIn_updateAbilities :
    c.MirroredIn (abilities.updateAbilities c) ↔ c.DistinctPairs := by
  apply mirroredIn_of_find
  intro group model
  rw [find_updateAbilities, if_pos rfl]

/-- The channels agree in what the abilities repeat, up to the status. -/
structure Channel.SameListing (c c' : Channel) : Prop where
  id : c'.id = c.id
  models : c'.models = c.models
  group : c'.group = c.group
  disabledModels : c'.disabledModels = c.disabledModels
  priority : c'.priority = c.priority
  weight : c'.weight = c.weight
  tag : c'.tag = c.tag

namespace Channel

lemma SameListing.getDisabledModelSet (h : c.SameListing c') :
    c'.getDisabledModelSet = c.getDisabledModelSet := by
  rw [Channel.getDisabledModelSet, h.disabledModels]
  rfl

lemma SameListing.ability (h : c.SameListing c') (group model : String) :
    c'.ability (group, model) = { c.ability (group, model) with
      enabled := decide (c'.status = .enabled ∧ model ∉ c.getDisabledModelSet) } := by
  simp [Channel.ability, Channel.getWeight, h.id, h.priority, h.weight, h.tag,
    h.getDisabledModelSet]

lemma SameListing.mirroredIn_iff (h : c.SameListing c') (hstatus : c'.status = c.status) :
    c'.MirroredIn abilities ↔ c.MirroredIn abilities := by
  have hability : ∀ group model, c'.ability (group, model) = c.ability (group, model) := by
    intro group model
    rw [h.ability, hstatus]
    rfl
  simp only [Channel.mirroredIn_iff, h.group, h.models, h.id, hability]

/-- All rows of the channel are switched. -/
def SwitchedIn (enabled : Bool) (abilities abilities' : Abilities) (c : Channel) : Prop :=
  ∀ group ∈ split ',' c.group, ∀ model ∈ split ',' c.models,
    abilities'.find (group, model, c.id) =
      (abilities.find (group, model, c.id)).map fun a => { a with enabled := enabled }

section

variable (h : c.SameListing c') (hm : c.MirroredIn abilities)

include h hm

/-- Rows that are all switched mirror the channel if each model should be switched so. -/
lemma SameListing.mirroredIn_switch {enabled : Bool}
    (hrows : c.SwitchedIn enabled abilities abilities') :
    c'.MirroredIn abilities' ↔ ∀ model ∈ split ',' c.models,
      (enabled = true ↔ c'.status = .enabled ∧ model ∉ c.getDisabledModelSet) := by
  rw [Channel.mirroredIn_iff] at hm ⊢
  obtain ⟨group₀, hgroup₀⟩ := List.exists_mem_of_ne_nil _ (split_ne_nil ',' c.group)
  have hrow : ∀ group ∈ split ',' c.group, ∀ model ∈ split ',' c.models,
      (abilities'.find (group, model, c'.id) = some (c'.ability (group, model)) ↔
        (enabled = true ↔ c'.status = .enabled ∧ model ∉ c.getDisabledModelSet)) := by
    intro group hgroup model hmodel
    rw [h.id, hrows group hgroup model hmodel, hm group hgroup model hmodel, h.ability,
      Option.map_some, Option.some.injEq, Ability.mk.injEq, Bool.eq_iff_iff]
    simp
  rw [h.group, h.models]
  constructor
  · intro hall model hmodel
    exact (hrow group₀ hgroup₀ model hmodel).mp (hall group₀ hgroup₀ model hmodel)
  · intro hall group hgroup model hmodel
    exact (hrow group hgroup model hmodel).mpr (hall model hmodel)

lemma SameListing.mirroredIn_switchOn (hstatus : c'.status = .enabled)
    (hrows : c.SwitchedIn true abilities abilities') :
    c'.MirroredIn abilities' ↔ c.NoneDisabled := by
  simp [h.mirroredIn_switch hm hrows, hstatus, NoneDisabled]

lemma SameListing.mirroredIn_switchOff (hstatus : c'.status ≠ .enabled)
    (hrows : c.SwitchedIn false abilities abilities') : c'.MirroredIn abilities' := by
  simp [h.mirroredIn_switch hm hrows, hstatus]

end

/-! ### What the updates of a status keep -/

variable {unmarshal : String → Option (List String)} {now : ℤ} {usingKey reason : String}
  {status : ChannelStatus}

lemma sameListing_withStatus : c.SameListing (c.withStatus status) := by constructor <;> rfl

/-- The status of a key writes no other columns than these. -/
lemma exists_multiKeyUpdate : ∃ status' otherInfo channelInfo,
    c.handlerMultiKeyUpdate unmarshal now usingKey status reason =
      { c with status := status', otherInfo := otherInfo, channelInfo := channelInfo } := by
  unfold handlerMultiKeyUpdate
  split
  · exact ⟨_, _, _, rfl⟩
  · split
    · split
      · exact ⟨_, _, _, rfl⟩
      · exact ⟨_, _, _, rfl⟩
    · unfold setKeyStatus
      dsimp only
      split_ifs
      · exact ⟨_, _, _, rfl⟩
      · exact ⟨_, _, _, rfl⟩
      · exact ⟨_, _, _, rfl⟩

lemma exists_switched : ∃ status' otherInfo channelInfo,
    switched unmarshal now usingKey status reason c =
      { c with status := status', otherInfo := otherInfo, channelInfo := channelInfo } := by
  unfold switched
  split_ifs
  · exact exists_multiKeyUpdate
  · exact ⟨_, _, _, rfl⟩

lemma sameListing_multiKeyUpdate :
    c.SameListing (c.handlerMultiKeyUpdate unmarshal now usingKey status reason) := by
  obtain ⟨_, _, _, h⟩ : ∃ _ _ _, c.handlerMultiKeyUpdate unmarshal now usingKey status reason = _ :=
    exists_multiKeyUpdate
  rw [h]
  constructor <;> rfl

lemma sameListing_switched : c.SameListing (switched unmarshal now usingKey status reason c) := by
  unfold switched
  split_ifs
  · exact sameListing_multiKeyUpdate
  · constructor <;> rfl

lemma status_setKeyStatus_of_enabled {i : ℕ} (hi : i < (c.getKeys unmarshal).length) :
    (c.setKeyStatus unmarshal now i .enabled reason).status = .enabled := by
  have henabled : hasEnabledMultiKey (c.getKeys unmarshal)
      (c.channelInfo.setKeyStatus now i .enabled reason).multiKeyStatusList = true := by
    simp only [hasEnabledMultiKey, List.any_eq_true, List.mem_range]
    exact ⟨i, hi, by simp [ChannelInfo.setKeyStatus]⟩
  simp [setKeyStatus, henabled, withStatus]

lemma status_multiKeyUpdate_of_enabled :
    (c.handlerMultiKeyUpdate unmarshal now usingKey .enabled reason).status = c.status ∨
      (c.handlerMultiKeyUpdate unmarshal now usingKey .enabled reason).status = .enabled := by
  unfold handlerMultiKeyUpdate
  split
  · exact Or.inr rfl
  · split
    · split
      · exact Or.inl rfl
      · exact Or.inr rfl
    next i hi =>
      exact Or.inr (status_setKeyStatus_of_enabled (List.findIdx?_eq_some_iff_findIdx_eq.mp hi).1)

lemma status_multiKeyUpdate_of_ne (hstatus : status ≠ .enabled) :
    (c.handlerMultiKeyUpdate unmarshal now usingKey status reason).status = c.status ∨
      (c.handlerMultiKeyUpdate unmarshal now usingKey status reason).status ≠ .enabled := by
  unfold handlerMultiKeyUpdate
  split
  · exact Or.inr hstatus
  · split
    · split
      · exact Or.inl rfl
      · exact Or.inr hstatus
    · unfold setKeyStatus
      dsimp only
      split_ifs
      · exact Or.inl rfl
      · exact Or.inr (by simp [setStatus])

end Channel

end

/-! ### Stores -/

namespace ChannelStore

section

variable {s s' : ChannelStore} {k id now : ℤ} {c channel backup : Channel} {status : ChannelStatus}

def MirroredAt (s : ChannelStore) (k : ℤ) : Prop :=
  ∀ c ∈ s.channels.find k, c.MirroredIn s.abilities

lemma mirrored_iff_forall_mirroredAt : s.Mirrored ↔ ∀ k, s.MirroredAt k := by
  constructor
  · intro h k c hc
    exact h c (Table.find_eq_some_iff.mp hc).1
  · intro h c hc
    exact h c.id c (Table.find_eq_some_iff.mpr ⟨hc, rfl⟩)

/-- The mirror of a channel rests on its row and on its abilities. -/
lemma mirroredAt_congr (hc : s'.channels.find k = s.channels.find k) (hrows : ∀ group model,
      s'.abilities.find (group, model, k) = s.abilities.find (group, model, k)) :
    s'.MirroredAt k ↔ s.MirroredAt k := by
  unfold MirroredAt
  rw [hc]
  refine forall₂_congr fun c hmem => ?_
  have hid : c.id = k := (Table.find_eq_some_iff.mp hmem).2
  simp only [Channel.mirroredIn_iff, hid, hrows]

lemma saveWithoutKey_eq (h : 0 < c.id) :
    s.saveWithoutKey c =
      some { s with channels := s.channels.modify c.id fun old => { c with key := old.key } } := by
  rw [saveWithoutKey, if_neg (ne_of_gt h)]

/-- A saved channel takes the place of the one with its id. -/
lemma find_saveWithoutKey (h : s.saveWithoutKey c = some s')
    (hold : s.channels.find c.id = some channel) :
    s'.channels.find k =
      if k = c.id then some { c with key := channel.key } else s.channels.find k := by
  unfold saveWithoutKey at h
  split_ifs at h
  cases h
  show (s.channels.modify c.id _).find k = _
  rw [Table.modify, Table.find_modifyWhere]
  split_ifs with hk
  · subst hk
    have hid : Row.key channel = c.id := (Table.find_eq_some_iff.mp hold).2
    simp only [hold, Option.map_some, hid, beq_self_eq_true]
    rfl
  · cases hfind : s.channels.find k with
    | none => rfl
    | some d =>
      have hid : Row.key d = k := (Table.find_eq_some_iff.mp hfind).2
      simp [hid, hk]

lemma sameListing_key (key : String) : c.SameListing { c with key := key } := by
  constructor <;> rfl

/-! ### The backup of a channel -/

lemma backupOf_eq_some (h : s.backupOf channel = some backup) :
    s.channels.find backup.id = some backup ∧ 0 < backup.id ∧ backup.id ≠ channel.id ∧
      backup.status ≠ .enabled := by
  obtain ⟨backupId, -, h⟩ := Option.bind_eq_some_iff.mp h
  split_ifs at h with hid
  obtain ⟨b, hb, h⟩ := Option.bind_eq_some_iff.mp h
  split_ifs at h with hstatus
  cases h
  obtain ⟨-, rfl⟩ := Table.find_eq_some_iff.mp hb
  push Not at hid
  exact ⟨hb, hid.1, hid.2, hstatus⟩

/-- Which channel is the backup does not depend on the row of the channel itself. -/
lemma backupOf_congr (h : ∀ k, k ≠ channel.id → s'.channels.find k = s.channels.find k) :
    s'.backupOf channel = s.backupOf channel := by
  unfold backupOf
  congr 1
  funext backupId
  split_ifs with hid
  · rfl
  · push Not at hid
    rw [h backupId hid.2]

/-- An activated backup is enabled, with all its rows switched on. -/
lemma exists_activateBackup (now : ℤ) (h : s.backupOf channel = some backup) :
    ∃ enabled, backup.SameListing enabled ∧ enabled.status = .enabled ∧
      (∀ k, (s.activateBackupChannel now channel).channels.find k =
        if k = backup.id then some enabled else s.channels.find k) ∧
      (s.activateBackupChannel now channel).abilities =
        s.abilities.updateAbilityStatus backup.id true := by
  obtain ⟨hfind, hpos, -, -⟩ := backupOf_eq_some h
  refine ⟨backup.setStatus now .enabled s!"Activated as backup for channel #{channel.id}",
    by constructor <;> rfl, rfl, ?_, ?_⟩
  · intro k
    have hsave := saveWithoutKey_eq (s := s) (c := backup.setStatus now .enabled
      s!"Activated as backup for channel #{channel.id}") hpos
    have hk := find_saveWithoutKey (k := k) hsave hfind
    simp only [activateBackupChannel, h, hsave]
    exact hk
  · simp only [activateBackupChannel, h, saveWithoutKey_eq (c := backup.setStatus now
      .enabled s!"Activated as backup for channel #{channel.id}") hpos]
    rfl

/-- The activation leaves every channel but the backup. -/
lemma activateBackup_frame (now : ℤ) (hk : ∀ backup ∈ s.backupOf channel, backup.id ≠ k) :
    (s.activateBackupChannel now channel).channels.find k = s.channels.find k ∧
      ∀ group model, (s.activateBackupChannel now channel).abilities.find (group, model, k) =
        s.abilities.find (group, model, k) := by
  cases h : s.backupOf channel with
  | none => simp [activateBackupChannel, h]
  | some backup =>
    obtain ⟨enabled, -, -, hfind, hrows⟩ := exists_activateBackup now h
    have hne : k ≠ backup.id := Ne.symm (hk backup h)
    refine ⟨by rw [hfind, if_neg hne], fun group model => ?_⟩
    rw [hrows, find_updateAbilityStatus, if_neg hne]

lemma mirroredAt_activateBackup (hm : s.MirroredAt k) :
    (s.activateBackupChannel now channel).MirroredAt k ↔
      ∀ backup ∈ s.backupOf channel, backup.id = k → backup.NoneDisabled := by
  by_cases hk : ∃ backup ∈ s.backupOf channel, backup.id = k
  · obtain ⟨backup, h, rfl⟩ := hk
    obtain ⟨hold, -⟩ := backupOf_eq_some h
    obtain ⟨enabled, hsame, hstatus, hfind, hrows⟩ := exists_activateBackup now h
    simp only [MirroredAt, hfind, if_true, Option.mem_def, Option.some.injEq, forall_eq',
      Option.mem_def.mp h, true_implies]
    refine hsame.mirroredIn_switchOn (hm backup hold) hstatus fun group _ model _ => ?_
    rw [hrows, find_updateAbilityStatus, if_pos rfl]
  · push Not at hk
    obtain ⟨hfind, hrows⟩ := activateBackup_frame now hk
    rw [mirroredAt_congr hfind hrows]
    exact ⟨fun _ backup h hid => absurd hid (hk backup h), fun _ => hm⟩

lemma mirrored_activateBackup (hm : s.Mirrored) :
    (s.activateBackupChannel now channel).Mirrored ↔ s.KeepsBackup channel := by
  rw [mirrored_iff_forall_mirroredAt] at hm ⊢
  simp only [mirroredAt_activateBackup (hm _)]
  constructor
  · intro h backup hb
    exact h backup.id backup hb rfl
  · intro h k backup hb _
    exact h backup hb

/-! ### A channel that is saved, its backup and its rows -/

/-- What `f` does to the rows of one channel rests on these rows, and it leaves the others. -/
structure ActsOn (id : ℤ) (f : Abilities → Abilities) : Prop where
  frame : ∀ abilities group model k, k ≠ id →
    (f abilities).find (group, model, k) = abilities.find (group, model, k)
  own : ∀ abilities abilities' : Abilities,
    (∀ group model, abilities.find (group, model, id) = abilities'.find (group, model, id)) →
      ∀ group model, (f abilities).find (group, model, id) = (f abilities').find (group, model, id)

lemma actsOn_self (id : ℤ) : ActsOn id fun abilities => abilities where
  frame _ _ _ _ _ := rfl
  own _ _ h := h

lemma actsOn_updateAbilities (c : Channel) : ActsOn c.id (·.updateAbilities c) where
  frame _ _ _ _ hk := by rw [find_updateAbilities, if_neg hk]
  own _ _ _ _ _ := by simp only [find_updateAbilities, if_true]

lemma actsOn_updateAbilityStatus (id : ℤ) (enabled : Bool) :
    ActsOn id (·.updateAbilityStatus id enabled) where
  frame _ _ _ _ hk := by rw [find_updateAbilityStatus, if_neg hk]
  own _ _ h _ _ := by simp only [find_updateAbilityStatus, if_true, h]

lemma mirrored_saveWithoutKey {f : Abilities → Abilities} {p : Prop} [Decidable p] (now : ℤ)
    (hm : s.Mirrored) (hold : s.channels.find channel.id = some channel)
    (hid : c.id = channel.id) (hsave : s.saveWithoutKey c = some s') (hf : ActsOn c.id f) :
    ({ (if p then s'.activateBackupChannel now c else s') with
      abilities := f (if p then s'.activateBackupChannel now c else s').abilities }).Mirrored ↔
        c.MirroredIn (f s.abilities) ∧ (p → s.KeepsBackup c) := by
  have hfind := fun k => find_saveWithoutKey (k := k) hsave (hid.symm ▸ hold)
  have habilities : s'.abilities = s.abilities := by
    unfold saveWithoutKey at hsave
    split_ifs at hsave
    cases hsave
    rfl
  have hother : ∀ k, k ≠ c.id → s'.MirroredAt k := by
    intro k hk
    rw [mirroredAt_congr (s := s) (by rw [hfind, if_neg hk]) (by simp [habilities])]
    exact mirrored_iff_forall_mirroredAt.mp hm k
  have hbackup : s'.backupOf c = s.backupOf c :=
    backupOf_congr fun k hk => by rw [hfind, if_neg hk]
  have hne : ∀ backup ∈ s'.backupOf c, backup.id ≠ c.id :=
    fun backup hb => (backupOf_eq_some hb).2.2.1
  obtain ⟨hframe, hrows⟩ := activateBackup_frame now hne
  set s₂ := if p then s'.activateBackupChannel now c else s' with hs₂
  have hc : s₂.channels.find c.id = some { c with key := channel.key } := by
    have := hfind c.id
    rw [if_pos rfl] at this
    rw [hs₂]
    split_ifs
    · rw [hframe, this]
    · exact this
  have hown : ∀ group model, (f s₂.abilities).find (group, model, c.id) =
      (f s.abilities).find (group, model, c.id) := by
    apply hf.own
    intro group model
    rw [hs₂]
    split_ifs
    · rw [hrows, habilities]
    · rw [habilities]
  have hself : ({ s₂ with abilities := f s₂.abilities }).MirroredAt c.id ↔
      c.MirroredIn (f s.abilities) := by
    have hkey : ({ c with key := channel.key } : Channel).MirroredIn (f s₂.abilities) ↔
        c.MirroredIn (f s₂.abilities) := (sameListing_key channel.key).mirroredIn_iff rfl
    simp only [MirroredAt, hc, Option.mem_def, Option.some.injEq, forall_eq', hkey]
    simp only [Channel.mirroredIn_iff, hown]
  have hrest : ∀ k, k ≠ c.id → (({ s₂ with abilities := f s₂.abilities }).MirroredAt k ↔
      (p → ∀ backup ∈ s.backupOf c, backup.id = k → backup.NoneDisabled)) := by
    intro k hk
    have hframe : ({ s₂ with abilities := f s₂.abilities }).MirroredAt k ↔ s₂.MirroredAt k :=
      mirroredAt_congr rfl fun group model => hf.frame _ _ _ _ hk
    rw [hframe, hs₂]
    split_ifs with hp
    · rw [mirroredAt_activateBackup (hother k hk), hbackup]
      simp [hp]
    · simp [hp, hother k hk]
  rw [mirrored_iff_forall_mirroredAt]
  constructor
  · intro h
    refine ⟨hself.mp (h c.id), fun hp backup hb => ?_⟩
    have hne : backup.id ≠ c.id := hne backup (hbackup ▸ hb)
    exact (hrest backup.id hne).mp (h backup.id) hp backup hb rfl
  · rintro ⟨hc', hkeeps⟩ k
    by_cases hk : k = c.id
    · exact hk ▸ hself.mpr hc'
    · exact (hrest k hk).mpr fun hp backup hb _ => hkeeps hp backup hb

end

end ChannelStore

end XinghaiApi
