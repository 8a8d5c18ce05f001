import XinghaiApi.Model.AbilityMirror.Basic

/-!
# The mirror and the switches of a channel

What `UpdateChannelStatus`, `UpdateMultiKeyStatus` and `ToggleChannelModelDisabled` leave of the
mirror. The first writes the rows of a channel that it enables anew; the second switches them all.
-/

namespace XinghaiApi

open Machine Selection Text Channel Abilities

namespace ChannelStore

section

variable {s s' : ChannelStore} {k id now keyIndex : ℤ} {c c' channel : Channel}
  {status : ChannelStatus} {unmarshal : String → Option (List String)} {usingKey reason : String}

/-! ### The status of a channel and of its keys -/

/-- A channel with one key takes the status, so its rows are left alone only where the status of a
channel with several keys stays as it was. -/
lemma isMultiKey_and_status_eq_iff (h : channel.status ≠ status) :
    (channel.channelInfo.isMultiKey = true ∧
        channel.status = (switched unmarshal now usingKey status reason channel).status) ↔
      channel.status = (switched unmarshal now usingKey status reason channel).status := by
  refine and_iff_right_of_imp fun heq => ?_
  by_contra hsingle
  rw [switched, if_neg hsingle] at heq
  exact h heq

lemma status_switched_of_ne (hstatus : status ≠ .enabled) :
    (switched unmarshal now usingKey status reason c).status = c.status ∨
      (switched unmarshal now usingKey status reason c).status ≠ .enabled := by
  unfold switched
  split_ifs
  · exact status_multiKeyUpdate_of_ne hstatus
  · exact Or.inr hstatus

/-- What `UpdateChannelStatus` leaves in the rows of a channel. -/
def statusRows (channel updated : Channel) (status : ChannelStatus) (abilities : Abilities) :
    Abilities :=
  if channel.status = updated.status then abilities
  else if status = .enabled then abilities.updateAbilities updated
  else abilities.updateAbilityStatus updated.id false

lemma actsOn_statusRows : ActsOn c.id (statusRows channel c status) := by
  unfold statusRows
  split_ifs
  · exact actsOn_self c.id
  · exact actsOn_updateAbilities c
  · exact actsOn_updateAbilityStatus c.id false

lemma storeStatus_eq (hfind : s.channels.find id = some channel) (hne : channel.status ≠ status)
    (hsave : s.saveWithoutKey (switched unmarshal now usingKey status reason channel) = some s') :
    let updated := switched unmarshal now usingKey status reason channel
    let s₂ := if status ≠ .enabled ∧ updated.status ≠ .enabled then
      s'.activateBackupChannel now updated else s'
    (s.storeStatus unmarshal now id usingKey status reason).1 =
      { s₂ with abilities := statusRows channel updated status s₂.abilities } := by
  intro updated s₂
  simp only [storeStatus, hfind, if_neg hne, hsave, isMultiKey_and_status_eq_iff hne]
  show (if channel.status = updated.status then s₂ else s₂.deferAbilities status updated) = _
  unfold statusRows deferAbilities
  split_ifs <;> rfl

/-- Only a channel that is enabled has its rows written anew. -/
lemma mirroredIn_statusRows (hm : channel.MirroredIn s.abilities) (hsame : channel.SameListing c)
    (hc : status ≠ .enabled → c.status = channel.status ∨ c.status ≠ .enabled) :
    c.MirroredIn (statusRows channel c status s.abilities) ↔
      (status = .enabled → channel.status = c.status ∨ channel.DistinctPairs) := by
  unfold statusRows
  split_ifs with hkept hstatus
  · simp [hkept, hsame.mirroredIn_iff hkept.symm, hm]
  · simp [hstatus, hkept, mirroredIn_updateAbilities, DistinctPairs,
      HasAbility, abilityPairs, hsame.models, hsame.group]
  · have hoff : c.status ≠ .enabled := (hc hstatus).resolve_left (Ne.symm hkept)
    simp only [hstatus, false_implies, iff_true]
    refine hsame.mirroredIn_switchOff hm hoff fun group _ model _ => ?_
    rw [find_updateAbilityStatus, hsame.id, if_pos rfl]

lemma mirrored_storeStatus (h : s.Consistent) :
    (s.storeStatus unmarshal now id usingKey status reason).1.Mirrored ↔
      s.KeepsStatus unmarshal now id usingKey status reason := by
  cases hfind : s.channels.find id with
  | none => simp [storeStatus, KeepsStatus, hfind, h.mirrored]
  | some channel =>
    obtain ⟨hmem, rfl⟩ : channel ∈ s.channels ∧ channel.id = id := Table.find_eq_some_iff.mp hfind
    by_cases hstatus : channel.status = status
    · simp [storeStatus, KeepsStatus, hfind, hstatus, h.mirrored]
    have hsame : channel.SameListing (switched unmarshal now usingKey status reason channel) :=
      sameListing_switched
    have hsave := saveWithoutKey_eq (s := s) (by rw [hsame.id]; exact h.id_pos channel hmem)
    rw [storeStatus_eq hfind hstatus hsave,
      mirrored_saveWithoutKey now h.mirrored hfind hsame.id hsave actsOn_statusRows,
      mirroredIn_statusRows (h.mirrored channel hmem) hsame status_switched_of_ne]
    simp only [KeepsStatus, hfind, Option.mem_def, Option.some.injEq, forall_eq', ne_eq, hstatus,
      not_false_eq_true, true_implies]
    by_cases henabled : status = .enabled
    · simp [henabled]
    · simp [henabled, or_iff_not_imp_left]

/-- What `UpdateMultiKeyStatus` leaves in the rows of a channel. -/
def keyStatusRows (channel updated : Channel) (status : ChannelStatus) (abilities : Abilities) :
    Abilities :=
  if channel.status = updated.status then abilities
  else abilities.updateAbilityStatus updated.id (status = .enabled)

lemma actsOn_keyStatusRows : ActsOn c.id (keyStatusRows channel c status) := by
  unfold keyStatusRows
  split_ifs
  · exact actsOn_self c.id
  · exact actsOn_updateAbilityStatus c.id _

lemma storeKeyStatus_eq {key : String} (hfind : s.channels.find id = some channel)
    (hkey : keyAt unmarshal keyIndex channel = some key)
    (hsave : s.saveWithoutKey (channel.handlerMultiKeyUpdate unmarshal now key status reason) =
      some s') :
    let updated := channel.handlerMultiKeyUpdate unmarshal now key status reason
    let s₂ := if channel.status ≠ updated.status ∧ updated.status ≠ .enabled then
      s'.activateBackupChannel now updated else s'
    (s.storeKeyStatus unmarshal now id keyIndex status reason).1 =
      { s₂ with abilities := keyStatusRows channel updated status s₂.abilities } := by
  intro updated s₂
  have hid : updated.id = id :=
    (sameListing_multiKeyUpdate.id).trans (Table.find_eq_some_iff.mp hfind).2
  simp only [storeKeyStatus, hfind, hkey, hsave]
  show (if channel.status = updated.status then s₂ else
    { s₂ with abilities := s₂.abilities.updateAbilityStatus id (status = .enabled) }) = _
  unfold keyStatusRows
  rw [hid]
  split_ifs <;> rfl

/-- A change of the status switches all rows, also those of disabled models. -/
lemma mirroredIn_keyStatusRows (hm : channel.MirroredIn s.abilities) (hsame : channel.SameListing c)
    (hon : status = .enabled → c.status = channel.status ∨ c.status = .enabled)
    (hoff : status ≠ .enabled → c.status = channel.status ∨ c.status ≠ .enabled) :
    c.MirroredIn (keyStatusRows channel c status s.abilities) ↔
      (status = .enabled → channel.status = c.status ∨ channel.NoneDisabled) := by
  unfold keyStatusRows
  split_ifs with hkept
  · simp [hkept, hsame.mirroredIn_iff hkept.symm, hm]
  · have hrows : channel.SwitchedIn (status = .enabled) s.abilities
        (s.abilities.updateAbilityStatus c.id (status = .enabled)) := by
      intro group _ model _
      rw [find_updateAbilityStatus, hsame.id, if_pos rfl]
    by_cases hstatus : status = .enabled
    · simp only [hstatus] at hrows
      simp only [hstatus, true_implies, hkept, false_or]
      exact hsame.mirroredIn_switchOn hm ((hon hstatus).resolve_left (Ne.symm hkept)) hrows
    · simp only [hstatus] at hrows
      simp only [hstatus, false_implies, iff_true]
      exact hsame.mirroredIn_switchOff hm ((hoff hstatus).resolve_left (Ne.symm hkept)) hrows

lemma mirrored_storeKeyStatus (h : s.Consistent) :
    (s.storeKeyStatus unmarshal now id keyIndex status reason).1.Mirrored ↔
      s.KeepsKeyStatus unmarshal now id keyIndex status reason := by
  cases hfind : s.channels.find id with
  | none => simp [storeKeyStatus, KeepsKeyStatus, hfind, h.mirrored]
  | some channel =>
    obtain ⟨hmem, rfl⟩ : channel ∈ s.channels ∧ channel.id = id := Table.find_eq_some_iff.mp hfind
    cases hkey : keyAt unmarshal keyIndex channel with
    | none => simp [storeKeyStatus, KeepsKeyStatus, hfind, hkey, h.mirrored]
    | some key =>
      set updated := channel.handlerMultiKeyUpdate unmarshal now key status reason with hupdated
      have hsame : channel.SameListing updated := sameListing_multiKeyUpdate
      have hsave := saveWithoutKey_eq (s := s) (by rw [hsame.id]; exact h.id_pos channel hmem)
      have hon : status = .enabled →
          updated.status = channel.status ∨ updated.status = .enabled := by
        rintro rfl
        exact status_multiKeyUpdate_of_enabled
      have hoff : status ≠ .enabled → updated.status = channel.status ∨ updated.status ≠ .enabled :=
        status_multiKeyUpdate_of_ne
      rw [storeKeyStatus_eq hfind hkey hsave,
        mirrored_saveWithoutKey now h.mirrored hfind hsame.id hsave actsOn_keyStatusRows,
        mirroredIn_keyStatusRows (h.mirrored channel hmem) hsame hon hoff]
      simp only [KeepsKeyStatus, hfind, hkey, Option.mem_def, Option.some.injEq, forall_eq',
        ← hupdated]
      by_cases henabled : status = .enabled
      · have hbackup : ¬(channel.status ≠ updated.status ∧ updated.status ≠ .enabled) := by
          rintro ⟨hne, hoff⟩
          exact ((hon henabled).resolve_left (Ne.symm hne)).symm ▸ hoff <| rfl
        simp [henabled, hbackup]
      · by_cases hkept : channel.status = updated.status
        · simp [hkept]
        · have hdown : updated.status ≠ .enabled := (hoff henabled).resolve_left (Ne.symm hkept)
          simp [henabled, hkept, hdown]

/-! ### One model of a channel -/

variable {model : String} {disabled : Bool}

/-- The disabled models of a channel as a map and as a list. -/
lemma mem_disabledModelSet : model ∈ c.disabledModelSet ↔ model ∈ c.getDisabledModelSet := by
  have hfold : ∀ (l : List String) (set : ModelSet),
      model ∈ l.foldl (fun set model => set.insert model true) set ↔ model ∈ l ∨ model ∈ set := by
    intro l
    induction l with
    | nil => simp
    | cons m l ih =>
      intro set
      rw [List.foldl_cons, ih, AList.mem_insert, List.mem_cons]
      tauto
  simp [disabledModelSet, hfold]

lemma mem_getDisabledModelSet_iff :
    model ∈ c.getDisabledModelSet ↔
      ∃ field ∈ fieldsFunc (· = ',') c.disabledModels, trimSpace field = model ∧ model ≠ "" := by
  unfold getDisabledModelSet
  split_ifs with h
  · simp [h]
  · rw [← fieldsFunc_trimSep, ← filter_split]
    simp only [List.mem_filter, List.mem_map, decide_eq_true_eq]
    constructor
    · rintro ⟨⟨field, hfield, rfl⟩, hne⟩
      refine ⟨field, ⟨hfield, ?_⟩, rfl, hne⟩
      rintro rfl
      exact hne (by decide)
    · rintro ⟨field, ⟨hfield, -⟩, rfl, hne⟩
      exact ⟨⟨field, hfield, rfl⟩, hne⟩

/-- Names that the text of the disabled models can carry. -/
def CleanName (model : String) : Prop :=
  model ≠ "" ∧ trimSpace model = model ∧ ∀ ch ∈ model.toList, ch ≠ ','

lemma cleanName_of_mem (h : model ∈ c.getDisabledModelSet) : CleanName model := by
  obtain ⟨field, hfield, rfl, hne⟩ := mem_getDisabledModelSet_iff.mp h
  refine ⟨hne, trimSpace_trimSpace field, fun ch hch => ?_⟩
  simpa using not_sep_of_mem_fieldsFunc hfield ch (mem_of_mem_trimSpace hch)

/-- The text joined from a set of clean names reads back as the set. -/
lemma mem_getDisabledModelSet_withDisabledModels {set : ModelSet}
    (hclean : ∀ m ∈ set, CleanName m) :
    model ∈ (c.withDisabledModels set).getDisabledModelSet ↔ model ∈ set := by
  have hkeys : ∀ m ∈ set.keys.insertionSort (· ≤ ·), CleanName m := by
    intro m hm
    exact hclean m (by simpa [AList.mem_keys] using hm)
  have hfields :
      fieldsFunc (· = ',') (joinDisabledModels set) = set.keys.insertionSort (· ≤ ·) := by
    apply fieldsFunc_join (c := ',') (by simp)
    · intro m hm
      exact (hkeys m hm).1
    · intro m hm ch hch
      simpa using (hkeys m hm).2.2 ch hch
  rw [mem_getDisabledModelSet_iff,
    show (c.withDisabledModels set).disabledModels = joinDisabledModels set from rfl, hfields]
  constructor
  · rintro ⟨m, hm, rfl, -⟩
    rw [(hkeys m hm).2.1]
    simpa [AList.mem_keys] using hm
  · intro hmem
    exact ⟨model, by simpa [AList.mem_keys] using hmem, (hclean model hmem).2.1,
      (hclean model hmem).1⟩

lemma mem_toggledSet {m : String} :
    m ∈ c.toggledSet model disabled ↔
      if m = model then disabled = true else m ∈ c.getDisabledModelSet := by
  unfold toggledSet
  cases disabled <;> by_cases hm : m = model <;> simp [hm, mem_disabledModelSet]

/-- What an accepted toggle does. -/
lemma toggleModel_cases (h : s.toggleChannelModelDisabled id model disabled = .ok (s', c')) :
    s' = s ∨ ∃ channel s₁, s.channels.find id = some channel ∧ trimSpace model ≠ "" ∧
      trimSpace model ∈ channel.getModels ∧
      s.saveWithoutKey
        (channel.withDisabledModels (channel.toggledSet (trimSpace model) disabled)) = some s₁ ∧
      s'.channels = s₁.channels ∧
      s'.abilities = s₁.abilities.updateEnabled
        (fun a => a.channelId = id ∧ a.model = trimSpace model)
          (decide (channel.status = .enabled) && !disabled) := by
  unfold toggleChannelModelDisabled at h
  cases hfind : s.channels.find id with
  | none => simp [hfind] at h
  | some channel =>
    simp only [hfind] at h
    split_ifs at h with hempty hlisted
    · obtain ⟨rfl, -⟩ := Prod.mk.inj (Except.ok.inj h)
      exact Or.inl rfl
    · cases hsave : s.saveWithoutKey
          (channel.withDisabledModels (channel.toggledSet (trimSpace model) disabled)) with
      | none => simp [hsave] at h
      | some s₁ =>
        simp only [hsave] at h
        obtain ⟨rfl, -⟩ := Prod.mk.inj (Except.ok.inj h)
        exact Or.inr ⟨channel, s₁, rfl, hempty, hlisted, hsave, rfl, rfl⟩

lemma find_toggled {abilities : Abilities} {group m : String} {enabled : Bool} :
    (abilities.updateEnabled (fun a => a.channelId = id ∧ a.model = model) enabled).find
        (group, m, k) =
      if k = id ∧ m = model then
        (abilities.find (group, m, k)).map fun a => { a with enabled := enabled }
      else abilities.find (group, m, k) := by
  rw [find_updateEnabled]
  cases h : abilities.find (group, m, k) with
  | none => simp
  | some a =>
    obtain ⟨-, rfl, rfl⟩ := fields_of_find h
    by_cases hid : a.channelId = id ∧ a.model = model <;> simp [hid]

/-- A model that is toggled has its own rows switched, and the text of the disabled models says the
same of the others as before. -/
lemma mirroredIn_toggled (hm : c.MirroredIn s.abilities) (hclean : CleanName model) :
    (c.withDisabledModels (c.toggledSet model disabled)).MirroredIn (s.abilities.updateEnabled
      (fun a => a.channelId = c.id ∧ a.model = model)
      (decide (c.status = .enabled) && !disabled)) := by
  have hset : ∀ m, m ∈ (c.withDisabledModels (c.toggledSet model disabled)).getDisabledModelSet ↔
      if m = model then disabled = true else m ∈ c.getDisabledModelSet := by
    intro m
    rw [mem_getDisabledModelSet_withDisabledModels, mem_toggledSet]
    intro m hmem
    rw [mem_toggledSet] at hmem
    split_ifs at hmem with hm
    · exact hm ▸ hclean
    · exact cleanName_of_mem hmem
  rw [mirroredIn_iff] at hm ⊢
  intro group hgroup m hmodel
  have hrow := hm group hgroup m hmodel
  rw [show (c.withDisabledModels (c.toggledSet model disabled)).id = c.id from rfl, find_toggled,
    hrow]
  have hability : (c.withDisabledModels (c.toggledSet model disabled)).ability (group, m) =
      { c.ability (group, m) with
        enabled := decide (c.status = .enabled ∧
          ¬if m = model then disabled = true else m ∈ c.getDisabledModelSet) } := by
    simp only [ability, hset]
    rfl
  rw [hability]
  by_cases hname : m = model
  · simp [hname]
  · simp [hname, ability]

lemma mirrored_toggleModel (h : s.Consistent) :
    (s.step unmarshal (.toggleChannelModelDisabled id model disabled)).Mirrored := by
  rw [step]
  cases htoggle : s.toggleChannelModelDisabled id model disabled with
  | error e => exact h.mirrored
  | ok r =>
    obtain rfl | ⟨channel, s₁, hfind, hne, hlisted, hsave, hchannels, habilities⟩ :=
      toggleModel_cases htoggle
    · exact h.mirrored
    obtain ⟨hmem, rfl⟩ : channel ∈ s.channels ∧ channel.id = id := Table.find_eq_some_iff.mp hfind
    have hclean : CleanName (trimSpace model) := by
      refine ⟨hne, trimSpace_trimSpace model, ?_⟩
      unfold getModels at hlisted
      split_ifs at hlisted
      · simp at hlisted
      · exact not_sep_of_mem_split hlisted
    have hrows : ActsOn channel.id (·.updateEnabled (fun a => a.channelId = channel.id ∧
        a.model = trimSpace model) (decide (channel.status = .enabled) && !disabled)) := by
      constructor
      · intro abilities group m k hk
        rw [find_toggled, if_neg fun hand => hk hand.1]
      · intro abilities abilities' heq group m
        simp only [find_toggled, heq]
    have hsaved := (mirrored_saveWithoutKey 0 h.mirrored hfind
      (c := channel.withDisabledModels (channel.toggledSet (trimSpace model) disabled)) rfl hsave
      hrows).mpr ⟨mirroredIn_toggled (h.mirrored channel hmem) hclean, False.elim⟩
    intro c hc
    rw [habilities]
    exact hsaved c (hchannels ▸ hc)

end

end ChannelStore

end XinghaiApi
