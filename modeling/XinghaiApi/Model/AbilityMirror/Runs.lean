import XinghaiApi.Model.AbilityMirror.Edit
import XinghaiApi.Model.AbilityMirror.Status

/-!
# The mirror over runs of operations

An operation keeps a consistent store consistent just in case it meets its condition, so a run of
operations does just in case all of them do.
-/

namespace XinghaiApi

open Machine Selection Text Keyed List

namespace ChannelStore

section

variable {s s' : ChannelStore} {id now keyIndex : ℤ} {c c' channel backup : Channel}
  {status : ChannelStatus} {unmarshal : String → Option (List String)} {usingKey reason : String}

/-! ### Ids -/

variable {f : Abilities → Abilities} {abilities : Abilities}

/-- The channels and the rows of `s'` have no ids but those of `s`. -/
structure SameIds (s s' : ChannelStore) : Prop where
  next : s'.channels.next = s.channels.next
  id : ∀ c ∈ s'.channels, ∃ d ∈ s.channels, d.id = c.id
  row : ∀ a ∈ s'.abilities,
    (∃ c ∈ s.channels, c.id = a.channelId) ∨ ∃ b ∈ s.abilities, b.channelId = a.channelId

lemma SameIds.refl (s : ChannelStore) : SameIds s s where
  next := rfl
  id c hc := ⟨c, hc, rfl⟩
  row a ha := Or.inr ⟨a, ha, rfl⟩

lemma SameIds.trans {t : ChannelStore} (h : SameIds s s') (h' : SameIds s' t) : SameIds s t where
  next := h'.next.trans h.next
  id := by
    intro c hc
    obtain ⟨d, hd, hid⟩ := h'.id c hc
    obtain ⟨e, he, heq⟩ := h.id d hd
    exact ⟨e, he, heq.trans hid⟩
  row := by
    intro a ha
    rcases h'.row a ha with ⟨c, hc, hid⟩ | ⟨b, hb, hid⟩
    · obtain ⟨d, hd, heq⟩ := h.id c hc
      exact Or.inl ⟨d, hd, heq.trans hid⟩
    · rcases h.row b hb with ⟨c, hc, heq⟩ | ⟨b', hb', heq⟩
      · exact Or.inl ⟨c, hc, heq.trans hid⟩
      · exact Or.inr ⟨b', hb', heq.trans hid⟩

/-- The cache has no part in it. -/
lemma SameIds.congr {t : ChannelStore} (h : SameIds s s') (hchannels : t.channels = s'.channels)
    (habilities : t.abilities = s'.abilities) : SameIds s t where
  next := by rw [hchannels, h.next]
  id := by
    rw [hchannels]
    exact h.id
  row := by
    rw [habilities]
    exact h.row

lemma Assigned.of_sameIds (h : s.Assigned) (hids : SameIds s s') : s'.Assigned where
  next_pos := by
    rw [hids.next]
    exact h.next_pos
  id_pos := by
    intro c hc
    obtain ⟨d, hd, hid⟩ := hids.id c hc
    rw [← hid]
    exact h.id_pos d hd
  row_lt := by
    intro a ha
    rw [hids.next]
    rcases hids.row a ha with ⟨c, hc, hid⟩ | ⟨b, hb, hid⟩
    · rw [← hid]
      exact s.channels.fresh c hc
    · rw [← hid]
      exact h.row_lt b hb

lemma ActsOn.mem {a : Ability} (hf : ActsOn id f) (h : a ∈ f abilities) :
    a.channelId = id ∨ a ∈ abilities := by
  by_cases hid : a.channelId = id
  · exact Or.inl hid
  · have hfind := hf.frame abilities a.group a.model a.channelId hid
    rw [show (a.group, a.model, a.channelId) = a.primaryKey from rfl, find_key h] at hfind
    exact Or.inr (find_eq_some_iff.mp hfind.symm).1

lemma SameIds.of_actsOn (h : SameIds s s') (hf : ActsOn id f) (hid : ∃ c ∈ s.channels, c.id = id) :
    SameIds s { s' with abilities := f s'.abilities } where
  next := h.next
  id := h.id
  row := by
    intro a ha
    rcases hf.mem ha with rfl | ha
    · exact Or.inl hid
    · exact h.row a ha

lemma sameIds_modifyWhere {p : Channel → Bool} {f : Channel → Channel} :
    SameIds s { s with channels := s.channels.modifyWhere p f } where
  next := rfl
  id := by
    intro c hc
    obtain ⟨d, hd, rfl⟩ := Table.mem_modifyWhere.mp hc
    refine ⟨d, hd, ?_⟩
    split_ifs <;> rfl
  row a ha := Or.inr ⟨a, ha, rfl⟩

lemma sameIds_updateEnabled {p : Ability → Bool} {enabled : Bool} :
    SameIds s { s with abilities := s.abilities.updateEnabled p enabled } where
  next := rfl
  id c hc := ⟨c, hc, rfl⟩
  row := by
    intro a ha
    obtain ⟨b, hb, rfl⟩ := mem_map.mp ha
    refine Or.inr ⟨b, hb, ?_⟩
    split_ifs <;> rfl

lemma sameIds_saveWithoutKey (h : s.saveWithoutKey c = some s') : SameIds s s' := by
  unfold saveWithoutKey at h
  split_ifs at h
  cases h
  exact sameIds_modifyWhere

lemma sameIds_activateBackup : SameIds s (s.activateBackupChannel now channel) := by
  unfold activateBackupChannel
  split
  · exact SameIds.refl s
  next backup _ =>
    dsimp only
    split
    · exact SameIds.refl s
    next s₁ hsave =>
      exact ((sameIds_saveWithoutKey hsave).trans sameIds_updateEnabled).congr rfl rfl

/-- What is saved is there, with or without its backup. -/
lemma sameIds_saveWithoutKey_activate {p : Prop} [Decidable p] (h : s.saveWithoutKey c = some s') :
    SameIds s (if p then s'.activateBackupChannel now c else s') := by
  split_ifs
  · exact (sameIds_saveWithoutKey h).trans sameIds_activateBackup
  · exact sameIds_saveWithoutKey h

lemma sameIds_storeStatus (h : s.Assigned) :
    SameIds s (s.storeStatus unmarshal now id usingKey status reason).1 := by
  cases hfind : s.channels.find id with
  | none => simp [storeStatus, hfind, SameIds.refl]
  | some channel =>
    by_cases hstatus : channel.status = status
    · simp [storeStatus, hfind, hstatus, SameIds.refl]
    · have hmem : channel ∈ s.channels := (Table.find_eq_some_iff.mp hfind).1
      have hsame : channel.SameListing (switched unmarshal now usingKey status reason channel) :=
        Channel.sameListing_switched
      have hsave := saveWithoutKey_eq (s := s) (by rw [hsame.id]; exact h.id_pos channel hmem)
      rw [storeStatus_eq hfind hstatus hsave]
      exact (sameIds_saveWithoutKey_activate hsave).of_actsOn actsOn_statusRows
        ⟨channel, hmem, hsame.id.symm⟩

lemma sameIds_storeKeyStatus (h : s.Assigned) :
    SameIds s (s.storeKeyStatus unmarshal now id keyIndex status reason).1 := by
  cases hfind : s.channels.find id with
  | none => simp [storeKeyStatus, hfind, SameIds.refl]
  | some channel =>
    cases hkey : keyAt unmarshal keyIndex channel with
    | none => simp [storeKeyStatus, hfind, hkey, SameIds.refl]
    | some key =>
      have hmem : channel ∈ s.channels := (Table.find_eq_some_iff.mp hfind).1
      have hsame : channel.SameListing
          (channel.handlerMultiKeyUpdate unmarshal now key status reason) :=
        Channel.sameListing_multiKeyUpdate
      have hsave := saveWithoutKey_eq (s := s) (by rw [hsame.id]; exact h.id_pos channel hmem)
      rw [storeKeyStatus_eq hfind hkey hsave]
      exact (sameIds_saveWithoutKey_activate hsave).of_actsOn actsOn_keyStatusRows
        ⟨channel, hmem, hsame.id.symm⟩

lemma sameIds_toggleModel {model : String} {disabled : Bool} :
    SameIds s (s.step unmarshal (.toggleChannelModelDisabled id model disabled)) := by
  rw [step]
  cases htoggle : s.toggleChannelModelDisabled id model disabled with
  | error e => exact SameIds.refl s
  | ok r =>
    obtain rfl | ⟨channel, s₁, -, -, -, hsave, hchannels, habilities⟩ :=
      toggleModel_cases htoggle
    · exact SameIds.refl _
    · exact ((sameIds_saveWithoutKey hsave).trans sameIds_updateEnabled).congr hchannels habilities

lemma mem_foldl_updateAbilities {l : List Channel} {a : Ability}
    (h : a ∈ l.foldl (fun abilities c => abilities.updateAbilities c) abilities) :
    (∃ c ∈ l, c.id = a.channelId) ∨ a ∈ abilities := by
  induction l generalizing abilities with
  | nil => exact Or.inr h
  | cons d l ih =>
    rcases ih h with ⟨c, hc, hid⟩ | ha
    · exact Or.inl ⟨c, mem_cons_of_mem d hc, hid⟩
    · rcases (actsOn_updateAbilities d).mem ha with hid | ha
      · exact Or.inl ⟨d, mem_cons_self, hid.symm⟩
      · exact Or.inr ha

lemma sameIds_editChannelByTag {tag : String} {edit : TagEdit} :
    SameIds s (s.editChannelByTag tag edit) := by
  obtain ⟨hnext, hid, -⟩ := sameIds_modifyWhere
  refine ⟨hnext, hid, ?_⟩
  unfold editChannelByTag
  split_ifs with hrecreate
  · intro a ha
    rcases mem_foldl_updateAbilities ha with ⟨c, hc, heq⟩ | ha
    · obtain ⟨d, hd, hid⟩ := hid c (mem_of_mem_filter hc)
      exact Or.inl ⟨d, hd, hid.trans heq⟩
    · exact Or.inr ⟨a, ha, rfl⟩
  · intro a ha
    obtain ⟨b, hb, rfl⟩ := mem_map.mp ha
    refine Or.inr ⟨b, hb, ?_⟩
    split_ifs <;> rfl

/-! ### One operation -/

lemma assigned_insert (h : s.Assigned) : (s.insert c).Assigned where
  next_pos := by
    show 0 < s.channels.next + 1
    linarith [h.next_pos]
  id_pos := by
    refine h.id_pos.insert ?_
    exact h.next_pos
  row_lt := by
    intro a ha
    show a.channelId < s.channels.next + 1
    rcases mem_insertAll ha with ha | ha
    · exact (h.row_lt a ha).trans (lt_add_one _)
    · obtain ⟨group, model, -, rfl⟩ := Channel.mem_addAbilities.mp ha
      exact lt_add_one s.channels.next

/-- Every channel has a row: the one of its first pair. -/
lemma exists_hasAbility (c : Channel) : ∃ group model, c.HasAbility group model := by
  obtain ⟨group, hgroup⟩ := exists_mem_of_ne_nil _ (split_ne_nil ',' c.group)
  obtain ⟨model, hmodel⟩ := exists_mem_of_ne_nil _ (split_ne_nil ',' c.models)
  have hmem : (group, model) ∈ c.abilityPairs := Channel.mem_abilityPairs.mpr ⟨hgroup, hmodel⟩
  cases hpairs : c.abilityPairs with
  | nil => simp [hpairs] at hmem
  | cons pair pairs => exact ⟨pair.1, pair.2, by simp [Channel.HasAbility, hpairs]⟩

/-- An update of a channel that is not there leaves rows for its id. -/
lemma assigned_update {patch : Patch} (h : s.Assigned) (hid : patch.id ≠ 0) :
    (s.update unmarshal patch).Assigned ↔
      (s.channels.find patch.id = none → patch.id < s.channels.next) := by
  obtain ⟨channel, hchannel, -, hrows⟩ := exists_abilities_update unmarshal hid
  have hchannels : (s.update unmarshal patch).channels =
      s.channels.modify patch.id (patch.apply unmarshal) := by
    rw [update, if_neg hid]
  obtain ⟨hnext, hids, -⟩ := sameIds_modifyWhere

  have hlt : (s.update unmarshal patch).Assigned ↔ patch.id < s.channels.next := by
    constructor
    · intro h'
      obtain ⟨group, model, hhas⟩ := exists_hasAbility channel
      have hfind : (s.update unmarshal patch).abilities.find (group, model, channel.id) =
          some (channel.ability (group, model)) := by
        rw [hrows, Abilities.find_updateAbilities, if_pos rfl, if_pos hhas]
      have hrow := h'.row_lt _ (find_eq_some_iff.mp hfind).1
      rw [hchannels] at hrow
      rw [← hchannel]
      exact hrow
    · intro hlt
      refine ⟨?_, ?_, ?_⟩
      · rw [hchannels]
        exact h.next_pos
      · rw [hchannels]
        intro c hc
        obtain ⟨d, hd, heq⟩ := hids c hc
        rw [← heq]
        exact h.id_pos d hd
      · rw [hchannels, hrows]
        intro a ha
        rcases (actsOn_updateAbilities channel).mem ha with heq | ha
        · rw [heq, hchannel]
          exact hlt
        · exact h.row_lt a ha
  rw [hlt]
  constructor
  · intro hlt _
    exact hlt
  · intro hnone
    cases hc : s.channels.find patch.id with
    | none => exact hnone hc
    | some c =>
      obtain ⟨hmem, hkey⟩ := Table.find_eq_some_iff.mp hc
      rw [← hkey]
      exact s.channels.fresh c hmem

lemma consistent_iff (hids : SameIds s s') (h : s.Consistent) : s'.Consistent ↔ s'.Mirrored :=
  ⟨fun h' => h'.mirrored, fun hm => ⟨h.toAssigned.of_sameIds hids, hm⟩⟩

lemma Consistent.withCache (h : s.Consistent) (cache : Option MemoryCache) :
    ({ s with memoryCache := cache } : ChannelStore).Consistent :=
  ⟨⟨h.next_pos, h.id_pos, h.row_lt⟩, h.mirrored⟩

lemma consistent_storeStatus (h : s.Consistent) :
    (s.storeStatus unmarshal now id usingKey status reason).1.Consistent ↔
      s.KeepsStatus unmarshal now id usingKey status reason := by
  rw [consistent_iff (sameIds_storeStatus h.toAssigned) h]
  exact mirrored_storeStatus h

lemma consistent_storeKeyStatus (h : s.Consistent) :
    (s.storeKeyStatus unmarshal now id keyIndex status reason).1.Consistent ↔
      s.KeepsKeyStatus unmarshal now id keyIndex status reason := by
  rw [consistent_iff (sameIds_storeKeyStatus h.toAssigned) h]
  exact mirrored_storeKeyStatus h

/-- The cache may return before the database is reached. -/
lemma consistent_gated {gate : MemoryCache → Option MemoryCache}
    {store : ChannelStore → ChannelStore × Bool} {keeps : Prop} (h : s.Consistent)
    (hstore : ∀ cache, (store { s with memoryCache := cache }).1.Consistent ↔ keeps) :
    (match s.memoryCache with
      | none       => store s
      | some cache =>
        match gate cache with
        | none       => (s, false)
        | some cache => store { s with memoryCache := some cache }).1.Consistent ↔
      (s.PassesCache gate → keeps) := by
  cases hcache : s.memoryCache with
  | none =>
    simp only [PassesCache, hcache, Option.mem_def, reduceCtorEq, false_implies, implies_true,
      true_implies]
    rw [← hstore none, ← hcache]
  | some cache =>
    simp only [PassesCache, hcache, Option.mem_def, Option.some.injEq, forall_eq']
    cases hgate : gate cache with
    | none => simp [h]
    | some cache' => simp [hstore]

/-- An operation keeps a consistent store consistent just in case it meets the condition. -/
lemma consistent_step_iff_keeps (h : s.Consistent) (op : Op) :
    (s.step unmarshal op).Consistent ↔ s.Keeps unmarshal op := by
  cases op with
  | insert c =>
    rw [Keeps, ← mirrored_insert h]
    exact ⟨fun h' => h'.mirrored, fun hm => ⟨assigned_insert h.toAssigned, hm⟩⟩
  | update patch =>
    by_cases hid : patch.id = 0
    · simp [step, Keeps, update, hid, h]
    · rw [step, Keeps, or_iff_right hid]
      have hiff : (s.update unmarshal patch).Consistent ↔
          (s.update unmarshal patch).Assigned ∧ (s.update unmarshal patch).Mirrored :=
        ⟨fun h' => ⟨h'.toAssigned, h'.mirrored⟩, fun h' => ⟨h'.1, h'.2⟩⟩
      rw [hiff, assigned_update h.toAssigned hid, mirrored_update h.mirrored hid]
      cases hc : s.channels.find patch.id <;> simp
  | updateChannelStatus now id usingKey status reason =>
    exact consistent_gated h fun cache => consistent_storeStatus (h.withCache cache)
  | updateMultiKeyStatus now id keyIndex status reason =>
    exact consistent_gated h fun cache => consistent_storeKeyStatus (h.withCache cache)
  | toggleChannelModelDisabled id model disabled =>
    rw [consistent_iff sameIds_toggleModel h, Keeps, iff_true]
    exact mirrored_toggleModel h
  | enableChannelByTag tag =>
    have hids : SameIds s (s.enableChannelByTag tag) :=
      sameIds_modifyWhere.trans sameIds_updateEnabled
    rw [step, Keeps, consistent_iff hids h]
    rw [mirrored_updateStatusByTag h.mirrored rfl rfl]
    simp [Channel.NoneDisabled]
  | disableChannelByTag tag =>
    have hids : SameIds s (s.disableChannelByTag tag) :=
      sameIds_modifyWhere.trans sameIds_updateEnabled
    rw [step, Keeps, consistent_iff hids h]
    rw [mirrored_updateStatusByTag h.mirrored rfl rfl]
    simp
  | editChannelByTag tag edit =>
    rw [step, Keeps, consistent_iff sameIds_editChannelByTag h]
    split_ifs with hrecreate
    · exact mirrored_editChannelByTag_of_recreated h.mirrored hrecreate
    · exact mirrored_editChannelByTag_of_kept h.mirrored hrecreate
  | activateBackupChannel now channel =>
    rw [step, consistent_iff sameIds_activateBackup h]
    exact mirrored_activateBackup h.mirrored
  | initChannelCache =>
    rw [Keeps, iff_true]
    exact ⟨⟨h.next_pos, h.id_pos, h.row_lt⟩, h.mirrored⟩

end

/-! ### Runs -/

section

variable (unmarshal : String → Option (List String))

/-- From a consistent store on, every store of a run is consistent just in case every operation of
the run meets the condition; the abilities are a mirror of the channels then. -/
theorem consistent_states_iff {s : ChannelStore} (h : s.Consistent) (ops : List Op) :
    ((∀ t ∈ states (step unmarshal) s ops, t.Consistent) ↔
        Along (step unmarshal) (Keeps unmarshal) s ops) ∧
      (Along (step unmarshal) (Keeps unmarshal) s ops →
        ∀ t ∈ states (step unmarshal) s ops, t.Mirrored) := by
  have hiff : (∀ t ∈ states (step unmarshal) s ops, t.Consistent) ↔
      Along (step unmarshal) (Keeps unmarshal) s ops :=
    forall_states_iff_along (I := Consistent) (fun _ op hs => consistent_step_iff_keeps hs op) h ops
  exact ⟨hiff, fun hkeeps t ht => (hiff.mpr hkeeps t ht).mirrored⟩

end

def taggedChannel (disabledModels : String) : Channel :=
  { id := 1, models := "m,n", group := "g", status := .manuallyDisabled, tag := some "t",
    disabledModels := disabledModels }

def oneTagged (disabledModels : String) : ChannelStore where
  channels :=
    { rows := [taggedChannel disabledModels]
      next := 2
      nodup := by simp
      fresh := forall_mem_singleton.mpr (Int.lt_succ 1) }
  abilities := Abilities.updateAbilities (taggedChannel disabledModels) empty
  memoryCache := none

lemma assigned_oneTagged (disabledModels : String) : (oneTagged disabledModels).Assigned where
  next_pos := by simp [oneTagged]
  id_pos := by simp [Table.All, oneTagged, Table.mem_def, taggedChannel]
  row_lt := by
    intro a ha
    rcases (actsOn_updateAbilities _).mem ha with hid | ha
    · simp [hid, oneTagged, taggedChannel]
    · simp [mem_def, empty] at ha

def taggedOps : List Op :=
  [.enableChannelByTag "t", .toggleChannelModelDisabled 1 "m" true,
    .insert { id := 0, models := "m", group := "g,h" },
    .updateChannelStatus 5 1 "" .autoDisabled "quota", .updateChannelStatus 6 1 "" .enabled ""]

theorem consistent_states_oneTagged :
    (oneTagged "").Consistent ∧
      Along (step fun _ => none) (Keeps fun _ => none) (oneTagged "") taggedOps ∧
      ∃ t ∈ states (step fun _ => none) (oneTagged "") taggedOps, t.Mirrored := by
  have hstart : (oneTagged "").Consistent := ⟨assigned_oneTagged "", by decide +kernel⟩
  have hkeeps : Along (step fun _ => none) (Keeps fun _ => none) (oneTagged "") taggedOps := by
    decide +kernel
  exact ⟨hstart, hkeeps, _, run_mem_states _ _ _,
    (consistent_states_iff _ hstart _).2 hkeeps _ (run_mem_states _ _ _)⟩

/-- Channels that are enabled by their tag offer the models that are disabled on them. -/
theorem not_mirrored_enableChannelByTag :
    (oneTagged "m").Consistent ∧
      ¬((oneTagged "m").step (fun _ => none) (.enableChannelByTag "t")).Mirrored :=
  ⟨⟨assigned_oneTagged "m", by decide +kernel⟩, by decide +kernel⟩

end ChannelStore

end XinghaiApi
