import XinghaiApi.Model.AbilityMirror.Basic

/-!
# The mirror and the edits of channels

What insertion, update and the operations on all channels of a tag leave of the mirror.
-/

namespace XinghaiApi

open Machine Selection Text Channel Table Abilities List

namespace ChannelStore

section

variable {s s' : ChannelStore} {k id : ℤ} {c channel : Channel}
  {status : ChannelStatus} {unmarshal : String → Option (List String)}

/-! ### Insertion and update -/

/-- The rows of a new channel are all new. -/
lemma mirrored_insert (h : s.Consistent) : (s.insert c).Mirrored ↔ (created c).DistinctPairs := by
  set new : Channel := Row.withKey s.channels.next (created c) with hnew
  have hnone : ∀ group model, s.abilities.find (group, model, s.channels.next) = none := by
    intro group model
    rw [Keyed.find_eq_none_iff]
    intro a ha hkey
    have hlt := h.row_lt a ha
    have hid : a.channelId = s.channels.next := by
      rw [Prod.mk.injEq, Prod.mk.injEq] at hkey
      exact hkey.2.2
    omega
  have hrows : ∀ group model k, (s.insert c).abilities.find (group, model, k) =
      if k = s.channels.next then
        if new.HasAbility group model then some (new.ability (group, model)) else none
      else s.abilities.find (group, model, k) := by
    intro group model k
    show (s.abilities.insertAll new.addAbilities).find (group, model, k) = _
    rw [Keyed.find_insertAll, find?_addAbilities]
    by_cases hk : k = s.channels.next
    · subst hk
      simp [hnone, hnew,
        show (Row.withKey s.channels.next (created c)).id = s.channels.next from rfl]
    · simp [hk, hnew, show (Row.withKey s.channels.next (created c)).id = s.channels.next from rfl]
  have hold : ∀ d ∈ s.channels, d.MirroredIn (s.insert c).abilities := by
    intro d hd
    have hne : d.id ≠ s.channels.next := ne_of_lt (s.channels.fresh d hd)
    have := h.mirrored d hd
    simp only [mirroredIn_iff, hrows, if_neg hne] at this ⊢
    exact this
  have hself : new.MirroredIn (s.insert c).abilities ↔ (created c).DistinctPairs :=
    mirroredIn_of_find fun group model => by rw [hrows]; exact if_pos rfl
  constructor
  · intro hm
    exact hself.mp (hm new (mem_insert.mpr (Or.inr rfl)))
  · intro hpairs d hd
    rcases mem_insert.mp hd with hd | rfl
    · exact hold d hd
    · exact hself.mpr hpairs

section

variable {patch : Patch}

lemma find_channels_update (hid : patch.id ≠ 0) :
    (s.update unmarshal patch).channels.find k =
      if k = patch.id then (s.channels.find k).map (patch.apply unmarshal)
      else s.channels.find k := by
  rw [update, if_neg hid]
  show (s.channels.modify patch.id (patch.apply unmarshal)).find k = _
  exact find_modify s.channels patch.id (f := patch.apply unmarshal) (fun _ => rfl) k

/-- An update writes the rows of one channel anew, of the updated one where it is there. -/
lemma exists_abilities_update (unmarshal : String → Option (List String)) (hid : patch.id ≠ 0) :
    ∃ channel : Channel, channel.id = patch.id ∧
      (∀ c ∈ s.channels.find patch.id, patch.apply unmarshal c = channel) ∧
        (s.update unmarshal patch).abilities = s.abilities.updateAbilities channel := by
  have hfind : (s.channels.modify patch.id (patch.apply unmarshal)).find patch.id =
      (s.channels.find patch.id).map (patch.apply unmarshal) := by
    rw [find_modify s.channels patch.id (f := patch.apply unmarshal) (fun _ => rfl), if_pos rfl]
  refine ⟨((s.channels.find patch.id).map (patch.apply unmarshal)).getD (patch.toChannel unmarshal),
    ?_, ?_, ?_⟩
  · cases hc : s.channels.find patch.id with
    | none => rfl
    | some c => exact (find_eq_some_iff.mp hc).2
  · rintro c hc
    rw [Option.mem_def.mp hc]
    rfl
  · rw [update, if_neg hid, ← hfind]

lemma mirrored_update (hm : s.Mirrored) (hid : patch.id ≠ 0) :
    (s.update unmarshal patch).Mirrored ↔
      ∀ c ∈ s.channels.find patch.id, (patch.apply unmarshal c).DistinctPairs := by
  obtain ⟨channel, hchannel, hself, hrows⟩ := exists_abilities_update unmarshal hid
  have hother : ∀ k, k ≠ patch.id → (s.update unmarshal patch).MirroredAt k := by
    intro k hk
    refine (mirroredAt_congr ?_ fun group model => ?_).mpr (mirrored_iff_forall_mirroredAt.mp hm k)
    · rw [find_channels_update hid, if_neg hk]
    · rw [hrows, find_updateAbilities, hchannel, if_neg hk]
  have hown : (s.update unmarshal patch).MirroredAt patch.id ↔
      ∀ c ∈ s.channels.find patch.id, (patch.apply unmarshal c).DistinctPairs := by
    rw [MirroredAt, find_channels_update hid, if_pos rfl, hrows]
    simp only [Option.mem_map, forall_exists_index, and_imp, forall_apply_eq_imp_iff₂]
    refine forall₂_congr fun c hc => ?_
    rw [hself c hc]
    exact mirroredIn_updateAbilities
  rw [mirrored_iff_forall_mirroredAt, ← hown]
  constructor
  · intro h
    exact h patch.id
  · intro h k
    by_cases hk : k = patch.id
    · exact hk ▸ h
    · exact hother k hk

end

/-! ### Tags -/

variable {abilities : Abilities} {tag group model : String} {edit : TagEdit}

/-- Channels that are rewritten where they stand. -/
lemma mirrored_modifyWhere {p : Channel → Bool} {f : Channel → Channel}
    (hchannels : s'.channels = s.channels.modifyWhere p f) (hf : ∀ c, (f c).id = c.id) :
    s'.Mirrored ↔ ∀ c ∈ s.channels, (if p c then f c else c).MirroredIn s'.abilities := by
  have hkeep : ∀ c, Row.withKey (Row.key c) (f c) = f c := by
    intro c
    rw [show Row.key c = Row.key (f c) from (hf c).symm, Row.withKey_key]
  simp only [Mirrored, hchannels, mem_modifyWhere, forall_exists_index, and_imp,
    forall_apply_eq_imp_iff₂, hkeep]

/-- The rows that mirror a channel have its tag. -/
lemma find_updateWhere_tag {f : Ability → Ability} (hf : ∀ a, (f a).primaryKey = a.primaryKey)
    (hm : c.MirroredIn abilities) (hgroup : group ∈ split ',' c.group)
    (hmodel : model ∈ split ',' c.models) :
    (Keyed.updateWhere abilities (·.tag = some tag) f hf).find (group, model, c.id) =
      if c.tag = some tag then (abilities.find (group, model, c.id)).map f
      else abilities.find (group, model, c.id) := by
  rw [Keyed.find_updateWhere, mirroredIn_iff.mp hm group hgroup model hmodel]
  by_cases htag : c.tag = some tag <;> simp [ability, htag]

lemma mirrored_updateStatusByTag {enabled : Bool} (hm : s.Mirrored) (hchannels : s'.channels =
      s.channels.modifyWhere (·.tag = some tag) (withStatus status))
    (habilities : s'.abilities = s.abilities.updateAbilityStatusByTag tag enabled) :
    s'.Mirrored ↔ ∀ c ∈ s.channels, c.tag = some tag → ∀ model ∈ split ',' c.models,
      (enabled = true ↔ status = .enabled ∧ model ∉ c.getDisabledModelSet) := by
  rw [mirrored_modifyWhere hchannels (fun _ => rfl), habilities]
  refine forall₂_congr fun c hc => ?_
  have hrow : ∀ group ∈ split ',' c.group, ∀ model ∈ split ',' c.models,
      (s.abilities.updateAbilityStatusByTag tag enabled).find (group, model, c.id) =
        if c.tag = some tag then
          (s.abilities.find (group, model, c.id)).map fun a => { a with enabled := enabled }
        else s.abilities.find (group, model, c.id) :=
    fun group hgroup model hmodel =>
      find_updateWhere_tag (f := fun a => { a with enabled := enabled }) (fun _ => rfl) (hm c hc)
        hgroup hmodel
  by_cases htag : c.tag = some tag
  · simp only [htag, true_implies] at hrow ⊢
    exact sameListing_withStatus.mirroredIn_switch (hm c hc) hrow
  · simp only [htag, if_false, decide_false, Bool.false_eq_true, false_implies, iff_true] at hrow ⊢
    rw [mirroredIn_iff]
    intro group hgroup model hmodel
    rw [hrow group hgroup model hmodel]
    exact mirroredIn_iff.mp (hm c hc) group hgroup model hmodel

/-- The row of an edited channel and the edited row of the channel differ only where a weight of
zero is given. -/
lemma edit_ability_eq_iff :
    (c.ability (group, model)).edit edit.newTag edit.priority edit.weight =
        (edit.apply c).ability (group, model) ↔
      (edit.weight = some 0 → c.getWeight = 0) := by
  have hpriority : edit.priority.getD c.getPriority = (edit.apply c).getPriority := by
    simp only [TagEdit.apply]
    cases edit.priority <;> rfl
  have hweight : (if edit.weight.getD 0 = 0 then c.getWeight else edit.weight.getD 0) =
      (edit.apply c).getWeight ↔ (edit.weight = some 0 → c.getWeight = 0) := by
    simp only [getWeight, TagEdit.apply]
    cases edit.weight with
    | none => simp
    | some w => by_cases hw : w = 0 <;> simp [hw]
  rw [← hweight, Ability.mk.injEq]
  constructor
  · rintro ⟨-, -, -, -, -, h, -⟩
    exact h
  · intro h
    exact ⟨rfl, rfl, rfl, rfl, hpriority, h, rfl⟩

/-- Abilities that are updated in place take the new columns of their channels, but no weight of
zero. -/
lemma mirrored_editChannelByTag_of_kept (hm : s.Mirrored) (hkept : ¬edit.shouldReCreateAbilities) :
    (s.editChannelByTag tag edit).Mirrored ↔
      (edit.weight = some 0 → ∀ c ∈ s.channels, c.tag = some tag → c.getWeight = 0) := by
  obtain ⟨hmodels, hgroups⟩ : edit.models.getD "" = "" ∧ edit.group.getD "" = "" := by
    simpa [TagEdit.shouldReCreateAbilities] using hkept
  have hchannels : (s.editChannelByTag tag edit).channels =
      s.channels.modifyWhere (·.tag = some tag) edit.apply := rfl
  have habilities : (s.editChannelByTag tag edit).abilities =
      s.abilities.updateAbilityByTag tag edit.newTag edit.priority edit.weight := if_neg hkept
  have hown : ∀ c ∈ s.channels, (if c.tag = some tag then edit.apply c else c).MirroredIn
      (s.editChannelByTag tag edit).abilities ↔
        (c.tag = some tag → edit.weight = some 0 → c.getWeight = 0) := by
    intro c hc
    have hrow : ∀ group ∈ split ',' c.group, ∀ model ∈ split ',' c.models,
        (s.editChannelByTag tag edit).abilities.find (group, model, c.id) =
          if c.tag = some tag then
            some ((c.ability (group, model)).edit edit.newTag edit.priority edit.weight)
          else some (c.ability (group, model)) := by
      intro group hgroup model hmodel
      have hkeep : ∀ a : Ability, (a.edit edit.newTag edit.priority edit.weight).primaryKey =
          a.primaryKey := fun _ => rfl
      rw [habilities, updateAbilityByTag, find_updateWhere_tag hkeep (hm c hc) hgroup hmodel,
        mirroredIn_iff.mp (hm c hc) group hgroup model hmodel, Option.map_some]
    obtain ⟨group₀, hgroup₀⟩ := exists_mem_of_ne_nil _ (split_ne_nil ',' c.group)
    obtain ⟨model₀, hmodel₀⟩ := exists_mem_of_ne_nil _ (split_ne_nil ',' c.models)
    by_cases htag : c.tag = some tag
    · simp only [htag, if_true, true_implies] at hrow ⊢
      rw [mirroredIn_iff, show (edit.apply c).group = c.group from if_pos hgroups,
        show (edit.apply c).models = c.models from if_pos hmodels,
        show (edit.apply c).id = c.id from rfl]
      constructor
      · intro h
        apply edit_ability_eq_iff.mp
        rw [← Option.some.injEq, ← hrow group₀ hgroup₀ model₀ hmodel₀]
        exact h group₀ hgroup₀ model₀ hmodel₀
      · intro h group hgroup model hmodel
        rw [hrow group hgroup model hmodel, edit_ability_eq_iff.mpr h]
    · simp only [htag, false_implies, iff_true] at hrow ⊢
      exact mirroredIn_iff.mpr hrow
  rw [mirrored_modifyWhere hchannels (fun _ => rfl)]
  simp only [decide_eq_true_eq]
  constructor
  · intro h hzero c hc htag
    exact (hown c hc).mp (h c hc) htag hzero
  · intro h c hc
    exact (hown c hc).mpr fun htag hzero => h hzero c hc htag

/-- Channels with different ids have their rows written anew one after the other. -/
lemma find_foldl_updateAbilities {l : List Channel} (hl : (l.map Channel.id).Nodup) :
    (∀ c ∈ l, (l.foldl (fun abilities c => abilities.updateAbilities c) abilities).find
        (group, model, c.id) =
      if c.HasAbility group model then some (c.ability (group, model)) else none) ∧
    ∀ k ∉ l.map Channel.id,
      (l.foldl (fun abilities c => abilities.updateAbilities c) abilities).find (group, model, k) =
        abilities.find (group, model, k) := by
  induction l generalizing abilities with
  | nil => simp
  | cons d l ih =>
    obtain ⟨hd, hl⟩ := nodup_cons.mp hl
    obtain ⟨hin, hout⟩ := @ih (abilities.updateAbilities d) hl
    constructor
    · intro c hc
      rcases mem_cons.mp hc with rfl | hc
      · rw [foldl_cons, hout c.id hd, find_updateAbilities, if_pos rfl]
      · exact hin c hc
    · intro k hk
      rw [map_cons, mem_cons, not_or] at hk
      rw [foldl_cons, hout k hk.2, find_updateAbilities, if_neg hk.1]

lemma mirrored_editChannelByTag_of_recreated (hm : s.Mirrored)
    (hrecreate : edit.shouldReCreateAbilities) :
    (s.editChannelByTag tag edit).Mirrored ↔
      ∀ c ∈ s.channels, (edit.edited tag c).tag = some (edit.updatedTag tag) →
        (edit.edited tag c).DistinctPairs := by
  have hchannels : (s.editChannelByTag tag edit).channels =
      s.channels.modifyWhere (·.tag = some tag) edit.apply := rfl
  set channels := (s.editChannelByTag tag edit).channels
  set tagged := channels.rows.filter (·.tag = some (edit.updatedTag tag))
  have habilities : (s.editChannelByTag tag edit).abilities =
      tagged.foldl (fun abilities c => abilities.updateAbilities c) s.abilities := if_pos hrecreate
  have hnodup : (tagged.map Channel.id).Nodup := channels.nodup.sublist (filter_sublist.map _)
  rw [mirrored_modifyWhere hchannels (fun _ => rfl)]
  refine forall₂_congr fun c hc => ?_
  rw [show (if decide (c.tag = some tag) = true then edit.apply c else c) = edit.edited tag c by
    simp [TagEdit.edited], habilities]
  have hmem : edit.edited tag c ∈ channels := by
    rw [hchannels, mem_modifyWhere]
    refine ⟨c, hc, ?_⟩
    by_cases htag : c.tag = some tag
    · simp only [htag, TagEdit.edited]
      rfl
    · simp [htag, TagEdit.edited]
  by_cases htag : (edit.edited tag c).tag = some (edit.updatedTag tag)
  · have hin : edit.edited tag c ∈ tagged := mem_filter.mpr ⟨hmem, by simpa using htag⟩
    simp only [htag, true_implies]
    exact Channel.mirroredIn_of_find fun group model => (find_foldl_updateAbilities hnodup).1 _ hin
  · -- a channel of the tag would have got the new tag
    have hkept : edit.edited tag c = c := by
      refine if_neg fun hold => htag ?_
      simp only [TagEdit.edited, hold, TagEdit.apply, TagEdit.updatedTag]
      cases edit.newTag <;> rfl
    have hout : c.id ∉ tagged.map Channel.id := by
      intro hid
      obtain ⟨d, hd, hid⟩ := mem_map.mp hid
      obtain ⟨hd, hdtag⟩ := mem_filter.mp hd
      obtain rfl : d = c := eq_of_key_eq hd (hkept ▸ hmem) hid
      exact htag (by simpa [hkept] using hdtag)
    simp only [htag, false_implies, iff_true]
    rw [hkept, mirroredIn_iff]
    intro group hgroup model hmodel
    rw [(find_foldl_updateAbilities hnodup).2 c.id hout]
    exact Channel.mirroredIn_iff.mp (hm c hc) group hgroup model hmodel

end

end ChannelStore

end XinghaiApi
