import XinghaiApi.Middleware.Distributor
import XinghaiApi.Model.Subscription.Groups

/-!
# Users with several groups

The groups of a user are stored as one text. What a user may use, and the ratios that are shown to
them, are read from the list of names in it. But a request whose token has no group runs in the text
as a whole, as if it were one name, and is charged by the special ratios of that name. No channel is
listed under a name with a comma, so the second group of a user takes their channels away.
-/

namespace XinghaiApi

open Text Server List

/-! ### Channels of a table -/

variable {channels : Table Channel}

/-- The two ways in which the channels of a table are looked up. -/
inductive ChannelSource.OfTable (channels : Table Channel) : ChannelSource → Prop
  | memory : OfTable channels (.memory (.initChannelCache (.ofChannels channels)))
  | database : OfTable channels (.database (.ofChannels channels))

/-- A group that lists a channel is one of its names between commas. -/
lemma ChannelSource.OfTable.mem_split {source : ChannelSource} (h : source.OfTable channels)
    {group model : String} {id : ℤ} (hlists : source.Lists group model id) :
    ∃ c ∈ channels, group ∈ split ',' c.group := by
  have hname : ∀ name, id ∈ source.ids group name → ∃ c ∈ channels, group ∈ split ',' c.group := by
    intro name hid
    cases h with
    | memory =>
      rw [ids, MemoryCache.ids_initChannelCache] at hid
      obtain ⟨c, hc, -⟩ := mem_cachedIds.mp hid
      obtain ⟨hmem, -, hgroup, -⟩ := mem_listed.mp hc
      exact ⟨c, hmem, hgroup⟩
    | database =>
      obtain ⟨a, ha, -⟩ := mem_map.mp hid
      obtain ⟨ha, hrow⟩ := mem_filter.mp ha
      obtain ⟨c, hc, ha⟩ := mem_abilitiesOf.mp ha
      obtain ⟨group', model', hhas, rfl⟩ := Channel.mem_addAbilities.mp ha
      obtain ⟨rfl, -⟩ : group' = group ∧ _ := by simpa [Channel.ability] using hrow
      exact ⟨c, hc, (Channel.mem_abilityPairs.mp hhas.mem_abilityPairs).1⟩
  rcases hlists with hid | hid
  · exact hname _ hid
  · exact hname _ hid

/-! ### Two users -/

variable {server : Server} {request : DistributeRequest} {userGroup : String}

/-- No group takes usable groups away from its users. -/
def GroupSetting.NoRemovals (setting : GroupSetting) : Prop :=
  ∀ userGroup, ∀ special ∈ setting.groupSpecialUsableGroup userGroup, hasPrefix special "-:" = false

/-- The server, for a user with these groups. -/
def Server.ofUser (server : Server) (userGroup : String) : Server := { server with userGroup }

/-- The request of a user with these groups is admitted, and a channel is found for it. -/
def findsChannel (server : Server) (request : DistributeRequest) (userGroup : String) : Bool :=
  match server.groups.requestGroup userGroup request.origin with
  | .error _       => false
  | .ok usingGroup =>
    (route request usingGroup (routeStart request userGroup usingGroup)
      (server.ofUser userGroup)).2.isSome

/-- Whatever the channels and the request, one user finds a channel where the other does. -/
def KeepsAccess (userGroup userGroup' : String) : Prop :=
  ∀ (channels : Table Channel) (server : Server) (request : DistributeRequest),
    server.source.OfTable channels → server.groups.NoRemovals → request.origin = .token "" →
      findsChannel server request userGroup = true → findsChannel server request userGroup' = true

/-- Without a group of the token the text of the groups is the group of the request. -/
lemma findsChannel_eq (horigin : request.origin = .token "") :
    findsChannel server request userGroup =
      (distributeChannel (server.ofUser userGroup) request userGroup
        ((server.ofUser userGroup).context
          (routeStart request userGroup userGroup).ctx)).isSome := by
  have hgroup : server.groups.requestGroup userGroup request.origin = .ok userGroup := by
    rw [horigin]
    rfl
  simp only [findsChannel, hgroup, route, routeStart, routeFirst]
  split <;> simp_all

lemma lists_of_findsChannel (horigin : request.origin = .token "") (hauto : userGroup ≠ "auto")
    (h : findsChannel server request userGroup = true) :
    ∃ id, server.source.Lists userGroup request.modelName id := by
  rw [findsChannel_eq horigin] at h
  obtain ⟨⟨c, ctx⟩, hfound⟩ := Option.isSome_iff_exists.mp h
  obtain ⟨group, hmem, hlisted⟩ := distributeChannel_listed hfound
  rw [groupsOf, if_neg hauto, mem_singleton] at hmem
  exact ⟨c.id, hmem ▸ hlisted⟩

lemma findsChannel_eq_false_of_comma (htable : server.source.OfTable channels)
    (horigin : request.origin = .token "") (hcomma : ',' ∈ userGroup.toList) :
    findsChannel server request userGroup = false := by
  rw [Bool.eq_false_iff]
  intro h
  have hauto : userGroup ≠ "auto" := by
    rintro rfl
    exact absurd hcomma (by decide)
  obtain ⟨id, hlisted⟩ := lists_of_findsChannel horigin hauto h
  obtain ⟨c, -, hgroup⟩ := htable.mem_split hlisted
  exact not_sep_of_mem_split hgroup ',' hcomma rfl

/-! ### A server with one channel -/

variable {group : String} {autoGroups : List String}

def channelInGroup (group : String) : Channel where
  id := 1
  models := "m"
  group

/-- One channel, in one group. -/
def oneGroup (group : String) : Table Channel where
  rows := [channelInGroup group]
  next := 2
  nodup := by simp
  fresh := forall_mem_singleton.mpr (Int.lt_succ 1)

def oneGroupServer (group : String) (autoGroups : List String) : Server where
  source := .memory (.initChannelCache (.ofChannels (oneGroup group)))
  groups := { userUsableGroups := [group], autoGroups }
  userGroup := ""

lemma oneGroupServer_noRemovals (group : String) (autoGroups : List String) :
    (oneGroupServer group autoGroups).groups.NoRemovals :=
  fun _ _ hspecial => absurd hspecial not_mem_nil

/-- Usable groups are only added. -/
lemma GroupSetting.NoRemovals.subset {setting : GroupSetting} (h : setting.NoRemovals)
    (userGroup : String) : setting.userUsableGroups ⊆ setting.getUserUsableGroups userGroup := by
  have hspecial : ∀ (specials groups : List String),
      (∀ special ∈ specials, hasPrefix special "-:" = false) →
        groups ⊆ specials.foldl applySpecialGroup groups := by
    intro specials
    induction specials with
    | nil => exact fun groups _ => List.Subset.refl groups
    | cons special specials ih =>
      intro groups hspecials
      refine List.Subset.trans ?_ (ih _ fun s hs => hspecials s (mem_cons_of_mem _ hs))
      simp only [applySpecialGroup, hspecials special mem_cons_self, Bool.false_eq_true, if_false]
      split_ifs
      · exact subset_cons_self _ _
      · exact subset_cons_self _ _
  have hgroup : ∀ groups g, groups ⊆ setting.addUserGroup groups g := by
    intro groups g
    refine List.Subset.trans (hspecial _ groups (h g)) ?_
    simp only [addUserGroup]
    split_ifs
    · exact List.Subset.refl _
    · exact subset_cons_self _ _
  rw [getUserUsableGroups]
  generalize splitUserGroups userGroup = userGroups
  generalize setting.userUsableGroups = groups
  induction userGroups generalizing groups with
  | nil => exact List.Subset.refl groups
  | cons g userGroups ih => exact List.Subset.trans (hgroup groups g) (ih _)

/-- The channel is listed in its group only. -/
lemma eq_of_lists_oneGroupServer (hcomma : ',' ∉ group.toList) {g model : String} {id : ℤ}
    (h : (oneGroupServer group autoGroups).source.Lists g model id) : g = group := by
  obtain ⟨c, hc, hmem⟩ := ChannelSource.OfTable.memory.mem_split h
  obtain rfl := mem_singleton.mp hc
  simpa [channelInGroup, split_eq_singleton hcomma] using hmem

lemma channelInGroup_serves (hcomma : ',' ∉ group.toList) (requestPath : String) :
    (channelInGroup group ∈ oneGroup group ∧ (channelInGroup group).Lists group "m") ∧
      (channelInGroup group).SupportsPath requestPath "m" := by
  have hmodel : "m" ∈ split ',' "m" := by decide
  have htype : (1 : ℤ) ≠ channelTypeAdvancedCustom := by decide
  refine ⟨⟨mem_singleton.mpr rfl, rfl, ?_, hmodel, not_mem_nil⟩, .inr (.inl htype)⟩
  simp [channelInGroup, split_eq_singleton hcomma]

def drawParam (userGroup : String) : RetryParam where
  tokenGroup := userGroup
  modelName := "m"
  requestPath := "/v1/chat/completions"

/-- A draw from the group of the channel finds it. -/
lemma exists_pick_oneGroupServer (hcomma : ',' ∉ group.toList) (autoGroups : List String)
    (userGroup : String) :
    ∃ c, ((oneGroupServer group autoGroups).ofUser userGroup).pick (drawParam userGroup) group 0 =
      .ok (some c) := by
  let server := (oneGroupServer group autoGroups).ofUser userGroup
  have hpick : server.pick (drawParam userGroup) group 0 =
      satisfiedChannel server.view 0 (drawParam userGroup) group 0 := by
    simp only [pick, server, oneGroupServer, ofUser,
      ChannelSource.getRandomSatisfiedChannelWithCondition,
      MemoryCache.toChannelCache_initChannelCache]
    rfl
  have hserves := channelInGroup_serves hcomma "/v1/chat/completions"
  have hselect : selectable server.view (drawParam userGroup) group ≠ [] := by
    have hservable := ne_nil_of_mem (mem_servable.mpr hserves)
    refine ne_nil_of_mem ((mem_candidates_of_ne_nil hservable).mpr ⟨hserves, ?_⟩)
    simp [Channel.Satisfies, RetryParam.channelSatisfied, server, drawParam, view,
      oneGroupServer, ofUser]
  rcases satisfiedChannel_cases server.view 0 (drawParam userGroup) group 0 with
    ⟨hnil, -⟩ | ⟨c, -, hc⟩
  · exact absurd hnil hselect
  · exact ⟨c, hpick.trans hc⟩

/-- Where no channel is remembered, what is drawn is found. -/
lemma findsChannel_of_select
    (h : ∃ selected, cacheGetRandomSatisfiedChannel
        ((oneGroupServer group autoGroups).ofUser userGroup).pick (drawParam userGroup)
        (((oneGroupServer group autoGroups).ofUser userGroup).context
          (routeStart (requestOf "") userGroup userGroup).ctx) = .ok selected ∧
      selected.channel.isSome = true) :
    findsChannel (oneGroupServer group autoGroups) (requestOf "") userGroup = true := by
  obtain ⟨selected, hselected, hsome⟩ := h
  rw [findsChannel_eq rfl, distributeChannel]
  split
  · rfl
  · split
    next other hother =>
      obtain rfl := Except.ok.inj (hother.symm.trans hselected)
      simpa using hsome
    next hother => cases hother.symm.trans hselected

lemma findsChannel_oneGroupServer (hcomma : ',' ∉ group.toList) (hauto : group ≠ "auto")
    (autoGroups : List String) :
    findsChannel (oneGroupServer group autoGroups) (requestOf "") group = true := by
  obtain ⟨c, hc⟩ := exists_pick_oneGroupServer hcomma autoGroups group
  let ctx := ((oneGroupServer group autoGroups).ofUser group).context
    (routeStart (requestOf "") group group).ctx
  refine findsChannel_of_select ⟨⟨some c, group, drawParam group, ctx⟩, ?_, rfl⟩
  have htoken : (drawParam group).tokenGroup = group := rfl
  have hretry : (drawParam group).retry = 0 := rfl
  simp only [cacheGetRandomSatisfiedChannel, htoken, hretry, if_neg hauto, hc]
  rfl

/-- The user of the group `auto` finds the channel of an automatic group. -/
lemma findsChannel_oneGroupServer_auto (hcomma : ',' ∉ group.toList) :
    findsChannel (oneGroupServer group [group]) (requestOf "") "auto" = true := by
  obtain ⟨c, hc⟩ := exists_pick_oneGroupServer hcomma [group] "auto"
  have husable : group ∈ (oneGroupServer group [group]).groups.getUserUsableGroups "auto" :=
    (oneGroupServer_noRemovals group [group]).subset "auto" (mem_singleton.mpr rfl)
  let ctx := ((oneGroupServer group [group]).ofUser "auto").context
    (routeStart (requestOf "") "auto" "auto").ctx
  have hgroups : ctx.getUserAutoGroup = [group] := by
    simpa [SelectContext.getUserAutoGroup, ctx, context, ofUser, oneGroupServer] using husable
  let found : Selected := ⟨some c, group, drawParam "auto",
    { ctx with autoGroup := some group, autoGroupIndex := some 0 }⟩
  have hwalk : selectAutoGroup ((oneGroupServer group [group]).ofUser "auto").pick 0 0
      (drawParam "auto") ctx [group] = found := by
    have hretry : (drawParam "auto").retry = 0 := rfl
    simp only [selectAutoGroup, Nat.lt_irrefl, if_false, hretry, hc]
    rfl
  refine findsChannel_of_select ⟨found, ?_, rfl⟩
  change cacheGetRandomSatisfiedChannel _ (drawParam "auto") ctx = .ok found
  have hstart : ctx.autoGroupIndex.getD 0 = 0 := rfl
  have htoken : (drawParam "auto").tokenGroup = "auto" := rfl
  have hsome : ctx.autoGroups ≠ [] := cons_ne_nil group []
  rw [cacheGetRandomSatisfiedChannel, if_pos htoken, if_neg hsome]
  simp only [hgroups, hstart, drop_zero, hwalk, found]

/-- Only the users of the group, and those of the group `auto`, find the channel. -/
lemma eq_of_findsChannel_oneGroupServer (hcomma : ',' ∉ group.toList)
    (h : findsChannel (oneGroupServer group autoGroups) (requestOf "") userGroup = true) :
    userGroup = group ∨ userGroup = "auto" ∧ autoGroups ≠ [] := by
  by_cases hauto : userGroup = "auto"
  · subst hauto
    refine .inr ⟨rfl, ?_⟩
    rintro rfl
    rw [findsChannel_eq rfl] at h
    simp [distributeChannel, cacheGetRandomSatisfiedChannel, preferredChannel, context, ofUser,
      oneGroupServer, ChannelAffinity.getPreferredChannelByAffinity] at h
  · obtain ⟨id, hlisted⟩ := lists_of_findsChannel rfl hauto h
    exact .inl (eq_of_lists_oneGroupServer hcomma hlisted)

/-! ### Which groups can be gained -/

/-- A user whose groups are written differently keeps the access of another one only if that one has
a comma in their groups, and so finds no channel anyway. -/
theorem keepsAccess_iff (userGroup userGroup' : String) :
    KeepsAccess userGroup userGroup' ↔ userGroup = userGroup' ∨ ',' ∈ userGroup.toList := by
  constructor
  · intro hkeeps
    by_contra! hnot
    obtain ⟨hne, hcomma⟩ := hnot
    by_cases hauto : userGroup = "auto"
    · -- an automatic group that is not the text of the other user
      obtain ⟨group, hgroup, hother⟩ : ∃ group, ',' ∉ group.toList ∧ userGroup' ≠ group := by
        by_cases ha : userGroup' = "a"
        · exact ⟨"b", by decide, by rw [ha]; decide⟩
        · exact ⟨"a", by decide, ha⟩
      subst hauto
      have hfinds := hkeeps _ _ (requestOf "") .memory (oneGroupServer_noRemovals group [group]) rfl
        (findsChannel_oneGroupServer_auto hgroup)
      rcases eq_of_findsChannel_oneGroupServer hgroup hfinds with hsame | ⟨hsame, -⟩
      · exact hother hsame
      · exact hne hsame.symm
    · have hfinds := hkeeps _ _ (requestOf "") .memory (oneGroupServer_noRemovals userGroup []) rfl
        (findsChannel_oneGroupServer hcomma hauto [])
      rcases eq_of_findsChannel_oneGroupServer hcomma hfinds with hsame | ⟨-, hnil⟩
      · exact hne hsame.symm
      · exact hnil rfl
  · rintro (rfl | hcomma) channels server request htable - horigin hfinds
    · exact hfinds
    · rw [findsChannel_eq_false_of_comma htable horigin hcomma] at hfinds
      cases hfinds

/-- The user of `vip` finds a channel, and none once a subscription has added `svip`. -/
theorem gained_group_loses_channel :
    addGroup "vip" "svip" = "vip,svip" ∧ joinUserGroups ["vip", "svip"] = "vip,svip" ∧
      splitUserGroups "vip" ⊆ splitUserGroups "vip,svip" ∧
      (oneGroupServer "vip" []).source.OfTable (oneGroup "vip") ∧
      (oneGroupServer "vip" []).groups.NoRemovals ∧
      findsChannel (oneGroupServer "vip" []) (requestOf "") "vip" = true ∧
      findsChannel (oneGroupServer "vip" []) (requestOf "") "vip,svip" = false := by
  refine ⟨by decide +kernel, by decide +kernel, by decide +kernel, .memory,
    oneGroupServer_noRemovals "vip" [], by decide +kernel, by decide +kernel⟩

/-! ### Ratios -/

/-- `GetUserGroupRatio`: the first group of the user with a special ratio decides. -/
def getUserGroupRatio (setting : GroupRatioSetting) (userGroup group : String) : ℚ :=
  ((splitUserGroups userGroup).findSome? (setting.groupGroupRatio · group)).getD
    (getGroupRatio setting group)

/-- A text that is among its own names is the only one. -/
lemma splitUserGroups_eq_singleton (h : userGroup ∈ splitUserGroups userGroup) :
    splitUserGroups userGroup = [userGroup] := by
  obtain ⟨hne, htrim, hsep⟩ := splitUserGroups_spec h
  rw [splitUserGroups, fieldsFunc_eq_singleton hne hsep]
  simp [htrim, hne, eraseDups_cons]

/-- All ratios are 1, but users of one group have the ratio 2. -/
def specialFor (name : String) : GroupRatioSetting where
  groupRatio _ := some 1
  groupGroupRatio userGroup _ := if userGroup = name then some 2 else none

lemma charged_specialFor (name userGroup usingGroup : String) :
    (handleGroupRatio (specialFor name) none userGroup usingGroup).1.groupRatio =
      if userGroup = name then 2 else 1 := by
  by_cases h : userGroup = name <;>
    simp [handleGroupRatio, groupRatioInfo, specialFor, getGroupRatio, h]

/-- A request outside automatic selection is charged the ratio that is shown to its user, whatever
ratios are set, if and only if the groups of the user are written as one name. -/
theorem charged_eq_shown_iff (userGroup usingGroup : String) :
    (∀ setting : GroupRatioSetting,
        (handleGroupRatio setting none userGroup usingGroup).1.groupRatio =
          getUserGroupRatio setting userGroup usingGroup) ↔
      splitUserGroups userGroup = [userGroup] := by
  constructor
  · intro hsame
    cases hnames : splitUserGroups userGroup with
    | nil =>
      -- only the text as a whole has a special ratio, and no name reads it
      have hcharged := hsame (specialFor userGroup)
      rw [charged_specialFor, getUserGroupRatio, hnames] at hcharged
      exact absurd hcharged (by simp [specialFor, getGroupRatio])
    | cons name names =>
      have hname : userGroup = name := by
        by_contra hne
        have hcharged := hsame (specialFor name)
        rw [charged_specialFor, if_neg hne, getUserGroupRatio, hnames] at hcharged
        exact absurd hcharged (by simp [specialFor])
      have hmem : userGroup ∈ splitUserGroups userGroup := by
        rw [hnames, ← hname]
        exact mem_cons_self
      rw [← hnames, splitUserGroups_eq_singleton hmem]
  · intro hone setting
    cases hspecial : setting.groupGroupRatio userGroup usingGroup <;>
      simp [handleGroupRatio, groupRatioInfo, getUserGroupRatio, hone, hspecial]

/-- A user of `vip` and `svip` is shown the ratio of `vip` and charged the general one. -/
theorem charged_ne_shown_vip :
    (handleGroupRatio (specialFor "vip") none "vip,svip" "default").1.groupRatio = 1 ∧
      getUserGroupRatio (specialFor "vip") "vip,svip" "default" = 2 := by
  refine ⟨by decide +kernel, by decide +kernel⟩

end XinghaiApi
