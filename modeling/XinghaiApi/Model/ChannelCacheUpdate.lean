import Mathlib.Data.List.AList
import XinghaiApi.Lib.Run
import XinghaiApi.Model.ChannelCache

/-!
# Updates of the channel cache

Between two rebuilds the status and the disabled models of single channels are written into the
cache in place. An update takes ids out of the lists of the cache one occurrence at a time and puts
at most one back, while a rebuild lists an id once for each repetition of its group and model.
-/

namespace XinghaiApi

open Machine Selection Text
open List hiding set

/-! ### The maps of the cache -/

variable (db : ChannelDB)

/-- A `map[string]bool` of model names. -/
abbrev ModelSet := AList fun _ : String => Bool

def ModelSet.Disables (set : ModelSet) (model : String) : Prop := set.lookup model = some true

instance (set : ModelSet) (model : String) : Decidable (set.Disables model) :=
  inferInstanceAs (Decidable (_ = _))

/-- The keys of the set, sorted, whatever their values. -/
def joinDisabledModels (set : ModelSet) : String :=
  join "," (set.keys.insertionSort (· ≤ ·))

/-- The lists of ids by group and model; a group without a map is `none`. -/
abbrev ModelMaps := String → Option (String → List ℤ)

def ModelMaps.ids (maps : ModelMaps) (group model : String) : List ℤ :=
  ((maps group).map (· model)).getD []

structure MemoryCache where
  group2model2channels : ModelMaps
  channelsIDM : Table Channel
  channel2advancedCustomConfig : ℤ → Option AdvancedCustomConfig

namespace MemoryCache

def ids (cache : MemoryCache) (group model : String) : List ℤ :=
  cache.group2model2channels.ids group model

/-- What a selection reads. -/
def toChannelCache (cache : MemoryCache) : ChannelCache where
  group2model2channels := cache.ids
  channelsIDM := cache.channelsIDM.find
  channel2advancedCustomConfig := cache.channel2advancedCustomConfig

/-- `InitChannelCache`. A group has a map if an ability or an enabled channel names it. -/
def initChannelCache (db : ChannelDB) : MemoryCache where
  group2model2channels group :=
    if (∃ a ∈ db.abilities, a.group = group) ∨
        ∃ c ∈ db.channels.rows, c.status = .enabled ∧ group ∈ split ',' c.group then
      some (cachedIds db.channels group)
    else none
  channelsIDM := db.channels
  channel2advancedCustomConfig :=
    (XinghaiApi.initChannelCache db.channels).channel2advancedCustomConfig

lemma ids_initChannelCache (group model : String) :
    (initChannelCache db).ids group model = cachedIds db.channels group model := by
  simp only [ids, ModelMaps.ids, initChannelCache]
  split_ifs with h
  · rfl
  · -- a group without a map has no enabled channel
    show [] = _
    rw [eq_comm, eq_nil_iff_forall_not_mem]
    intro id hid
    obtain ⟨c, hc, -⟩ := mem_cachedIds.mp hid
    obtain ⟨hmem, hstatus, hgroup, -⟩ := mem_listed.mp hc
    exact h (Or.inr ⟨c, hmem, hstatus, hgroup⟩)

/-- A rebuilt cache is read as the model of the selection has it. -/
lemma toChannelCache_initChannelCache :
    (initChannelCache db).toChannelCache = XinghaiApi.initChannelCache db.channels := by
  have hids : (initChannelCache db).ids = cachedIds db.channels := by
    funext group model
    exact ids_initChannelCache db group model
  simp only [toChannelCache, hids]
  rfl

end MemoryCache

/-! ### The updates -/

def Channel.withStatus (status : ChannelStatus) (c : Channel) : Channel :=
  { c with status := status }

def Channel.withDisabledModels (set : ModelSet) (c : Channel) : Channel :=
  { c with disabledModels := joinDisabledModels set }

/-- The groups and models of a channel, in the order in which the cache meets them. -/
def Channel.cachePairs (c : Channel) : List (String × String) :=
  (split ',' c.group).flatMap fun group => (split ',' c.models).map fun model => (group, model)

lemma Channel.mem_cachePairs {c : Channel} {group model : String} :
    (group, model) ∈ c.cachePairs ↔ group ∈ split ',' c.group ∧ model ∈ split ',' c.models := by
  simp only [cachePairs, mem_flatMap, mem_map, Prod.mk.injEq]
  constructor
  · rintro ⟨_, hgroup, _, hmodel, rfl, rfl⟩
    exact ⟨hgroup, hmodel⟩
  · rintro ⟨hgroup, hmodel⟩
    exact ⟨group, hgroup, model, hmodel, rfl, rfl⟩

/-- Higher priorities first; an id without a channel is not moved. -/
def sortByPriority (channels : Table Channel) (ids : List ℤ) : List ℤ :=
  ids.insertionSort fun i j =>
    ((channels.find i).all fun ci => (channels.find j).all fun cj =>
      decide (ci.getPriority ≥ cj.getPriority)) = true

/-- The list of a model after an update of the disabled models. -/
def syncIds (channels : Table Channel) (id : ℤ) (set : ModelSet) (model : String)
    (ids : List ℤ) : List ℤ :=
  if set.Disables model then ids.erase id
  else if id ∈ ids then ids
  else sortByPriority channels (ids ++ [id])

/-- One turn of the loops over the groups and models; a group without a map is passed over. -/
def syncModel (channels : Table Channel) (id : ℤ) (set : ModelSet) (maps : ModelMaps)
    (pair : String × String) : ModelMaps :=
  match maps pair.1 with
  | none     => maps
  | some ids =>
    Function.update maps pair.1
      (some (Function.update ids pair.2 (syncIds channels id set pair.2 (ids pair.2))))

namespace MemoryCache

/-- Only the first occurrence of the id is taken out of a list. -/
def cacheUpdateChannelStatus (id : ℤ) (status : ChannelStatus) (cache : MemoryCache) :
    MemoryCache :=
  { cache with
    channelsIDM := cache.channelsIDM.modify id (Channel.withStatus status)
    group2model2channels :=
      if status ≠ .enabled then
        fun group => (cache.group2model2channels group).map fun ids model => (ids model).erase id
      else cache.group2model2channels }

def cacheUpdateChannelDisabledModels (id : ℤ) (set : ModelSet) (cache : MemoryCache) :
    MemoryCache :=
  match cache.channelsIDM.find id with
  | none   => cache
  | some c =>
    let channels := cache.channelsIDM.modify id (Channel.withDisabledModels set)
    { cache with
      channelsIDM := channels
      group2model2channels :=
        if c.status ≠ .enabled then cache.group2model2channels
        else c.cachePairs.foldl (syncModel channels id set) cache.group2model2channels }

/-- The calls that write the cache in place. -/
inductive Call where
  | updateChannelStatus (id : ℤ) (status : ChannelStatus)
  | updateChannelDisabledModels (id : ℤ) (disabledSet : ModelSet)

section

variable (cache : MemoryCache)

def step : Call → MemoryCache
  | .updateChannelStatus id status       => cache.cacheUpdateChannelStatus id status
  | .updateChannelDisabledModels id set => cache.cacheUpdateChannelDisabledModels id set

/-! ### Agreement with a rebuild -/

/-- Each list holds the ids that a rebuild from the cached channels would put there. -/
def Agrees : Prop :=
  ∀ group model id, id ∈ cache.ids group model ↔
    id ∈ (XinghaiApi.initChannelCache cache.channelsIDM).group2model2channels group model

/-- No id is listed more often than its channel repeats the group and the model. -/
def Bounded : Prop :=
  ∀ id c, cache.channelsIDM.find id = some c → ∀ group model,
    (cache.ids group model).count id ≤ c.cachePairs.count (group, model)

/-- The condition under which a call keeps the agreement. -/
def Syncs : Call → Prop
  -- an enabled channel is not put into the lists, and a disabled one is taken out of each list once
  | .updateChannelStatus id status => ∀ c ∈ cache.channelsIDM.find id,
    if status = .enabled then
      c.status = .enabled ∨ (c.withStatus .enabled).cacheEntries = []
    else ∀ pair ∈ c.cacheEntries, (cache.ids pair.1 pair.2).count id ≤ 1
  -- the text joined from the set has to name the models that the lists are left without
  | .updateChannelDisabledModels id set => ∀ c ∈ cache.channelsIDM.find id, c.status = .enabled →
    ∀ pair ∈ c.cachePairs,
      (cache.group2model2channels pair.1).isSome = true ∧ ¬set.Disables pair.2 ↔
        pair.2 ∉ (c.withDisabledModels set).getDisabledModelSet

end

instance (cache : MemoryCache) : ∀ call, Decidable (cache.Syncs call)
  | .updateChannelStatus _ status =>
    inferInstanceAs (Decidable (∀ c ∈ _, if status = .enabled then _ else _))
  | .updateChannelDisabledModels _ _ => inferInstanceAs (Decidable (∀ c ∈ _, _ → _))

/-! ### How often the updates leave an id in a list -/

variable {channels : Table Channel} {id x : ℤ} {set : ModelSet} {group model : String}

@[simp] lemma count_sortByPriority (l : List ℤ) : (sortByPriority channels l).count x = l.count x :=
  (perm_insertionSort _ l).count_eq x

lemma count_syncIds_self (l : List ℤ) :
    (syncIds channels id set model l).count id =
      if set.Disables model then l.count id - 1 else max (l.count id) 1 := by
  unfold syncIds
  split_ifs with hset hmem
  · exact count_erase_self
  · have hpos : 0 < l.count id := count_pos_iff.mpr hmem
    omega
  · simp [count_eq_zero_of_not_mem hmem]

lemma count_syncIds_of_ne (hx : x ≠ id) (l : List ℤ) :
    (syncIds channels id set model l).count x = l.count x := by
  unfold syncIds
  split_ifs
  · exact count_erase_of_ne hx
  · rfl
  · simp [Ne.symm hx]

@[simp] lemma isSome_syncModel (maps : ModelMaps) (pair : String × String) :
    (syncModel channels id set maps pair group).isSome = (maps group).isSome := by
  unfold syncModel
  cases h : maps pair.1 with
  | none => rfl
  | some ids => by_cases hgroup : group = pair.1 <;> simp [hgroup, h]

/-- A turn of the loops rewrites the list of its pair, if the group has a map. -/
lemma ids_syncModel (maps : ModelMaps) (pair : String × String) :
    (syncModel channels id set maps pair).ids group model =
      if pair = (group, model) ∧ (maps group).isSome = true then
        syncIds channels id set model (maps.ids group model)
      else maps.ids group model := by
  obtain ⟨group', model'⟩ := pair
  unfold syncModel
  cases h : maps group' with
  | none =>
    by_cases hgroup : group' = group
    · subst hgroup
      simp [h]
    · simp [hgroup]
  | some ids =>
    by_cases hgroup : group' = group
    · subst hgroup
      by_cases hmodel : model' = model
      · subst hmodel
        simp [ModelMaps.ids, h]
      · simp [ModelMaps.ids, h, hmodel, Ne.symm hmodel]
    · simp [ModelMaps.ids, hgroup, Ne.symm hgroup]

/-- The loops leave the other ids where they are. -/
lemma count_foldl_syncModel_of_ne (hx : x ≠ id) (pairs : List (String × String))
    (maps : ModelMaps) :
    ((pairs.foldl (syncModel channels id set) maps).ids group model).count x =
      (maps.ids group model).count x := by
  induction pairs generalizing maps with
  | nil => rfl
  | cons pair pairs ih =>
    rw [foldl_cons, ih, ids_syncModel]
    split_ifs
    · exact count_syncIds_of_ne hx _
    · rfl

/-- The loops take one occurrence of a disabled model away at each turn, and put one in where an
enabled model has none. -/
lemma count_foldl_syncModel_self (pairs : List (String × String)) (maps : ModelMaps) :
    ((pairs.foldl (syncModel channels id set) maps).ids group model).count id =
      if (maps group).isSome = true ∧ (group, model) ∈ pairs then
        if set.Disables model then
          (maps.ids group model).count id - pairs.count (group, model)
        else max ((maps.ids group model).count id) 1
      else (maps.ids group model).count id := by
  induction pairs generalizing maps with
  | nil => simp
  | cons pair pairs ih =>
    rw [foldl_cons, ih, ids_syncModel]
    by_cases hmap : (maps group).isSome = true
    · by_cases hpair : pair = (group, model)
      · subst hpair
        by_cases hmem : (group, model) ∈ pairs <;> by_cases hset : set.Disables model <;>
          simp [hmap, hmem, hset, count_syncIds_self, count_eq_zero_of_not_mem, Nat.sub_sub,
            Nat.add_comm]
      · simp [hpair, Ne.symm hpair]
    · simp [hmap]

/-! ### What a call does to the ids of its channel and to the others -/

variable {cache : MemoryCache} {status : ChannelStatus} {c : Channel} {call : Call}

def Call.channelId : Call → ℤ
  | .updateChannelStatus id _         => id
  | .updateChannelDisabledModels id _ => id

lemma ids_cacheUpdateStatus :
    (cache.cacheUpdateChannelStatus id status).ids group model =
      if status = .enabled then cache.ids group model else (cache.ids group model).erase id := by
  by_cases h : status = .enabled
  · simp [ids, cacheUpdateChannelStatus, h]
  · cases hmap : cache.group2model2channels group <;>
      simp [ids, ModelMaps.ids, cacheUpdateChannelStatus, h, hmap]

lemma find_cacheUpdateStatus :
    (cache.cacheUpdateChannelStatus id status).channelsIDM.find x =
      if x = id then (cache.channelsIDM.find x).map (Channel.withStatus status)
      else cache.channelsIDM.find x :=
  Table.find_modify cache.channelsIDM id (f := Channel.withStatus status) (fun _ => rfl) x

lemma cacheUpdateModels_of_none (h : cache.channelsIDM.find id = none) :
    cache.cacheUpdateChannelDisabledModels id set = cache := by
  simp [cacheUpdateChannelDisabledModels, h]

lemma find_cacheUpdateModels :
    (cache.cacheUpdateChannelDisabledModels id set).channelsIDM.find x =
      if x = id then (cache.channelsIDM.find x).map (Channel.withDisabledModels set)
      else cache.channelsIDM.find x := by
  cases h : cache.channelsIDM.find id with
  | none =>
    rw [cacheUpdateModels_of_none h]
    split_ifs with hx
    · simp [hx, h]
    · rfl
  | some c =>
    simp only [cacheUpdateChannelDisabledModels, h]
    exact Table.find_modify cache.channelsIDM id (f := Channel.withDisabledModels set)
      (fun _ => rfl) x

lemma ids_cacheUpdateModels (h : cache.channelsIDM.find id = some c) :
    (cache.cacheUpdateChannelDisabledModels id set).ids group model =
      if c.status = .enabled then
        (c.cachePairs.foldl
          (syncModel (cache.channelsIDM.modify id (Channel.withDisabledModels set)) id set)
            cache.group2model2channels).ids group model
      else cache.ids group model := by
  by_cases hstatus : c.status = .enabled <;>
    simp [ids, cacheUpdateChannelDisabledModels, h, hstatus]

lemma find_step_of_ne (hx : x ≠ call.channelId) :
    (cache.step call).channelsIDM.find x = cache.channelsIDM.find x := by
  cases call with
  | updateChannelStatus id status =>
    exact find_cacheUpdateStatus.trans (if_neg hx)
  | updateChannelDisabledModels id set =>
    exact find_cacheUpdateModels.trans (if_neg hx)

/-- A call leaves the ids of the other channels where they are. -/
lemma count_step_of_ne (hx : x ≠ call.channelId) :
    ((cache.step call).ids group model).count x = (cache.ids group model).count x := by
  cases call with
  | updateChannelStatus id status =>
    rw [step, ids_cacheUpdateStatus]
    split_ifs
    · rfl
    · exact count_erase_of_ne hx
  | updateChannelDisabledModels id set =>
    cases h : cache.channelsIDM.find id with
    | none => rw [step, cacheUpdateModels_of_none h]
    | some c =>
      rw [step, ids_cacheUpdateModels h]
      split_ifs
      · exact count_foldl_syncModel_of_ne hx _ _
      · rfl

/-- Calls never list an id more often than its channel repeats the group and the model. -/
lemma Bounded.step (h : cache.Bounded) (call : Call) : (cache.step call).Bounded := by
  intro x c' hc' group model
  by_cases hx : x = call.channelId
  · subst hx
    cases call with
    | updateChannelStatus id status =>
      rw [MemoryCache.step, Call.channelId, find_cacheUpdateStatus, if_pos rfl] at hc'
      obtain ⟨c, hc, rfl⟩ := Option.map_eq_some_iff.mp hc'
      rw [MemoryCache.step, ids_cacheUpdateStatus]
      split_ifs
      · exact h id c hc group model
      · exact erase_sublist.count_le _ |>.trans (h id c hc group model)
    | updateChannelDisabledModels id set =>
      rw [MemoryCache.step, Call.channelId, find_cacheUpdateModels, if_pos rfl] at hc'
      obtain ⟨c, hc, rfl⟩ := Option.map_eq_some_iff.mp hc'
      have hcount := h id c hc group model
      rw [MemoryCache.step, ids_cacheUpdateModels hc]
      split_ifs
      · rw [Call.channelId, count_foldl_syncModel_self]
        show _ ≤ c.cachePairs.count (group, model)
        split_ifs with hmem
        · exact (Nat.sub_le _ _).trans hcount
        · exact max_le hcount (count_pos_iff.mpr hmem.2)
        · exact hcount
      · exact hcount
  · rw [find_step_of_ne hx] at hc'
    rw [count_step_of_ne hx]
    exact h x c' hc' group model

/-! ### When a call keeps the agreement -/

def AgreesAt (cache : MemoryCache) (id : ℤ) : Prop :=
  ∀ group model, 0 < (cache.ids group model).count id ↔
    ∃ c ∈ cache.channelsIDM.find id, c.Lists group model

lemma agrees_iff_forall_agreesAt : cache.Agrees ↔ ∀ id, cache.AgreesAt id := by
  have hmem : ∀ group model id,
      id ∈ (XinghaiApi.initChannelCache cache.channelsIDM).group2model2channels group model ↔
        ∃ c ∈ cache.channelsIDM.find id, c.Lists group model := by
    intro group model id
    simp only [XinghaiApi.initChannelCache, mem_cachedIds, mem_listed, Option.mem_def,
      Table.find_eq_some_iff]
    constructor
    · rintro ⟨c, ⟨hc, hlists⟩, rfl⟩
      exact ⟨c, ⟨hc, rfl⟩, hlists⟩
    · rintro ⟨c, ⟨hc, rfl⟩, hlists⟩
      exact ⟨c, ⟨hc, hlists⟩, rfl⟩
  simp only [Agrees, AgreesAt, hmem, count_pos_iff]
  exact ⟨fun h id group model => h group model id, fun h group model id => h id group model⟩

lemma AgreesAt.step_of_ne (h : cache.AgreesAt x) (hx : x ≠ call.channelId) :
    (cache.step call).AgreesAt x := by
  intro group model
  rw [count_step_of_ne hx, find_step_of_ne hx]
  exact h group model

/-- Only the agreement for the channel of the call is at stake. -/
lemma agrees_step_iff (h : cache.Agrees) :
    (cache.step call).Agrees ↔ (cache.step call).AgreesAt call.channelId := by
  rw [agrees_iff_forall_agreesAt] at h ⊢
  constructor
  · intro hstep
    exact hstep call.channelId
  · intro hid x
    by_cases hx : x = call.channelId
    · exact hx ▸ hid
    · exact (h x).step_of_ne hx

lemma agreesAt_updateChannelStatus_iff (h : cache.AgreesAt id) :
    (cache.cacheUpdateChannelStatus id status).AgreesAt id ↔
      cache.Syncs (.updateChannelStatus id status) := by
  simp only [AgreesAt, Syncs, ids_cacheUpdateStatus, find_cacheUpdateStatus, if_true]
  simp only [AgreesAt] at h
  cases hc : cache.channelsIDM.find id with
  | none =>
    simp only [hc, Option.mem_def, reduceCtorEq, false_and, exists_false, iff_false] at h
    simp only [Option.map_none, Option.mem_def, reduceCtorEq, false_and, exists_false, iff_false,
      false_implies, implies_true, iff_true]
    intro group model
    split_ifs
    · exact h group model
    · have hle : ((cache.ids group model).erase id).count id ≤ (cache.ids group model).count id :=
        erase_sublist.count_le id
      have hzero := h group model
      omega
  | some c =>
    simp only [hc, Option.mem_def, Option.some.injEq, exists_eq_left'] at h
    simp only [Option.map_some, Option.mem_def, Option.some.injEq, exists_eq_left', forall_eq']
    by_cases hstatus : status = .enabled
    · subst hstatus
      simp only [if_true, h]
      constructor
      · intro hsame
        refine or_iff_not_imp_left.mpr fun hoff => ?_
        rw [eq_nil_iff_forall_not_mem]
        rintro ⟨group, model⟩ hpair
        exact hoff ((hsame group model).mpr (Channel.mem_cacheEntries.mp hpair)).1
      · rintro (hon | hnil) group model
        · simp [Channel.Lists, Channel.withStatus, Channel.getDisabledModelSet, hon]
        · have hnot : ¬(c.withStatus .enabled).Lists group model := by
            rw [← Channel.mem_cacheEntries, hnil]
            exact not_mem_nil
          constructor
          · rintro ⟨-, hrest⟩
            exact absurd ⟨rfl, hrest⟩ hnot
          · intro hlists
            exact absurd hlists hnot
    · have hnot : ∀ group model, ¬(c.withStatus status).Lists group model :=
        fun _ _ hlists => hstatus hlists.1
      simp only [if_neg hstatus, count_erase_self, hnot, iff_false, Prod.forall,
        Channel.mem_cacheEntries]
      constructor
      · intro hgone group model _
        have := hgone group model
        omega
      · intro honce group model
        by_cases hlists : c.Lists group model
        · have := honce group model hlists
          omega
        · have := mt (h group model).mp hlists
          omega

lemma agreesAt_updateChannelDisabledModels_iff (h : cache.AgreesAt id) (hbound : cache.Bounded) :
    (cache.cacheUpdateChannelDisabledModels id set).AgreesAt id ↔
      cache.Syncs (.updateChannelDisabledModels id set) := by
  cases hc : cache.channelsIDM.find id with
  | none =>
    rw [cacheUpdateModels_of_none hc]
    simp [h, Syncs, hc]
  | some c =>
    simp only [AgreesAt, hc, Option.mem_def, Option.some.injEq, exists_eq_left'] at h
    simp only [AgreesAt, Syncs, find_cacheUpdateModels, if_true, hc,
      ids_cacheUpdateModels hc, Option.map_some, Option.mem_def, Option.some.injEq,
      exists_eq_left', forall_eq']
    by_cases hstatus : c.status = .enabled
    · -- the loops leave the id in the lists of enabled models whose group has a map
      have hleft : ∀ group model, (group, model) ∈ c.cachePairs →
          (0 < ((c.cachePairs.foldl
            (syncModel (cache.channelsIDM.modify id (Channel.withDisabledModels set)) id set)
              cache.group2model2channels).ids group model).count id ↔
            (cache.group2model2channels group).isSome = true ∧ ¬set.Disables model) := by
        intro group model hpair
        have hle : (cache.group2model2channels.ids group model).count id ≤
            c.cachePairs.count (group, model) := hbound id c hc group model
        rw [count_foldl_syncModel_self]
        by_cases hmap : (cache.group2model2channels group).isSome = true
        · by_cases hset : set.Disables model
          · simp only [hmap, hpair, hset, and_self, if_true, not_true_eq_false, and_false,
              iff_false]
            omega
          · simp [hmap, hpair, hset]
        · have hnil : cache.group2model2channels.ids group model = [] := by
            simp [ModelMaps.ids, Option.not_isSome_iff_eq_none.mp hmap]
          simp [hmap, hnil]
      have hlists : ∀ group model,
          (c.withDisabledModels set).Lists group model ↔
            (group, model) ∈ c.cachePairs ∧
              model ∉ (c.withDisabledModels set).getDisabledModelSet := by
        intro group model
        rw [Channel.Lists, show (c.withDisabledModels set).status = .enabled from hstatus,
          Channel.mem_cachePairs, and_assoc]
        exact and_iff_right rfl
      simp only [hstatus, if_true, true_implies, Prod.forall, hlists]
      constructor
      · intro hagree group model hpair
        rw [← hleft group model hpair, hagree group model]
        exact and_iff_right hpair
      · intro hsync group model
        by_cases hpair : (group, model) ∈ c.cachePairs
        · rw [hleft group model hpair, hsync group model hpair]
          exact (and_iff_right hpair).symm
        · -- a pair that the channel does not name was not listed and is not visited
          have hzero : ¬0 < (cache.group2model2channels.ids group model).count id := by
            intro hpos
            obtain ⟨-, hgroup, hmodel, -⟩ := (h group model).mp hpos
            exact hpair (Channel.mem_cachePairs.mpr ⟨hgroup, hmodel⟩)
          simp [count_foldl_syncModel_self, hpair, hzero]
    · have hnot : ∀ group model, ¬(c.withDisabledModels set).Lists group model :=
        fun _ _ hlists => hstatus hlists.1
      have hzero : ∀ group model, ¬0 < (cache.ids group model).count id := by
        intro group model hpos
        exact hstatus ((h group model).mp hpos).1
      simp [hstatus, hnot, hzero]

/-- A call keeps the agreement just in case it meets the condition. -/
lemma agrees_step_iff_syncs (h : cache.Agrees) (hbound : cache.Bounded) (call : Call) :
    (cache.step call).Agrees ↔ cache.Syncs call := by
  have hat := agrees_iff_forall_agreesAt.mp h
  rw [agrees_step_iff h]
  cases call with
  | updateChannelStatus id status => exact agreesAt_updateChannelStatus_iff (hat id)
  | updateChannelDisabledModels id set =>
    exact agreesAt_updateChannelDisabledModels_iff (hat id) hbound

/-! ### Runs of calls -/

/-- Of rows with distinct ids, those of one channel alone carry its id. -/
lemma count_flatMap_id {rows : List Channel} (hnodup : (rows.map Channel.id).Nodup)
    (f : Channel → List (String × String)) (hc : c ∈ rows) :
    (rows.flatMap fun d => (f d).map fun _ => d.id).count c.id = (f c).length := by
  induction rows with
  | nil => simp at hc
  | cons d rows ih =>
    obtain ⟨hd, hnodup⟩ := nodup_cons.mp hnodup
    rw [flatMap_cons, count_append]
    rcases mem_cons.mp hc with rfl | hc
    · have hrest : (rows.flatMap fun d => (f d).map fun _ => d.id).count c.id = 0 := by
        rw [count_eq_zero]
        intro hmem
        obtain ⟨e, he, hid⟩ := mem_flatMap.mp hmem
        obtain ⟨-, -, hid⟩ := mem_map.mp hid
        exact hd (hid ▸ mem_map_of_mem he)
      rw [hrest]
      simp
    · have hne : d.id ≠ c.id := fun h => hd (h ▸ mem_map_of_mem hc)
      rw [ih hnodup hc]
      simp [count_replicate, hne]

/-- In a rebuild an id is listed once for each entry of its channel. -/
lemma count_cachedIds (hc : channels.find id = some c) :
    (cachedIds channels group model).count id = c.cacheEntries.count (group, model) := by
  obtain ⟨hmem, rfl⟩ := Table.find_eq_some_iff.mp hc
  rw [cachedIds, ((perm_insertionSort _ _).map Channel.id).count_eq, map_flatMap]
  simp only [map_map, Function.comp_def]
  rw [show Row.key c = c.id from rfl, count_flatMap_id channels.nodup _ hmem,
    count_eq_length_filter]
  simp [BEq.beq, Prod.ext_iff]

lemma Channel.count_cacheEntries_le (c : Channel) (pair : String × String) :
    c.cacheEntries.count pair ≤ c.cachePairs.count pair := by
  unfold Channel.cacheEntries
  split_ifs
  · apply List.Sublist.count_le
    apply List.Sublist.flatMap_right
    intro group _
    exact filter_sublist.map _
  · simp

lemma bounded_initChannelCache : (initChannelCache db).Bounded := by
  intro id c hc group model
  have hcount :
      (cachedIds db.channels group model).count id = c.cacheEntries.count (group, model) :=
    count_cachedIds hc
  rw [ids_initChannelCache, hcount]
  exact Channel.count_cacheEntries_le c (group, model)

lemma agrees_initChannelCache : (initChannelCache db).Agrees := by
  intro group model id
  rw [ids_initChannelCache]
  rfl

lemma Agrees.not_mem_ids (h : cache.Agrees) (hc : c ∈ cache.channelsIDM)
    (hstatus : c.status ≠ .enabled) : c.id ∉ cache.ids group model := by
  rw [h group model c.id]
  intro hmem
  obtain ⟨d, hd, hid⟩ := mem_cachedIds.mp hmem
  obtain ⟨hd, hlists⟩ := mem_listed.mp hd
  obtain rfl : d = c := Table.eq_of_key_eq hd hc hid
  exact hstatus hlists.1

/-- After a rebuild, the cache agrees with a rebuild of its channels in every state of a run just in
case every call of the run meets the condition; a channel that is not enabled is in no list then. -/
theorem agrees_states_iff (db : ChannelDB) (calls : List Call) :
    ((∀ cache ∈ states step (initChannelCache db) calls, cache.Agrees) ↔
        Along step Syncs (initChannelCache db) calls) ∧
      (Along step Syncs (initChannelCache db) calls →
        ∀ cache ∈ states step (initChannelCache db) calls, ∀ c ∈ cache.channelsIDM,
          c.status ≠ .enabled → ∀ group model, c.id ∉ cache.ids group model) := by
  have hbound : ∀ cache ∈ states step (initChannelCache db) calls, cache.Bounded :=
    states_invariant (fun _ call h => h.step call) (bounded_initChannelCache db) calls
  have hiff : (∀ cache ∈ states step (initChannelCache db) calls, cache.Agrees) ↔
      Along step Syncs (initChannelCache db) calls := by
    rw [← forall_states_iff_along (I := fun cache => cache.Agrees ∧ cache.Bounded) ?_
      ⟨agrees_initChannelCache db, bounded_initChannelCache db⟩]
    · exact ⟨fun h cache hcache => ⟨h cache hcache, hbound cache hcache⟩,
        fun h cache hcache => (h cache hcache).1⟩
    · rintro cache call ⟨hagrees, hb⟩
      rw [and_iff_left (hb.step call)]
      exact agrees_step_iff_syncs hagrees hb call
  refine ⟨hiff, ?_⟩
  intro hsync cache hcache c hc hstatus group model
  exact (hiff.mpr hsync cache hcache).not_mem_ids hc hstatus

def oneChannel (models : String) : ChannelDB where
  channels :=
    { rows := [{ id := 1, models := models, group := "g" }]
      next := 2
      nodup := by simp
      fresh := forall_mem_singleton.mpr (Int.lt_succ 1) }
  abilities := []

/-- A channel that names its model once is gone after it is disabled. -/
theorem agrees_states_oneChannel :
    Along step Syncs (initChannelCache (oneChannel "m")) [.updateChannelStatus 1 .autoDisabled] ∧
      ((initChannelCache (oneChannel "m")).step (.updateChannelStatus 1 .autoDisabled)).Agrees := by
  have hsync : Along step Syncs (initChannelCache (oneChannel "m"))
      [.updateChannelStatus 1 .autoDisabled] := by decide +kernel
  exact ⟨hsync, (agrees_states_iff _ _).1.mpr hsync _ (by simp)⟩

/-- A channel that names a model twice is still listed after it is disabled. -/
theorem not_agrees_repeatedModel :
    ¬((initChannelCache (oneChannel "m,m")).step
      (.updateChannelStatus 1 .autoDisabled)).Agrees := by
  intro h
  have hlisted : (1 : ℤ) ∈
      ((initChannelCache (oneChannel "m,m")).step
        (.updateChannelStatus 1 .autoDisabled)).ids "g" "m" := by
    decide +kernel
  refine h.not_mem_ids (c := { id := 1, models := "m,m", group := "g", status := .autoDisabled })
    ?_ (by decide) hlisted
  exact mem_singleton.mpr rfl

end MemoryCache

end XinghaiApi
