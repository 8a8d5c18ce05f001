import XinghaiApi.Controller.Relay
import XinghaiApi.Model.ChannelCacheUpdate
import XinghaiApi.Service.ChannelAffinity
import XinghaiApi.Service.Group

/-!
# Which channels a request can reach

A request is routed by `Distribute` first, to a channel that is remembered for one of its values or
to one that is drawn, and after each failed attempt by a selection of its own. Each of these looks
for the group and the model in the channel cache, whatever state it is in, or in the abilities of
the database where there is no cache. All of them stay within the groups of the request. For `auto`
these are the automatic groups of the user and a group of that very name, into which the fallback to
another format looks.
-/

namespace XinghaiApi

open Machine Selection Text List

/-! ### Where channels are looked up -/

/-- The cache in memory, in any state, or the database. -/
inductive ChannelSource where
  | memory (cache : MemoryCache)
  | database (db : ChannelDB)

namespace ChannelSource

/-- The channels that are listed as enabled for a group and a model. -/
def ids : ChannelSource → String → String → List ℤ
  | .memory cache => cache.ids
  | .database db  => fun group model => (db.enabledAbilities group model).map Ability.channelId

def channels : ChannelSource → Table Channel
  | .memory cache => cache.channelsIDM
  | .database db  => db.channels

def getRandomSatisfiedChannelWithCondition (source : ChannelSource) (group model : String)
    (retry : ℕ) (requestPath : String) (condition : Option (Channel → Bool)) (rand : ℕ) :
    Except String (Option Channel) :=
  match source with
  | .memory cache =>
    cache.toChannelCache.getRandomSatisfiedChannelWithCondition group model retry requestPath
      condition rand
  | .database db  => db.getChannelWithCondition group model retry requestPath condition rand

def isChannelEnabledForGroupModel (source : ChannelSource) (group modelName : String)
    (channelId : ℤ) : Bool :=
  group ≠ "" && modelName ≠ "" && 0 < channelId &&
    (channelId ∈ source.ids group modelName ||
      (let normalized := formatMatchingModelName modelName
       normalized ≠ "" && normalized ≠ modelName && channelId ∈ source.ids group normalized))

def Lists (source : ChannelSource) (group modelName : String) (channelId : ℤ) : Prop :=
  channelId ∈ source.ids group modelName ∨
    channelId ∈ source.ids group (formatMatchingModelName modelName)

instance (source : ChannelSource) (group modelName : String) (channelId : ℤ) :
    Decidable (source.Lists group modelName channelId) :=
  inferInstanceAs (Decidable (_ ∨ _))

end ChannelSource

/-! ### What a selection returns is listed -/

variable {cache : ChannelCache} {retry rand : ℕ} {c : Channel} {db : ChannelDB}
  {source : ChannelSource} {group model requestPath : String} {condition : Option (Channel → Bool)}
  {id : ℤ}

lemma exists_of_mapM_channel {ids : List ℤ} {channels : List Channel}
    (h : ids.mapM cache.channel = .ok channels) :
    ∀ c ∈ channels, ∃ id ∈ ids, cache.channel id = .ok c := by
  induction ids generalizing channels with
  | nil =>
    obtain rfl : [] = channels := Except.ok.inj h
    simp
  | cons id ids ih =>
    simp only [mapM_cons, Except.bind_eq_ok] at h
    obtain ⟨d, hchannel, rest, hrest, h⟩ := h
    obtain rfl : d :: rest = channels := Except.ok.inj h
    intro c hc
    rcases mem_cons.mp hc with rfl | hc
    · exact ⟨id, mem_cons_self, hchannel⟩
    · obtain ⟨id', hid', heq⟩ := ih hrest c hc
      exact ⟨id', mem_cons_of_mem id hid', heq⟩

lemma mem_ids_of_mem_candidateIds (h : id ∈ cache.candidateIds group model requestPath condition) :
    id ∈ cache.group2model2channels group model ∨
      id ∈ cache.group2model2channels group (formatMatchingModelName model) := by
  have hpath : ∀ ids, ∀ id ∈ cache.filterChannelsByRequestPathAndModel ids requestPath model,
      id ∈ ids := by
    intro ids id hid
    rw [ChannelCache.filterChannelsByRequestPathAndModel] at hid
    split_ifs at hid
    · exact hid
    · exact mem_of_mem_filter hid
  have hid : id ∈ cache.pathIds group model requestPath := by
    cases condition with
    | none => exact h
    | some p => exact mem_of_mem_filter h
  rw [ChannelCache.pathIds] at hid
  split_ifs at hid
  · exact Or.inr (hpath _ id hid)
  · exact Or.inl (hpath _ id hid)

lemma MemoryCache.lists_of_select {cache : MemoryCache}
    (h : cache.toChannelCache.getRandomSatisfiedChannelWithCondition group model retry requestPath
      condition rand = .ok (some c)) : (ChannelSource.memory cache).Lists group model c.id := by
  rw [ChannelCache.getRandomSatisfiedChannelWithCondition, Except.bind_eq_ok] at h
  obtain ⟨channels, hchannels, h⟩ := h
  have hc : c ∈ channels :=
    (mem_targetChannels.mp (exists_selectChannel_iff.mp ⟨rand, h⟩).1).1
  obtain ⟨id, hid, hchannel⟩ := exists_of_mapM_channel hchannels c hc
  have hfind : cache.channelsIDM.find id = some c := by
    rw [ChannelCache.channel] at hchannel
    cases hfound : cache.toChannelCache.channelsIDM id with
    | none => simp [hfound] at hchannel
    | some d =>
      obtain rfl : d = c := by simpa [hfound] using hchannel
      exact hfound
  obtain ⟨-, rfl⟩ : c ∈ cache.channelsIDM ∧ c.id = id := Table.find_eq_some_iff.mp hfind
  exact mem_ids_of_mem_candidateIds hid

lemma ChannelDB.mem_of_filterAbilitiesBy {abilities kept : List Ability}
    (h : db.filterAbilitiesByCondition condition abilities = .ok kept) :
    ∀ a ∈ kept, a ∈ abilities := by
  induction abilities generalizing kept with
  | nil =>
    obtain rfl : [] = kept := by simpa [filterAbilitiesByCondition] using h
    simp
  | cons b abilities ih =>
    simp only [filterAbilitiesByCondition, Except.bind_eq_ok] at h
    obtain ⟨candidate, -, rest, hrest, h⟩ := h
    obtain rfl := Except.ok.inj h
    intro a ha
    split_ifs at ha
    · rcases mem_cons.mp ha with rfl | ha
      · exact mem_cons_self
      · exact mem_cons_of_mem b (ih hrest a ha)
    · exact mem_cons_of_mem b (ih hrest a ha)

lemma ChannelDB.mem_of_getChannelQuery {rows : List Ability}
    (h : db.getChannelQuery group model retry = .ok rows) :
    ∀ a ∈ rows, a ∈ db.enabledAbilities group model := by
  rw [getChannelQuery] at h
  split_ifs at h
  · obtain rfl := Except.ok.inj h
    exact fun a ha => mem_of_mem_filter ha
  · obtain ⟨p, -, h⟩ := Except.bind_eq_ok.mp h
    obtain rfl := Except.ok.inj h
    exact fun a ha => mem_of_mem_filter ha

lemma ChannelDB.lists_of_select
    (h : db.getChannelWithCondition group model retry requestPath condition rand =
      .ok (some c)) : (ChannelSource.database db).Lists group model c.id := by
  simp only [getChannelWithCondition, Except.bind_eq_ok] at h
  obtain ⟨rows, hrows, kept, hkept, hdrawn⟩ := h
  obtain ⟨a, ha, hfirst⟩ := exists_drawAbility_iff.mp ⟨rand, hdrawn⟩
  have hrow : a ∈ rows := by
    simpa using mem_of_mem_filterAbilities (mem_of_filterAbilitiesBy hkept a ha)
  left
  rw [(first_eq_ok.mp hfirst).2]
  exact mem_map_of_mem (mem_of_getChannelQuery hrows a hrow)

lemma ChannelSource.lists_of_select
    (h : source.getRandomSatisfiedChannelWithCondition group model retry requestPath condition
      rand = .ok (some c)) : source.Lists group model c.id := by
  cases source with
  | memory cache => exact MemoryCache.lists_of_select h
  | database db => exact ChannelDB.lists_of_select h

lemma ChannelSource.lists_of_isChannelEnabled
    (h : source.isChannelEnabledForGroupModel group model id) : source.Lists group model id := by
  simp only [isChannelEnabledForGroupModel, Bool.and_eq_true, Bool.or_eq_true,
    decide_eq_true_eq] at h
  obtain ⟨-, hlisted | ⟨-, hlisted⟩⟩ := h
  · exact Or.inl hlisted
  · exact Or.inr hlisted

/-! ### Selection from any source -/

section

variable {pick : Pick} {listed : String → ℤ → Prop} {param : RetryParam} {ctx : SelectContext}
  {modelName : String}

def PicksListed (pick : Pick) (modelName : String) (listed : String → ℤ → Prop) : Prop :=
  ∀ param group retry c, param.modelName = modelName → pick param group retry = .ok (some c) →
    listed group c.id

lemma toOption_join_eq_some {α ε : Type*} {x : Except ε (Option α)} {a : α} :
    x.toOption.join = some a ↔ x = .ok (some a) := by
  cases x <;> simp [Except.toOption]

/-- A selection changes neither the group and the model of the request nor the automatic groups. -/
structure KeepsRequest (param : RetryParam) (ctx : SelectContext) (selected : Selected) : Prop where
  token : selected.param.tokenGroup = param.tokenGroup
  model : selected.param.modelName = param.modelName
  groups : selected.ctx.getUserAutoGroup = ctx.getUserAutoGroup

lemma selectAutoGroup_keeps (start i : ℕ) (groups : List String) :
    KeepsRequest param ctx (selectAutoGroup pick start i param ctx groups) ∧
      ((selectAutoGroup pick start i param ctx groups).channel = none →
        (selectAutoGroup pick start i param ctx groups).selectGroup = param.tokenGroup) := by
  induction groups generalizing i param ctx with
  | nil => exact ⟨⟨rfl, rfl, rfl⟩, fun _ => rfl⟩
  | cons group groups ih =>
    simp only [selectAutoGroup]
    generalize (if start < i then 0 else param.retry) = priorityRetry
    cases (pick param group priorityRetry).toOption.join with
    | none =>
      obtain ⟨hkeeps, hgroup⟩ := @ih { param with retry := 0 }
        { ctx with autoGroupIndex := some (i + 1) } (i + 1)
      exact ⟨⟨hkeeps.token, hkeeps.model, hkeeps.groups⟩, hgroup⟩
    | some channel =>
      split_ifs
      · exact ⟨⟨rfl, rfl, rfl⟩, by simp⟩
      · exact ⟨⟨rfl, rfl, rfl⟩, by simp⟩

/-- A walk finds channels of its groups. -/
lemma selectAutoGroup_listed (hpick : PicksListed pick modelName listed) (start i : ℕ)
    (hmodel : param.modelName = modelName) (groups : List String)
    (hc : (selectAutoGroup pick start i param ctx groups).channel = some c) :
    ∃ group ∈ groups, listed group c.id := by
  induction groups generalizing i param ctx with
  | nil => simp [selectAutoGroup] at hc
  | cons group groups ih =>
    simp only [selectAutoGroup] at hc
    generalize (if start < i then 0 else param.retry) = priorityRetry at hc
    cases hfound : (pick param group priorityRetry).toOption.join with
    | none =>
      rw [hfound] at hc
      obtain ⟨group', hmem, hlisted⟩ := @ih { param with retry := 0 }
        { ctx with autoGroupIndex := some (i + 1) } (i + 1) hmodel hc
      exact ⟨group', mem_cons_of_mem group hmem, hlisted⟩
    | some channel =>
      rw [hfound] at hc
      have hchannel : some channel = some c := by
        simp only at hc
        split_ifs at hc
        · exact hc
        · exact hc
      obtain rfl := Option.some.inj hchannel
      exact ⟨group, mem_cons_self,
        hpick param group priorityRetry channel hmodel (toOption_join_eq_some.mp hfound)⟩

/-- The groups whose channels a request may use: its own group, and for `auto` the automatic groups
too. -/
def groupsOf (usingGroup : String) (autoGroups : List String) : List String :=
  usingGroup :: if usingGroup = "auto" then autoGroups else []

section

variable (hpick : PicksListed pick modelName listed) (hmodel : param.modelName = modelName)

include hpick hmodel

lemma selectFallback_listed (h : selectFallback pick param group = .ok (some c)) :
    listed group c.id := by
  rw [selectFallback] at h
  split_ifs at h
  · exact hpick param.fallback group param.retry c hmodel h
  · cases h

/-- What a selection finds is listed in one of the groups. -/
lemma cacheGetSatisfied_listed {selected : Selected}
    (h : cacheGetRandomSatisfiedChannel pick param ctx = .ok selected) :
    KeepsRequest param ctx selected ∧ ∀ c, selected.channel = some c →
      ∃ group ∈ groupsOf param.tokenGroup ctx.getUserAutoGroup, listed group c.id := by
  by_cases hauto : param.tokenGroup = "auto"
  · obtain ⟨walked, hwalked, hcases⟩ := cacheGetSatisfied_auto hauto h
    obtain ⟨hkeeps, hgroup⟩ : KeepsRequest param ctx walked ∧
        (walked.channel = none → walked.selectGroup = param.tokenGroup) :=
      hwalked ▸ selectAutoGroup_keeps _ _ _
    rcases hcases with ⟨-, rfl⟩ | ⟨hnone, rfl⟩
    · refine ⟨hkeeps, fun c hc => ?_⟩
      rw [hwalked] at hc
      obtain ⟨group, hmem, hlisted⟩ := selectAutoGroup_listed hpick _ _ hmodel _ hc
      rw [groupsOf, if_pos hauto]
      exact ⟨group, mem_cons_of_mem _ (mem_of_mem_drop hmem), hlisted⟩
    · refine ⟨⟨hkeeps.token, hkeeps.model, hkeeps.groups⟩, fun c hc => ?_⟩
      have hlisted := selectFallback_listed hpick (hkeeps.model.trans hmodel)
        (toOption_join_eq_some.mp hc)
      rw [hgroup hnone] at hlisted
      exact ⟨param.tokenGroup, mem_cons_self, hlisted⟩
  · simp only [cacheGetRandomSatisfiedChannel, if_neg hauto, Except.bind_eq_ok,
      Except.mapError_eq_ok] at h
    obtain ⟨found, hfound, h⟩ := h
    cases found with
    | some d =>
      obtain rfl := Except.ok.inj h
      refine ⟨⟨rfl, rfl, rfl⟩, ?_⟩
      rintro c ⟨⟩
      exact ⟨param.tokenGroup, mem_cons_self, hpick _ _ _ _ hmodel hfound⟩
    | none =>
      obtain ⟨channel, hback, h⟩ := Except.bind_eq_ok.mp h
      obtain rfl := Except.ok.inj h
      refine ⟨⟨rfl, rfl, rfl⟩, ?_⟩
      rintro c rfl
      exact ⟨param.tokenGroup, mem_cons_self,
        selectFallback_listed hpick hmodel (Except.mapError_eq_ok.mp hback)⟩

/-- The second selection, with the channel that failed last, looks into the same groups. -/
lemma getChannelAgain_listed {selected again : Selected}
    (h : cacheGetRandomSatisfiedChannel pick param ctx = .ok selected)
    (hagain : getChannelAgain pick selected = .ok again) :
    KeepsRequest param ctx again ∧ ∀ c, again.channel = some c →
      ∃ group ∈ groupsOf param.tokenGroup ctx.getUserAutoGroup, listed group c.id := by
  obtain ⟨hkeeps, hfirst⟩ := cacheGetSatisfied_listed hpick hmodel h
  rcases getChannelAgain_eq_ok hagain with rfl | ⟨-, -, hagain⟩
  · exact ⟨hkeeps, hfirst⟩
  · have hmodel' : selected.param.withLastAllowed.modelName = modelName :=
      hkeeps.model.trans hmodel
    have htoken : selected.param.withLastAllowed.tokenGroup = param.tokenGroup := hkeeps.token
    obtain ⟨hagain, hsecond⟩ := cacheGetSatisfied_listed hpick hmodel' hagain
    rw [htoken, hkeeps.groups] at hsecond
    exact ⟨⟨hagain.token.trans htoken, hagain.model.trans hkeeps.model,
      hagain.groups.trans hkeeps.groups⟩, hsecond⟩

end

end

/-! ### A request on its way -/

/-- What a request reads of the server when it is routed. -/
structure Server where
  source : ChannelSource
  quotaExceeded : ℤ → Bool := fun _ => false
  apiType : ℤ → APIType := fun _ => .openAI
  groups : GroupSetting
  /-- the groups of the user -/
  userGroup : String
  affinity : ChannelAffinity := {}
  retryTimes : ℤ := 0
  rand : ℕ := 0

namespace Server

variable (server : Server)

def view : ChannelView where
  channels := server.source.channels
  quotaExceeded := server.quotaExceeded
  apiType := server.apiType

def pick : Pick := fun param group retry =>
  server.source.getRandomSatisfiedChannelWithCondition group param.modelName retry
    param.requestPath (some (param.channelSatisfied server.view)) server.rand

/-- The context, with what the server says about groups and retries at that time. -/
def context (ctx : SelectContext) : SelectContext :=
  { ctx with
    retryTimes := server.retryTimes
    autoGroups := server.groups.autoGroups
    usableGroups := server.groups.getUserUsableGroups server.userGroup }

/-- The channel is listed for the model in a group of the request, or for `auto` in an automatic
group that the user may use. -/
def Serves (usingGroup modelName : String) (channelId : ℤ) : Prop :=
  ∃ group ∈ groupsOf usingGroup (server.groups.getUserAutoGroup server.userGroup),
    server.source.Lists group modelName channelId

end Server

structure DistributeRequest extends AffinityRequest where
  origin : RequestOrigin
  crossGroupRetry : Bool := false
  relayFormat : RelayFormat := .openAI

def channelSupportsRequestPath (c : Channel) (requestPath model : String) : Bool :=
  c.type ≠ channelTypeAdvancedCustom ||
    c.advancedCustom.any fun config => config.supportsPathForModel requestPath model

section

variable (server : Server) (request : DistributeRequest) (usingGroup : String) (ctx : SelectContext)

/-- The channel that is remembered for the request, with the context, if it can be used. -/
def preferredChannel : Option (Channel × SelectContext) :=
  ((server.affinity.getPreferredChannelByAffinity request.toAffinityRequest usingGroup).bind
      server.source.channels.find).bind fun preferred =>
    if preferred.status = .enabled ∧
        channelSupportsRequestPath preferred request.path request.modelName then
      if usingGroup = "auto" then
        (ctx.getUserAutoGroup.find? fun g =>
          server.source.isChannelEnabledForGroupModel g request.modelName preferred.id).map
            fun g => (preferred, { ctx with autoGroup := some g })
      else if server.source.isChannelEnabledForGroupModel usingGroup request.modelName
          preferred.id then
        some (preferred, ctx)
      else none
    else none

/-- The channel that `Distribute` chooses. -/
def distributeChannel : Option (Channel × SelectContext) :=
  match preferredChannel server request usingGroup ctx with
  | some found => some found
  | none       =>
    match cacheGetRandomSatisfiedChannel server.pick
        { tokenGroup := usingGroup, modelName := request.modelName, requestPath := request.path }
        ctx with
    | .ok selected => selected.channel.map fun c => (c, selected.ctx)
    | .error _     => none

end

inductive RoutePhase where
  | arrived
  | routed (channel : Channel)
  | ended

/-- A request between its attempts. -/
structure RouteState where
  phase : RoutePhase := .arrived
  param : RetryParam
  ctx : SelectContext

section

variable (request : DistributeRequest) (userGroup usingGroup : String)

def retryParam : RetryParam where
  tokenGroup := relayTokenGroup userGroup usingGroup request.origin
  modelName := request.modelName
  requestPath := normalizePlaygroundPath request.path
  allowedApiTypes := allowedApiTypesForRelayFormat request.relayFormat
  deniedApiTypes := deniedApiTypesForRelayFormat request.relayFormat

/-- A request whose group was found by the checks. -/
def routeStart : RouteState where
  param := retryParam request userGroup usingGroup
  ctx :=
    { retryTimes := 0, autoGroups := [], usableGroups := []
      crossGroupRetry := request.crossGroupRetry }

section

variable (s : RouteState) (server : Server)

def routeFirst : RouteState × Option Channel :=
  match distributeChannel server request usingGroup (server.context s.ctx) with
  | some (c, ctx) => ({ s with phase := .routed c, ctx := ctx }, some c)
  | none          => ({ s with phase := .ended }, none)

/-- The next channel of a request, after the attempt with `last` has failed. No channel is selected
while the counter is at 0: the last one is tried again. -/
def routeRetry (last : Channel) : RouteState × Option Channel :=
  let param := (s.param.addFailedChannel last.id).increaseRetry
  if 0 < param.retry then
    match cacheGetRandomSatisfiedChannel server.pick param (server.context s.ctx) >>=
        getChannelAgain server.pick with
    | .error _     => ({ s with phase := .ended }, none)
    | .ok selected =>
      match selected.channel with
      | none   => ({ s with phase := .ended }, none)
      | some c => ({ phase := .routed c, param := selected.param, ctx := selected.ctx }, some c)
  else ({ s with param := param }, none)

/-- The next turn of a request, and the channel that is selected in it. -/
def route : RouteState × Option Channel :=
  match s.phase with
  | .ended       => (s, none)
  | .arrived     => routeFirst request usingGroup s server
  | .routed last => routeRetry s server last

def routeStep : RouteState :=
  (route request usingGroup s server).1

/-- A channel that is selected is listed, at that moment, for the model in a group that the request
may use. -/
def StaysInGroups : Prop :=
  ∀ c, (route request usingGroup s server).2 = some c →
    server.Serves usingGroup request.modelName c.id

end

variable {request userGroup usingGroup} {s : RouteState} {server : Server}
  {ctx ctx' : SelectContext} {param : RetryParam} {c : Channel}

lemma Server.picksListed (server : Server) (modelName : String) :
    PicksListed server.pick modelName fun group id => server.source.Lists group modelName id := by
  rintro param group retry c rfl h
  exact ChannelSource.lists_of_select h

lemma preferredChannel_listed
    (h : preferredChannel server request usingGroup (server.context ctx) = some (c, ctx')) :
    server.Serves usingGroup request.modelName c.id := by
  rw [preferredChannel, Option.bind_eq_some_iff] at h
  obtain ⟨preferred, -, h⟩ := h
  have husable : preferred.status = .enabled ∧
      channelSupportsRequestPath preferred request.path request.modelName := by
    by_contra hnot
    simp [hnot] at h
  rw [if_pos husable] at h
  rw [Server.Serves, groupsOf]
  split_ifs at h ⊢ with hauto henabled
  · obtain ⟨g, hfind, heq⟩ := Option.map_eq_some_iff.mp h
    obtain ⟨rfl, -⟩ := Prod.mk.inj heq
    have henabled := List.find?_some hfind
    exact ⟨g, mem_cons_of_mem _ (mem_of_find?_eq_some hfind),
      ChannelSource.lists_of_isChannelEnabled henabled⟩
  · obtain ⟨rfl, -⟩ := Prod.mk.inj (Option.some.inj h)
    exact ⟨usingGroup, mem_cons_self, ChannelSource.lists_of_isChannelEnabled henabled⟩

lemma distributeChannel_listed
    (h : distributeChannel server request usingGroup (server.context ctx) = some (c, ctx')) :
    server.Serves usingGroup request.modelName c.id := by
  rw [distributeChannel] at h
  cases hpreferred : preferredChannel server request usingGroup (server.context ctx) with
  | some found =>
    rw [hpreferred] at h
    obtain rfl := Option.some.inj h
    exact preferredChannel_listed hpreferred
  | none =>
    simp only [hpreferred] at h
    split at h
    case h_1 selected hselect =>
      obtain ⟨d, hd, heq⟩ := Option.map_eq_some_iff.mp h
      obtain ⟨rfl, -⟩ := Prod.mk.inj heq
      obtain ⟨-, hlisted⟩ :=
        cacheGetSatisfied_listed (server.picksListed request.modelName) rfl hselect
      exact hlisted d hd
    case h_2 => cases h

/-- The parameters of the retries are those of the request. -/
def OfRequest (request : DistributeRequest) (usingGroup : String) (s : RouteState) : Prop :=
  s.param.tokenGroup = usingGroup ∧ s.param.modelName = request.modelName

/-- A retry selects within the groups, and the next one is for the same request. -/
lemma retry_listed (htoken : param.tokenGroup = usingGroup)
    (hmodel : param.modelName = request.modelName) {again : Selected}
    (h : cacheGetRandomSatisfiedChannel server.pick param (server.context ctx) >>=
      getChannelAgain server.pick = .ok again) :
    again.param.tokenGroup = usingGroup ∧ again.param.modelName = request.modelName ∧
      ∀ c, again.channel = some c → server.Serves usingGroup request.modelName c.id := by
  obtain ⟨selected, hselect, hagain⟩ := Except.bind_eq_ok.mp h
  obtain ⟨hkeeps, hlisted⟩ :=
    getChannelAgain_listed (server.picksListed request.modelName) hmodel hselect hagain
  rw [htoken] at hlisted
  exact ⟨hkeeps.token.trans htoken, hkeeps.model.trans hmodel, hlisted⟩

lemma OfRequest.failed (h : OfRequest request usingGroup s) (id : ℤ) :
    (s.param.addFailedChannel id).increaseRetry.tokenGroup = usingGroup ∧
      (s.param.addFailedChannel id).increaseRetry.modelName = request.modelName := by
  obtain ⟨htoken, hmodel⟩ := h
  cases hreset : s.param.resetNextTry <;>
    simp [RetryParam.increaseRetry, RetryParam.addFailedChannel, hreset, htoken, hmodel]

/-- What a turn comes to: the request is the same, and a channel that was selected is listed. -/
def TurnsListed (request : DistributeRequest) (usingGroup : String) (server : Server)
    (turn : RouteState × Option Channel) : Prop :=
  OfRequest request usingGroup turn.1 ∧
    ∀ c, turn.2 = some c → server.Serves usingGroup request.modelName c.id

lemma OfRequest.turnsListed_none {t : RouteState} (h : OfRequest request usingGroup t) :
    TurnsListed request usingGroup server (t, none) :=
  ⟨h, fun _ hc => by cases hc⟩

lemma OfRequest.turnsListed_some {t : RouteState} (h : OfRequest request usingGroup t)
    (hlisted : server.Serves usingGroup request.modelName c.id) :
    TurnsListed request usingGroup server (t, some c) := by
  refine ⟨h, fun d hd => ?_⟩
  obtain rfl := Option.some.inj hd
  exact hlisted

section

variable (h : OfRequest request usingGroup s)

include h

lemma OfRequest.turnsListed_routeFirst :
    TurnsListed request usingGroup server (routeFirst request usingGroup s server) := by
  have hsame : ∀ phase ctx, OfRequest request usingGroup { s with phase := phase, ctx := ctx } :=
    fun _ _ => ⟨h.1, h.2⟩
  rw [routeFirst]
  cases hfound : distributeChannel server request usingGroup (server.context s.ctx) with
  | none => exact (hsame _ _).turnsListed_none
  | some found => exact (hsame _ _).turnsListed_some (distributeChannel_listed hfound)

lemma OfRequest.turnsListed_routeRetry (last : Channel) :
    TurnsListed request usingGroup server (routeRetry s server last) := by
  have hended : OfRequest request usingGroup { s with phase := .ended } := ⟨h.1, h.2⟩
  obtain ⟨htoken, hmodel⟩ := h.failed last.id
  rw [routeRetry]
  generalize (s.param.addFailedChannel last.id).increaseRetry = param at htoken hmodel ⊢
  split_ifs
  · cases hagain : cacheGetRandomSatisfiedChannel server.pick param (server.context s.ctx) >>=
        getChannelAgain server.pick with
    | error err => exact hended.turnsListed_none
    | ok again =>
      obtain ⟨htoken', hmodel', hlisted⟩ := retry_listed htoken hmodel hagain
      cases hchannel : again.channel with
      | none =>
        simp only [hchannel]
        exact hended.turnsListed_none
      | some c =>
        have hnext : OfRequest request usingGroup
            { phase := .routed c, param := again.param, ctx := again.ctx } := ⟨htoken', hmodel'⟩
        simp only [hchannel]
        exact hnext.turnsListed_some (hlisted c hchannel)
  · have hnext : OfRequest request usingGroup { s with param := param } := ⟨htoken, hmodel⟩
    exact hnext.turnsListed_none

lemma OfRequest.turnsListed_route :
    TurnsListed request usingGroup server (route request usingGroup s server) := by
  rw [route]
  cases s.phase with
  | ended => exact h.turnsListed_none
  | arrived => exact h.turnsListed_routeFirst
  | routed last => exact h.turnsListed_routeRetry last

end

end

/-- Every channel that is selected for a request, by affinity, by a draw, by a retry with or without
a change of format, or again after it failed, is listed for the model in a group of the request. -/
theorem staysInGroups_along (setting : GroupSetting) (request : DistributeRequest)
    (userGroup usingGroup : String)
    (hgroup : setting.requestGroup userGroup request.origin = .ok usingGroup)
    (servers : List Server) :
    Along (routeStep request usingGroup) (StaysInGroups request usingGroup)
      (routeStart request userGroup usingGroup) servers := by
  have hstart : OfRequest request usingGroup (routeStart request userGroup usingGroup) :=
    ⟨relayTokenGroup_eq hgroup, rfl⟩
  have hany : Along (routeStep request usingGroup) (fun _ _ => True)
      (routeStart request userGroup usingGroup) servers :=
    along_of_forall fun _ _ _ => trivial
  apply Along.imp (I := OfRequest request usingGroup) _ hstart hany
  · exact fun s server hs _ => hs.turnsListed_route.2
  · exact fun s server hs _ => hs.turnsListed_route.1

def autoUser : GroupSetting where
  userUsableGroups := ["a", "auto"]
  autoGroups := ["a"]

def requestOf (group : String) : DistributeRequest where
  modelName := "m"
  path := "/v1/chat/completions"
  origin := .token group

/-- A cache that lists one channel for the model in the group `a`, and one of another format in the
group `auto`. -/
def autoListed : MemoryCache where
  group2model2channels := fun group =>
    if group = "a" then some fun model => if model = "m" then [1] else []
    else if group = "auto" then some fun model => if model = "m" then [2] else []
    else none
  channelsIDM :=
    { rows := [{ id := 1, models := "m", group := "a" },
        { id := 2, type := 14, models := "m", group := "auto" }]
      next := 3
      nodup := by decide
      fresh := by decide }
  channel2advancedCustomConfig := fun _ => none

/-- The channels of type 14 are those of Anthropic. -/
def autoServer : Server where
  source := .memory autoListed
  apiType := fun type => if type = 14 then .anthropic else .openAI
  groups := autoUser
  userGroup := "default"
  retryTimes := 3

/-- A request of the group `auto` is served by the automatic group first, and its retry by a channel
of another format that only the group `auto` lists. -/
theorem staysInGroups_along_auto :
    ((steps (routeStep (requestOf "auto") "auto") (routeStart (requestOf "auto") "default" "auto")
        [autoServer, autoServer]).map fun p =>
          (route (requestOf "auto") "auto" p.1 p.2).2.map (·.id)) = [some 1, some 2] ∧
      Along (routeStep (requestOf "auto") "auto") (StaysInGroups (requestOf "auto") "auto")
        (routeStart (requestOf "auto") "default" "auto") [autoServer, autoServer] :=
  ⟨by decide +kernel,
    staysInGroups_along autoUser (requestOf "auto") "default" "auto" (by decide +kernel) _⟩

end XinghaiApi
