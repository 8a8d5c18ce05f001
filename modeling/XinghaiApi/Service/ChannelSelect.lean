import XinghaiApi.Model.ChannelCache
import XinghaiApi.Types.RelayFormat

/-!
# Selection of a channel for a request

`RetryParam` is what a request remembers between its attempts. For the group `auto` the selection
walks the automatic groups of the user from an index that the context keeps; it sets the retry
counter back whenever it leaves a group.
-/

namespace XinghaiApi

open Selection List

/-! ### What a request remembers -/

structure RetryParam where
  tokenGroup : String
  modelName : String
  requestPath : String
  retry : ℕ := 0
  allowedApiTypes : List APIType := []
  deniedApiTypes : List APIType := []
  resetNextTry : Bool := false
  crossFormatFallback : Bool := false
  excludeChannelIds : List ℤ := []
  lastFailedChannelId : ℤ := 0
deriving DecidableEq

namespace RetryParam

variable (param : RetryParam)

def addFailedChannel (channelId : ℤ) : RetryParam :=
  { param with
    excludeChannelIds := channelId :: param.excludeChannelIds
    lastFailedChannelId := channelId }

def withLastAllowed : RetryParam :=
  { param with
    excludeChannelIds := param.excludeChannelIds.filter (· ≠ param.lastFailedChannelId) }

/-- Allow the channel that failed last, if there is one. -/
def allowLastFailedChannel : Option RetryParam :=
  if param.lastFailedChannelId = 0 then none else some param.withLastAllowed

def increaseRetry : RetryParam :=
  if param.resetNextTry then { param with resetNextTry := false }
  else { param with retry := param.retry + 1 }

def allowCrossFormatFallback : Bool :=
  !param.crossFormatFallback &&
    (.anthropic ∈ param.deniedApiTypes ||
      (.anthropic ∈ param.allowedApiTypes && .openAI2Claude ∉ param.allowedApiTypes))

/-- The copy with which a channel of another format is looked for. -/
def fallback : RetryParam :=
  { param with
    crossFormatFallback := true
    allowedApiTypes := crossFormatFallbackAllowed param.allowedApiTypes
    deniedApiTypes := crossFormatFallbackDenied param.deniedApiTypes }

end RetryParam

/-- What a selection reads of the server: the channels, those whose quota is used up, and the API
types of the channel types. -/
structure ChannelView where
  channels : Table Channel
  quotaExceeded : ℤ → Bool := fun _ => false
  apiType : ℤ → APIType := fun _ => .openAI

def RetryParam.channelSatisfied (view : ChannelView) (param : RetryParam) (c : Channel) : Bool :=
  c.id ∉ param.excludeChannelIds && !view.quotaExceeded c.id &&
    (if param.allowedApiTypes ≠ [] then view.apiType c.type ∈ param.allowedApiTypes
      else if param.deniedApiTypes ≠ [] then view.apiType c.type ∉ param.deniedApiTypes
      else true)

/-! ### Selection -/

/-- The settings and the part of the context that selection reads; the context keeps the automatic
group that was selected last and the index of the group to go on with. -/
structure SelectContext where
  retryTimes : ℤ
  autoGroups : List String
  usableGroups : List String
  crossGroupRetry : Bool
  autoGroup : Option String := none
  autoGroupIndex : Option ℕ := none
deriving DecidableEq

def SelectContext.getUserAutoGroup (ctx : SelectContext) : List String :=
  ctx.autoGroups.filter (· ∈ ctx.usableGroups)

structure Selected where
  channel : Option Channel
  selectGroup : String
  param : RetryParam
  ctx : SelectContext

/-- One selection, for some parameters, from a group at a retry. -/
abbrev Pick := RetryParam → String → ℕ → Except String (Option Channel)

section

variable (pick : Pick)

/-- The walk over the automatic groups from index `i` on; it was begun at `start`. -/
def selectAutoGroup (start i : ℕ) (param : RetryParam) (ctx : SelectContext) :
    List String → Selected
  | []                  => ⟨none, param.tokenGroup, param, ctx⟩
  | autoGroup :: groups =>
    let priorityRetry := if start < i then 0 else param.retry
    match (pick param autoGroup priorityRetry).toOption.join with
    | none =>
      selectAutoGroup start (i + 1) { param with retry := 0 }
        { ctx with autoGroupIndex := some (i + 1) } groups
    | some channel =>
      let ctx := { ctx with autoGroup := some autoGroup }
      if ctx.crossGroupRetry ∧ ctx.retryTimes ≤ (priorityRetry : ℤ) then
        -- this request still uses the group, the next retry will use the next one
        ⟨some channel, autoGroup, { param with retry := 0, resetNextTry := true },
          { ctx with autoGroupIndex := some (i + 1) }⟩
      else ⟨some channel, autoGroup, param, { ctx with autoGroupIndex := some i }⟩

/-- A channel of another format, where none of the format of the request was found. -/
def selectFallback (param : RetryParam) (group : String) : Except String (Option Channel) :=
  if param.allowCrossFormatFallback then pick param.fallback group param.retry else .ok none

/-- Errors come with the group that they are reported for. -/
def cacheGetRandomSatisfiedChannel (param : RetryParam) (ctx : SelectContext) :
    Except (String × String) Selected :=
  if param.tokenGroup = "auto" then
    if ctx.autoGroups = [] then .error (param.tokenGroup, "auto groups is not enabled")
    else
      let start := ctx.autoGroupIndex.getD 0
      let selected := selectAutoGroup pick start start param ctx (ctx.getUserAutoGroup.drop start)
      match selected.channel with
      | some _ => .ok selected
      | none   =>
        .ok { selected with
          channel := (selectFallback pick selected.param selected.selectGroup).toOption.join }
  else do
    let found ← (pick param param.tokenGroup param.retry).mapError (param.tokenGroup, ·)
    let channel ← match found with
      | some c => .ok (some c)
      | none   => (selectFallback pick param param.tokenGroup).mapError (param.tokenGroup, ·)
    .ok ⟨channel, param.tokenGroup, param, ctx⟩

variable {pick} in
/-- For the group `auto` the walk decides; if it finds no channel, one of another format is looked
for in the group that is called `auto` itself. -/
lemma cacheGetSatisfied_auto {param : RetryParam} {ctx : SelectContext} {selected : Selected}
    (hauto : param.tokenGroup = "auto")
    (h : cacheGetRandomSatisfiedChannel pick param ctx = .ok selected) :
    ∃ walked, walked = selectAutoGroup pick (ctx.autoGroupIndex.getD 0)
        (ctx.autoGroupIndex.getD 0) param ctx
        (ctx.getUserAutoGroup.drop (ctx.autoGroupIndex.getD 0)) ∧
      (walked.channel ≠ none ∧ selected = walked ∨
        walked.channel = none ∧ selected = { walked with
          channel := (selectFallback pick walked.param walked.selectGroup).toOption.join }) := by
  refine ⟨_, rfl, ?_⟩
  have hgroups : ctx.autoGroups ≠ [] := by
    intro hnil
    simp [cacheGetRandomSatisfiedChannel, hauto, hnil] at h
  rw [cacheGetRandomSatisfiedChannel, if_pos hauto, if_neg hgroups] at h
  dsimp only at h
  split at h
  next c hwalked => exact .inl ⟨by simp [hwalked], (Except.ok.inj h).symm⟩
  next hwalked => exact .inr ⟨hwalked, (Except.ok.inj h).symm⟩

end

/-! ### Selection from the memory cache -/

section

variable (view : ChannelView) (rand : ℕ)

section

variable (param : RetryParam)

/-- One selection from the memory cache, just built. Only a selection that finds a channel draws, so
that one number is enough for all selections that are made until one does. -/
def satisfiedChannel (group : String) (retry : ℕ) : Except String (Option Channel) :=
  (initChannelCache view.channels).getRandomSatisfiedChannelWithCondition group param.modelName
    retry param.requestPath (some (param.channelSatisfied view)) rand

def selectable (group : String) : List Channel :=
  candidates view.channels group param.modelName param.requestPath
    (some (param.channelSatisfied view))

lemma satisfiedChannel_cases (group : String) (retry : ℕ) :
    (selectable view param group = [] ∧ satisfiedChannel view rand param group retry = .ok none) ∨
      ∃ c ∈ targetChannels (selectable view param group) retry,
        satisfiedChannel view rand param group retry = .ok (some c) := by
  have hmem : ∀ c, c ∈ cachedCandidates view.channels group param.modelName param.requestPath
      (some (param.channelSatisfied view)) ↔ c ∈ selectable view param group :=
    fun c => mem_cachedCandidates
  by_cases hnil : selectable view param group = []
  · left
    have hcached : cachedCandidates view.channels group param.modelName param.requestPath
        (some (param.channelSatisfied view)) = [] := by
      simp [eq_nil_iff_forall_not_mem, hmem, hnil]
    exact ⟨hnil, by rw [satisfiedChannel, getRandomSatisfied_eq, hcached]; rfl⟩
  · right
    have hcached : cachedCandidates view.channels group param.modelName param.requestPath
        (some (param.channelSatisfied view)) ≠ [] := by
      obtain ⟨c, hc⟩ := exists_mem_of_ne_nil _ hnil
      exact ne_nil_of_mem ((hmem c).mpr hc)
    obtain ⟨c, hc, heq⟩ := selectChannel_eq_ok group param.modelName hcached retry rand
    refine ⟨c, (mem_targetChannels_congr hmem c).mp hc, ?_⟩
    rw [satisfiedChannel, getRandomSatisfied_eq, heq]

end

variable {view rand} {param : RetryParam} {ctx : SelectContext} {selected : Selected}

variable (view) in
/-- The parameters that decide: those of the request, or of another format if there is no channel
for them. -/
def RetryParam.inForce (param : RetryParam) (group : String) : RetryParam :=
  if selectable view param group = [] ∧ param.allowCrossFormatFallback then param.fallback
  else param

variable (view rand) in
/-- In a fixed group a selection changes nothing. -/
lemma cacheGetSatisfied_fixed (ctx : SelectContext) (hfixed : param.tokenGroup ≠ "auto") :
    ∃ channel, cacheGetRandomSatisfiedChannel (satisfiedChannel view rand) param ctx =
        .ok ⟨channel, param.tokenGroup, param, ctx⟩ ∧
      (channel = none ↔
        selectable view (param.inForce view param.tokenGroup) param.tokenGroup = []) ∧
      ∀ c, channel = some c → c ∈ targetChannels
        (selectable view (param.inForce view param.tokenGroup) param.tokenGroup) param.retry := by
  rcases satisfiedChannel_cases view rand param param.tokenGroup param.retry with
    ⟨hnil, heq⟩ | ⟨c, hc, heq⟩
  · by_cases hallow : param.allowCrossFormatFallback = true
    · have hforce : param.inForce view param.tokenGroup = param.fallback := by
        simp [RetryParam.inForce, hnil, hallow]
      have hback : selectFallback (satisfiedChannel view rand) param param.tokenGroup =
          satisfiedChannel view rand param.fallback param.tokenGroup param.retry := by
        simp [selectFallback, hallow]
      rcases satisfiedChannel_cases view rand param.fallback param.tokenGroup param.retry with
        ⟨hnil', heq'⟩ | ⟨c, hc, heq'⟩
      · refine ⟨none, ?_, by simp [hforce, hnil'], by simp⟩
        simp [cacheGetRandomSatisfiedChannel, hfixed, heq, hback, heq', bind, Except.bind,
          Except.mapError]
      · have hne := ne_nil_of_mem (mem_targetChannels.mp hc).1
        refine ⟨some c, ?_, by simp [hforce, hne], by simpa [hforce] using hc⟩
        simp [cacheGetRandomSatisfiedChannel, hfixed, heq, hback, heq', bind, Except.bind,
          Except.mapError]
    · have hforce : param.inForce view param.tokenGroup = param := by
        simp [RetryParam.inForce, hallow]
      refine ⟨none, ?_, by simp [hforce, hnil], by simp⟩
      simp [cacheGetRandomSatisfiedChannel, hfixed, heq, selectFallback, hallow, bind, Except.bind,
        Except.mapError]
  · have hne := ne_nil_of_mem (mem_targetChannels.mp hc).1
    have hforce : param.inForce view param.tokenGroup = param := by
      simp [RetryParam.inForce, hne]
    refine ⟨some c, ?_, by simp [hforce, hne], by simpa [hforce] using hc⟩
    simp [cacheGetRandomSatisfiedChannel, hfixed, heq, bind, Except.bind, Except.mapError]

/-- The retry counter of the group at offset `k` of a walk. -/
def walkRetry (param : RetryParam) (k : ℕ) : ℕ := if k = 0 then param.retry else 0

/-- What a walk over the automatic groups can come to: it finds a channel in the group at offset
`k`, with the groups before it exhausted, and stays in that group or prepares to leave it; or it
leaves all groups. -/
inductive Walk (view : ChannelView) (start : ℕ) (param : RetryParam) (ctx : SelectContext)
    (groups : List String) : Selected → Prop
  | stay {k : ℕ} {group : String} {channel : Channel} (hgroup : groups[k]? = some group)
      (hchannel : channel ∈ targetChannels (selectable view param group) (walkRetry param k))
      (hmore : ¬ (ctx.crossGroupRetry ∧ ctx.retryTimes ≤ walkRetry param k)) :
      Walk view start param ctx groups
        ⟨some channel, group, { param with retry := walkRetry param k },
          { ctx with autoGroup := some group, autoGroupIndex := some (start + k) }⟩
  | leave {k : ℕ} {group : String} {channel : Channel} (hgroup : groups[k]? = some group)
      (hchannel : channel ∈ targetChannels (selectable view param group) (walkRetry param k))
      (hlast : ctx.crossGroupRetry ∧ ctx.retryTimes ≤ walkRetry param k) :
      Walk view start param ctx groups
        ⟨some channel, group, { param with retry := 0, resetNextTry := true },
          { ctx with autoGroup := some group, autoGroupIndex := some (start + k + 1) }⟩
  | none (hgroups : groups = []) :
      Walk view start param ctx groups ⟨none, param.tokenGroup, param, ctx⟩
  | exhausted (hgroups : groups ≠ []) :
      Walk view start param ctx groups ⟨none, param.tokenGroup, { param with retry := 0 },
        { ctx with autoGroupIndex := some (start + groups.length) }⟩

/-- A group without a channel is passed over. -/
lemma Walk.cons {start : ℕ} {groups : List String} (group : String)
    (h : Walk view (start + 1) { param with retry := 0 }
      { ctx with autoGroupIndex := some (start + 1) } groups selected) :
    Walk view start param ctx (group :: groups) selected := by
  have hzero : ∀ k, walkRetry { param with retry := 0 } k = walkRetry param (k + 1) := by
    simp [walkRetry]
  cases h with
  | @stay k _ _ hgroup hchannel hmore =>
    rw [hzero] at hchannel hmore
    have h : Walk view start param ctx (group :: groups) _ :=
      .stay (by simpa using hgroup) hchannel hmore
    simpa [hzero, Nat.add_assoc, Nat.add_comm 1] using h
  | @leave k _ _ hgroup hchannel hlast =>
    rw [hzero] at hchannel hlast
    have h : Walk view start param ctx (group :: groups) _ :=
      .leave (by simpa using hgroup) hchannel hlast
    simpa [Nat.add_assoc, Nat.add_comm 1] using h
  | none hgroups =>
    subst hgroups
    exact .exhausted (cons_ne_nil group [])
  | exhausted hgroups =>
    have h : Walk view start param ctx (group :: groups) _ :=
      .exhausted (cons_ne_nil group groups)
    simpa [Nat.add_assoc, Nat.add_comm 1] using h

/-- Behind its first group a walk has set the retry counter back. -/
lemma walk_selectAutoGroup (start i : ℕ) (param : RetryParam) (ctx : SelectContext)
    (groups : List String) (hretry : start < i → param.retry = 0) :
    Walk view i param ctx groups
      (selectAutoGroup (satisfiedChannel view rand) start i param ctx groups) := by
  induction groups generalizing i param ctx with
  | nil => exact .none rfl
  | cons group groups ih =>
    have hpriority : (if start < i then 0 else param.retry) = walkRetry param 0 := by
      split_ifs with hi
      · exact (hretry hi).symm
      · rfl
    simp only [selectAutoGroup, hpriority]
    rcases satisfiedChannel_cases view rand param group (walkRetry param 0) with
      ⟨-, heq⟩ | ⟨channel, hchannel, heq⟩
    · simp only [heq]
      exact Walk.cons group (ih (i + 1) _ _ fun _ => rfl)
    · simp only [heq]
      show Walk view i param ctx _ (if _ then _ else _)
      split_ifs with hlast
      · exact .leave rfl hchannel hlast
      · exact .stay rfl hchannel hlast

lemma walk_of_select (hauto : param.tokenGroup = "auto")
    (h : cacheGetRandomSatisfiedChannel (satisfiedChannel view rand) param ctx = .ok selected) :
    ∃ walked, Walk view (ctx.autoGroupIndex.getD 0) param ctx
        (ctx.getUserAutoGroup.drop (ctx.autoGroupIndex.getD 0)) walked ∧
      ((walked.channel ≠ none ∧ selected = walked) ∨
        walked.channel = none ∧ ∃ channel, selected = { walked with channel := channel } ∧
          ∀ c, channel = some c → walked.param.allowCrossFormatFallback ∧
            c ∈ selectable view walked.param.fallback walked.selectGroup) := by
  obtain ⟨walked, hwalked, hcases⟩ := cacheGetSatisfied_auto hauto h
  have hwalk : Walk view (ctx.autoGroupIndex.getD 0) param ctx
      (ctx.getUserAutoGroup.drop (ctx.autoGroupIndex.getD 0)) walked := by
    rw [hwalked]
    exact walk_selectAutoGroup _ _ param ctx _ fun h => absurd h (lt_irrefl _)
  rcases hcases with hfound | ⟨hnone, hselected⟩
  · exact ⟨walked, hwalk, .inl hfound⟩
  · refine ⟨walked, hwalk, .inr ⟨hnone, _, hselected, ?_⟩⟩
    intro c hc
    by_cases hallow : walked.param.allowCrossFormatFallback = true
    · rw [selectFallback, if_pos hallow] at hc
      refine ⟨hallow, ?_⟩
      rcases satisfiedChannel_cases view rand walked.param.fallback walked.selectGroup
        walked.param.retry with ⟨-, heq⟩ | ⟨d, hd, heq⟩
      · rw [heq] at hc
        cases hc
      · rw [heq] at hc
        cases hc
        exact (mem_targetChannels.mp hd).1
    · rw [selectFallback, if_neg hallow] at hc
      cases hc

end

end XinghaiApi
