import XinghaiApi.Lib.Except
import XinghaiApi.Lib.Run
import XinghaiApi.Relay.Helper.Price
import XinghaiApi.Service.ChannelSelect

/-!
# The retry loop of a relayed request

`Distribute` chooses the first channel, and `Relay` asks for another one after each failed attempt.
One event is one turn of the loop: it carries what the server looks like at that time and how the
attempt ends.
-/

namespace XinghaiApi

open Machine Text

/-! ### Errors and retries -/

structure NewAPIError where
  errorCode : String := ""
  statusCode : ℤ := 500
  skipRetry : Bool := false
deriving DecidableEq

structure RetrySetting where
  automaticRetryErrorCodes : List String :=
    ["channel:no_available_key", "channel:param_override_invalid",
      "channel:header_override_invalid", "channel:model_mapped_error",
      "channel:aws_client_error", "channel:invalid_key", "channel:response_time_exceeded"]
  alwaysSkipRetryCodes : List String := ["bad_response_body"]
  shouldRetryByStatusCode : ℤ → Bool

namespace RetrySetting

variable (setting : RetrySetting)

def shouldRetryByErrorCode (errorCode : String) : Bool :=
  errorCode ≠ "" && errorCode ∈ setting.automaticRetryErrorCodes

/-- Whether a failed attempt is followed by another one. The errors of a channel do not look at how
many retries are left. -/
def shouldRetry (affinitySkip specificChannel : Bool) (err : NewAPIError) (retryTimes : ℤ) : Bool :=
  if affinitySkip then false
  else if hasPrefix err.errorCode "channel:" then setting.shouldRetryByErrorCode err.errorCode
  else if err.skipRetry then false
  else if retryTimes ≤ 0 then false
  else if specificChannel then false
  else if 200 ≤ err.statusCode ∧ err.statusCode < 300 then false
  else if err.statusCode < 100 ∨ 599 < err.statusCode then true
  else if setting.shouldRetryByErrorCode err.errorCode then true
  else if err.errorCode ∈ setting.alwaysSkipRetryCodes then false
  else setting.shouldRetryByStatusCode err.statusCode

end RetrySetting

/-! ### The request -/

structure RelaySetting extends RetrySetting where
  ratios : GroupRatioSetting

/-- How the model of the request is billed. -/
inductive BillingMode where
  | perToken
  | perPrice
  | tieredExpr
deriving DecidableEq

structure RelayRequest where
  userGroup : String
  tokenGroup : String
  modelName : String
  path : String
  relayFormat : RelayFormat := .openAI
  billingMode : BillingMode := .perToken
  specificChannel : Bool := false

def normalizePlaygroundPath (path : String) : String :=
  if hasPrefix path "/pg" then "/v1" ++ String.ofList (path.toList.drop 3) else path

/-- An attempt, with what it would be settled by if it succeeds. -/
structure Attempt where
  channel : Channel
  /-- the group in which the channel was selected -/
  group : String
  usingGroup : String
  settlementRatio : ℚ

/-- The state of a request between the turns of the loop. -/
structure RelayState where
  param : RetryParam
  ctx : SelectContext
  usingGroup : String
  groupRatioInfo : GroupRatioInfo
  /-- the ratio in the snapshot of tiered billing -/
  snapshotRatio : Option ℚ
  channel : Channel
  /-- the group in which the channel was selected -/
  group : String
  attempts : List Attempt := []
  finished : Bool := false

/-- Settlement takes the ratio of the snapshot if there is one. -/
def RelayState.attempt (s : RelayState) : Attempt where
  channel         := s.channel
  group           := s.group
  usingGroup      := s.usingGroup
  settlementRatio := s.snapshotRatio.getD s.groupRatioInfo.groupRatio

/-- How a turn of the loop goes. -/
structure RelayEvent where
  view : ChannelView
  rand : ℕ := 0
  /-- an error while the context is set up for the channel, such as no key being enabled -/
  setupError : Option String := none
  /-- the body of the request cannot be read again -/
  bodyError : Bool := false
  /-- the error of the attempt, after violation fees are normalised -/
  outcome : Option NewAPIError := none
  affinitySkip : Bool := false

/-! ### The first channel -/

/-- `IsChannelEnabledForGroupModel`. -/
def isChannelEnabledForGroupModel (channels : Table Channel) (group modelName : String)
    (channelId : ℤ) : Bool :=
  group ≠ "" && modelName ≠ "" && 0 < channelId &&
    (channelId ∈ cachedIds channels group modelName ||
      (let normalized := formatMatchingModelName modelName
       normalized ≠ "" && normalized ≠ modelName &&
        channelId ∈ cachedIds channels group normalized))

/-- What the first channel is taken from: the token, the affinity of earlier requests, or a draw. -/
inductive FirstChoice where
  | specific (channel : Channel)
  | affinity (preferred : Channel)
  | drawn (rand : ℕ)

/-- The parameters with which `Distribute` selects; they look at no API type. -/
def distributeParam (request : RelayRequest) : RetryParam where
  tokenGroup  := request.tokenGroup
  modelName   := request.modelName
  requestPath := request.path

/-- The first channel of a request, the group in which it was selected and the context. -/
def distribute (request : RelayRequest) (view : ChannelView) (ctx : SelectContext) :
    FirstChoice → Option (Channel × String × SelectContext)
  | .specific channel =>
    if channel.status = .enabled then some (channel, request.tokenGroup, ctx) else none
  | .affinity preferred =>
    if preferred.status = .enabled ∧ preferred.SupportsPath request.path request.modelName then
      if request.tokenGroup = "auto" then
        (ctx.getUserAutoGroup.find? fun g =>
          isChannelEnabledForGroupModel view.channels g request.modelName preferred.id).map
            fun g => (preferred, g, { ctx with autoGroup := some g })
      else if isChannelEnabledForGroupModel view.channels request.tokenGroup request.modelName
          preferred.id then
        some (preferred, request.tokenGroup, ctx)
      else none
    else none
  | .drawn rand =>
    match cacheGetRandomSatisfiedChannel (satisfiedChannel view rand) (distributeParam request)
        ctx with
    | .ok selected => selected.channel.map fun c => (c, selected.selectGroup, selected.ctx)
    | .error _     => none

/-! ### The loop -/

section

variable (setting : RelaySetting) (request : RelayRequest)

/-- The state before the loop: the price is made for the group that the first channel is in. -/
def relayStart (first : Channel × String × SelectContext) : RelayState :=
  let price := handleGroupRatio setting.ratios first.2.2.autoGroup request.userGroup
    request.tokenGroup
  { param :=
      { tokenGroup := request.tokenGroup
        modelName := request.modelName
        requestPath := normalizePlaygroundPath request.path
        allowedApiTypes := allowedApiTypesForRelayFormat request.relayFormat
        deniedApiTypes := deniedApiTypesForRelayFormat request.relayFormat }
    ctx := first.2.2
    usingGroup := price.2
    groupRatioInfo := price.1
    snapshotRatio :=
      if request.billingMode = .tieredExpr then some price.1.groupRatio else none
    channel := first.1
    group := first.2.1 }

/-- The price follows a new group, unless the ratio has been 0. -/
def updateUsingGroup (s : RelayState) (ctx : SelectContext) (selectGroup : String) : RelayState :=
  if selectGroup ≠ "" ∧ selectGroup ≠ s.usingGroup then
    if s.groupRatioInfo.groupRatio ≠ 0 then
      let price := handleGroupRatio setting.ratios ctx.autoGroup request.userGroup selectGroup
      { s with usingGroup := price.2, groupRatioInfo := price.1 }
    else { s with usingGroup := selectGroup }
  else s

/-- The channel that failed last is allowed again if no other one is left. -/
def getChannelAgain (pick : Pick) (selected : Selected) : Except (String × String) Selected :=
  if selected.channel.isNone ∧ 0 < selected.param.retry then
    match selected.param.allowLastFailedChannel with
    | some param => cacheGetRandomSatisfiedChannel pick param selected.ctx
    | none       => .ok selected
  else .ok selected

def getChannelFailed (modelName : String) (err : String × String) : String :=
  "获取分组 " ++ err.1 ++ " 下模型 " ++ modelName ++ " 的可用渠道失败（retry）: " ++ err.2

def noChannel (modelName group : String) : String :=
  "分组 " ++ group ++ " 下模型 " ++ modelName ++ " 的可用渠道不存在"

section

variable (e : RelayEvent) (s : RelayState)

/-- `getChannel` for a retry. -/
def getChannel : Except String RelayState := do
  let pick := satisfiedChannel e.view e.rand
  let selected ← (cacheGetRandomSatisfiedChannel pick s.param s.ctx).mapError
    (getChannelFailed request.modelName)
  let s := updateUsingGroup setting request s selected.ctx selected.selectGroup
  let selected ← (getChannelAgain pick selected).mapError (getChannelFailed request.modelName)
  match selected.channel, e.setupError with
  | none, _              => .error (noChannel request.modelName selected.selectGroup)
  | some _, some err     => .error err
  | some channel, none   =>
    .ok { s with
      param := selected.param, ctx := selected.ctx, channel := channel,
      group := selected.selectGroup }

/-- The channel of a turn: the one that is set at first, and another one for a retry. -/
def turnChannel : Except String RelayState :=
  if 0 < s.param.retry then getChannel setting request e s else .ok s

def attemptChannel : RelayState :=
  if e.bodyError then { s with finished := true }
  else
    let s := { s with attempts := s.attempts ++ [s.attempt] }
    match e.outcome with
    | none     => { s with finished := true }
    | some err =>
      if setting.shouldRetry e.affinitySkip request.specificChannel err
          (s.ctx.retryTimes - s.param.retry) then
        { s with param := (s.param.addFailedChannel s.channel.id).increaseRetry }
      else { s with finished := true }

end

/-- One turn of the loop. -/
def relayStep (s : RelayState) (e : RelayEvent) : RelayState :=
  if s.finished then s
  else if (s.param.retry : ℤ) ≤ s.ctx.retryTimes then
    match turnChannel setting request e s with
    | .error _ => { s with finished := true }
    | .ok s    => attemptChannel setting request e s
  else { s with finished := true }

/-! ### What a turn can do -/

lemma updateUsingGroup_eq (s : RelayState) (ctx : SelectContext) (selectGroup : String) :
    ∃ usingGroup info, updateUsingGroup setting request s ctx selectGroup =
      { s with usingGroup := usingGroup, groupRatioInfo := info } := by
  rw [updateUsingGroup]
  split_ifs
  · exact ⟨_, _, rfl⟩
  · exact ⟨_, _, rfl⟩
  · exact ⟨_, _, rfl⟩

/-- The channel of a second selection was not found by the first one. -/
lemma getChannelAgain_eq_ok {pick : Pick} {selected again : Selected}
    (h : getChannelAgain pick selected = .ok again) :
    again = selected ∨ selected.channel = none ∧ 0 < selected.param.retry ∧
      cacheGetRandomSatisfiedChannel pick selected.param.withLastAllowed selected.ctx =
        .ok again := by
  rw [getChannelAgain, RetryParam.allowLastFailedChannel] at h
  split_ifs at h with hmissed hlast
  · exact Or.inl (Except.ok.inj h).symm
  · exact Or.inr ⟨Option.isNone_iff_eq_none.mp hmissed.1, hmissed.2, h⟩
  · exact Or.inl (Except.ok.inj h).symm

/-- The parameters of the next turn, after an attempt has failed. -/
def RelayState.nextParam (t : RelayState) : RetryParam :=
  (t.param.addFailedChannel t.channel.id).increaseRetry

lemma nextParam_eq (t : RelayState) :
    t.nextParam.tokenGroup = t.param.tokenGroup ∧
      t.nextParam.retry = t.param.increaseRetry.retry ∧
      t.nextParam.resetNextTry = t.param.increaseRetry.resetNextTry := by
  cases hreset : t.param.resetNextTry <;>
    simp [RelayState.nextParam, RetryParam.increaseRetry, RetryParam.addFailedChannel, hreset]

variable {setting request} {e : RelayEvent} {s t : RelayState}

/-- A retry takes the channel of its selection, or of the selection in which the channel that failed
last is allowed again. -/
lemma getChannel_eq_ok (h : getChannel setting request e s = .ok t) :
    ∃ selected again channel,
      cacheGetRandomSatisfiedChannel (satisfiedChannel e.view e.rand) s.param s.ctx = .ok selected ∧
      getChannelAgain (satisfiedChannel e.view e.rand) selected = .ok again ∧
      again.channel = some channel ∧
      t = { updateUsingGroup setting request s selected.ctx selected.selectGroup with
        param := again.param, ctx := again.ctx, channel := channel,
        group := again.selectGroup } := by
  simp only [getChannel, Except.bind_eq_ok, Except.mapError_eq_ok] at h
  obtain ⟨selected, hselected, again, hagain, h⟩ := h
  cases hchannel : again.channel with
  | none => simp [hchannel] at h
  | some channel =>
    cases hsetup : e.setupError with
    | some err => simp [hchannel, hsetup] at h
    | none =>
      simp only [hchannel, hsetup, Except.ok.injEq] at h
      exact ⟨selected, again, channel, hselected, hagain, hchannel, h.symm⟩

lemma attempts_turnChannel (h : turnChannel setting request e s = .ok t) :
    t.attempts = s.attempts ∧ t.finished = s.finished := by
  rw [turnChannel] at h
  split_ifs at h
  · obtain ⟨selected, again, channel, -, -, -, rfl⟩ := getChannel_eq_ok h
    obtain ⟨usingGroup, info, hupdate⟩ :=
      updateUsingGroup_eq setting request s selected.ctx selected.selectGroup
    rw [hupdate]
    exact ⟨rfl, rfl⟩
  · cases h
    exact ⟨rfl, rfl⟩

/-- The turn makes an attempt in the state `t`. -/
structure Turn (setting : RelaySetting) (request : RelayRequest) (s : RelayState) (e : RelayEvent)
    (t : RelayState) : Prop where
  running : s.finished = false
  within : (s.param.retry : ℤ) ≤ s.ctx.retryTimes
  channel : turnChannel setting request e s = .ok t
  body : e.bodyError = false

/-- A turn ends the loop without an attempt, ends it after an attempt, or goes on after one. -/
theorem relayStep_cases {P : RelayState → Prop} (done : s.finished = true → P s)
    (stop : ∀ t, (∀ u, ¬ Turn setting request s e u) → s.finished = false →
      t.attempts = s.attempts → t.finished = true → P t)
    (last : ∀ t, Turn setting request s e t →
      P { t with attempts := s.attempts ++ [t.attempt], finished := true })
    (again : ∀ t, Turn setting request s e t →
      P { t with
        attempts := s.attempts ++ [t.attempt]
        param := (t.param.addFailedChannel t.channel.id).increaseRetry }) :
    P (relayStep setting request s e) := by
  rw [relayStep]
  cases hfinished : s.finished with
  | true => exact done hfinished
  | false =>
    simp only [Bool.false_eq_true, if_false]
    split_ifs with hretry
    · cases hturn : turnChannel setting request e s with
      | error err =>
        exact stop _ (fun u hu => by simpa [hturn] using hu.channel) hfinished rfl rfl
      | ok t =>
        obtain ⟨hattempts, -⟩ := attempts_turnChannel hturn
        cases hbody : e.bodyError with
        | true =>
          refine stop _ (fun u hu => by simpa [hbody] using hu.body) hfinished ?_ ?_
          · simpa [attemptChannel, hbody] using hattempts
          · simp [attemptChannel, hbody]
        | false =>
          have hmade : Turn setting request s e t := ⟨hfinished, hretry, hturn, hbody⟩
          simp only [attemptChannel, hbody, Bool.false_eq_true, if_false, hattempts]
          cases e.outcome with
          | none => exact last t hmade
          | some err =>
            simp only []
            split_ifs
            · exact again t hmade
            · exact last t hmade
    · exact stop _ (fun u hu => hretry hu.within) hfinished rfl rfl

end

/-! ### Runs in which every attempt fails -/

/-- An attempt that the upstream answers with an internal error. -/
def RelayEvent.internalError (view : ChannelView) : RelayEvent :=
  { view := view, outcome := some {} }

/-- All groups have the ratio 1, and all errors with a status code are tried again. -/
def retryAll : RelaySetting where
  shouldRetryByStatusCode _ := true
  ratios := { groupRatio := fun _ => some 1, groupGroupRatio := fun _ _ => none }

/-- A request with automatic selection of its group. -/
def autoRequest : RelayRequest where
  userGroup := "default"
  tokenGroup := "auto"
  modelName := "m"
  path := "/v1/chat/completions"

def defaultChannel : Channel := { id := 1, models := "m", group := "default" }

end XinghaiApi
