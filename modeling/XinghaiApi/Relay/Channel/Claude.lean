import Mathlib.Algebra.Order.Ring.Int
import Mathlib.Data.List.Basic
import XinghaiApi.Lib.Except
import XinghaiApi.Service.RelayConvert.Usage
import XinghaiApi.Types.RelayFormat

/-!
# Answers of Claude

A plain answer reports its usage once. A stream reports a first usage with `message_start` and
completes it with `message_delta`; at the end counts that are missing are estimated from the text
that came through. The usage is kept twice: as plain counts, and as a billing usage that is taken of
them at each report.
-/

namespace XinghaiApi

open Dto InputTokenDetails UsageCounts

/-- What the gateway can count by itself for a request. The two estimators, `EstimateTokenByModel`
and `CountTextToken`, are parameters: tables of weights and the tokenizers of the models are behind
them, and what is shown holds whatever they return. -/
structure TokenEstimates where
  estimatePromptTokens : ℕ
  upstreamModelName : String
  estimateTokenByModel : (model text : String) → ℕ
  countTextToken : (text model : String) → ℕ

def responseText2Usage (env : TokenEstimates) (responseText modeName : String) : Usage where
  promptTokens := env.estimatePromptTokens
  completionTokens := env.estimateTokenByModel modeName responseText
  totalTokens := env.estimatePromptTokens + env.estimateTokenByModel modeName responseText

/-! ### Plain answers -/

/-- `HandleClaudeResponseData`, as far as it is about usage. -/
def handleClaudeResponseData (usage : Option ClaudeUsage) : Usage :=
  match usage with
  | none   => {}
  | some u =>
    { promptTokens := u.inputTokens
      completionTokens := u.outputTokens
      totalTokens := u.inputTokens + u.outputTokens
      usageSemantic := some .anthropic
      billingUsage := newClaudeMessagesBillingUsage u
      promptTokensDetails :=
        { cachedTokens := u.cacheReadInputTokens
          cachedCreationTokens := u.cacheCreationInputTokens }
      claudeCacheCreation5mTokens := u.getCacheCreation5mTokens
      claudeCacheCreation1hTokens := u.getCacheCreation1hTokens }

/-! ### Streams -/

inductive ClaudeEvent where
  /-- the model and the usage of the message, if there is one -/
  | messageStart (message : Option (String × Option ClaudeUsage))
  | contentBlockStart
  | contentBlockDelta (text thinking : Option String)
  | messageDelta (usage : Option ClaudeUsage)
  /-- `ping`, `content_block_stop`, `message_stop` -/
  | other
  /-- an error of the upstream -/
  | error (type message : String)
  /-- data that is no JSON -/
  | malformed (message : String)
deriving DecidableEq

def ClaudeEvent.isError : ClaudeEvent → Bool
  | .error _ _ | .malformed _ => true
  | _ => false

inductive ClaudeStreamError where
  | claude (type message : String)
  | badResponseBody (message : String)
deriving DecidableEq

structure ClaudeResponseInfo where
  responseText : String := ""
  usage : Usage := {}
  done : Bool := false
deriving DecidableEq

/-- What the handler of a stream keeps: its own record, and the model name of the request. -/
structure ClaudeStream extends ClaudeResponseInfo where
  upstreamModelName : String
deriving DecidableEq

open ClaudeStream

/-- The Claude report that plain counts stand for. -/
def claudeUsageFromSemanticUsage (usage : UsageCounts) : ClaudeUsage :=
  let split := normalizeCacheCreationSplit usage.promptTokensDetails.cachedCreationTokens
    usage.claudeCacheCreation5mTokens usage.claudeCacheCreation1hTokens
  { inputTokens := usage.promptTokens
    cacheCreationInputTokens := usage.promptTokensDetails.cachedCreationTokens
    cacheReadInputTokens := usage.promptTokensDetails.cachedTokens
    outputTokens := usage.completionTokens
    cacheCreation := if 0 < split.1 ∨ 0 < split.2 then some ⟨split.1, split.2⟩ else none }

def claudeBillingUsageFromSemanticUsage (usage : UsageCounts) : Option BillingUsage :=
  newClaudeMessagesBillingUsage (claudeUsageFromSemanticUsage usage)

/-- The counts after `message_start`. -/
def startUsage (usage : UsageCounts) (u : ClaudeUsage) : UsageCounts :=
  { usage with
    promptTokens := u.inputTokens
    usageSemantic := some .anthropic
    promptTokensDetails :=
      { usage.promptTokensDetails with
        cachedTokens := u.cacheReadInputTokens
        cachedCreationTokens := u.cacheCreationInputTokens }
    claudeCacheCreation5mTokens := u.getCacheCreation5mTokens
    claudeCacheCreation1hTokens := u.getCacheCreation1hTokens
    completionTokens := u.outputTokens }

/-- A later count stands in for an earlier one if it is positive. -/
def orElsePos (later earlier : Int) : Int := if 0 < later then later else earlier

/-- The counts after `message_delta`. -/
def deltaUsage (usage : UsageCounts) (u : ClaudeUsage) : UsageCounts :=
  let promptTokens := orElsePos u.inputTokens usage.promptTokens
  let completionTokens := orElsePos u.outputTokens usage.completionTokens
  { usage with
    usageSemantic := some .anthropic
    promptTokens := promptTokens
    promptTokensDetails :=
      { usage.promptTokensDetails with
        cachedTokens := orElsePos u.cacheReadInputTokens usage.promptTokensDetails.cachedTokens
        cachedCreationTokens :=
          orElsePos u.cacheCreationInputTokens usage.promptTokensDetails.cachedCreationTokens }
    claudeCacheCreation5mTokens :=
      orElsePos u.getCacheCreation5mTokens usage.claudeCacheCreation5mTokens
    claudeCacheCreation1hTokens :=
      orElsePos u.getCacheCreation1hTokens usage.claudeCacheCreation1hTokens
    completionTokens := completionTokens
    totalTokens := promptTokens + completionTokens }

/-- New counts, with the billing usage taken of them. -/
def ClaudeResponseInfo.withCounts (info : ClaudeResponseInfo) (usage : UsageCounts) :
    ClaudeResponseInfo :=
  { info with
    usage := { usage with billingUsage := claudeBillingUsageFromSemanticUsage usage } }

def formatClaudeResponseInfo (info : ClaudeResponseInfo) : ClaudeEvent → ClaudeResponseInfo
  | .messageStart (some (_, some u)) => info.withCounts (startUsage info.usage.toUsageCounts u)
  | .contentBlockDelta text thinking =>
    { info with responseText := info.responseText ++ text.getD "" ++ thinking.getD "" }
  | .messageDelta (some u) =>
    { info.withCounts (deltaUsage info.usage.toUsageCounts u) with done := true }
  | .messageDelta none => { info with done := true }
  | _ => info

/-- `HandleStreamResponseData` for an event that is no error, for the clients that a stream is
converted for: those of Claude and of OpenAI, as for any other one nothing is gathered. A client of
Claude makes the model of the message the model of the request. -/
def ClaudeStream.accept (format : RelayFormat) (stream : ClaudeStream) (event : ClaudeEvent) :
    ClaudeStream where
  toClaudeResponseInfo := formatClaudeResponseInfo stream.toClaudeResponseInfo event
  upstreamModelName :=
    match format, event with
    | .claude, .messageStart (some (model, _)) => model
    | _, _ => stream.upstreamModelName

/-- `HandleStreamResponseData` for the events of a stream. -/
def handleStreamResponseData (format : RelayFormat) (stream : ClaudeStream) :
    List ClaudeEvent → Except ClaudeStreamError ClaudeStream
  | []                        => .ok stream
  | .error type message :: _  => .error (.claude type message)
  | .malformed message :: _   => .error (.badResponseBody message)
  | event :: events           => handleStreamResponseData format (stream.accept format event) events

/-- A report that is patched with the counts that are known so far. -/
def buildMessageDeltaPatchUsage (response : Option ClaudeUsage) (info : ClaudeResponseInfo) :
    ClaudeUsage :=
  let u := response.getD {}
  let counts := info.usage.toUsageCounts
  let inputTokens :=
    if u.inputTokens = 0 ∧ 0 < counts.promptTokens then counts.promptTokens else u.inputTokens
  let cacheReadInputTokens :=
    if u.cacheReadInputTokens = 0 ∧ 0 < counts.promptTokensDetails.cachedTokens then
      counts.promptTokensDetails.cachedTokens
    else u.cacheReadInputTokens
  let cacheCreationInputTokens :=
    if u.cacheCreationInputTokens = 0 ∧ 0 < counts.promptTokensDetails.cachedCreationTokens then
      counts.promptTokensDetails.cachedCreationTokens
    else u.cacheCreationInputTokens
  let reported :=
    match u.cacheCreation with
    | some c => (c.ephemeral5mInputTokens, c.ephemeral1hInputTokens)
    | none   => (counts.claudeCacheCreation5mTokens, counts.claudeCacheCreation1hTokens)
  let split := normalizeCacheCreationSplit cacheCreationInputTokens reported.1 reported.2
  { u with
    inputTokens := inputTokens
    cacheReadInputTokens := cacheReadInputTokens
    cacheCreationInputTokens := cacheCreationInputTokens
    cacheCreation :=
      if u.cacheCreation.isSome ∨ 0 < split.1 ∨ 0 < split.2 then some ⟨split.1, split.2⟩
      else none }

/-- The counts with those that are missing or incomplete estimated from the text. -/
def ClaudeStream.completeUsage (env : TokenEstimates) (stream : ClaudeStream) : UsageCounts :=
  let usage := stream.usage.toUsageCounts
  if usage.completionTokens = 0 ∨ stream.done = false then
    let fallback := responseText2Usage env stream.responseText stream.upstreamModelName
    let completionTokens :=
      if usage.completionTokens = 0 ∨
          stream.done = false ∧ usage.completionTokens < fallback.completionTokens then
        fallback.completionTokens
      else usage.completionTokens
    let promptTokens :=
      if usage.promptTokens = 0 then fallback.promptTokens else usage.promptTokens
    { usage with
      completionTokens := completionTokens
      promptTokens := promptTokens
      totalTokens := promptTokens + completionTokens }
  else usage

/-- `HandleStreamFinalResponse`. A billing usage is made of the completed counts only if there is
none yet. -/
def handleStreamFinalResponse (env : TokenEstimates) (stream : ClaudeStream) : Usage :=
  let usage : Usage :=
    { stream.completeUsage env with
      usageSemantic := some .anthropic
      billingUsage := stream.usage.billingUsage }
  { usage with
    billingUsage := usage.billingUsage <|> newClaudeMessagesBillingUsage
      (buildMessageDeltaPatchUsage none { stream.toClaudeResponseInfo with usage := usage }) }

def claudeStreamHandler (env : TokenEstimates) (format : RelayFormat) (events : List ClaudeEvent) :
    Except ClaudeStreamError Usage :=
  (handleStreamResponseData format { upstreamModelName := env.upstreamModelName } events).map
    (handleStreamFinalResponse env)

/-! ### The usage is kept twice -/

variable {info : ClaudeResponseInfo} (env : TokenEstimates)

/-- The billing usage is that of the counts. -/
structure ClaudeResponseInfo.Consistent (info : ClaudeResponseInfo) : Prop where
  billing : info.usage.billingUsage = claudeBillingUsageFromSemanticUsage info.usage.toUsageCounts
  noCacheWrite : info.usage.promptTokensDetails.cacheWriteTokens = 0

lemma ClaudeResponseInfo.Consistent.format (h : info.Consistent) (event : ClaudeEvent) :
    (formatClaudeResponseInfo info event).Consistent := by
  cases event with
  | messageStart message =>
    match message with
    | none              => exact h
    | some (_, none)    => exact h
    | some (_, some u)  => exact ⟨rfl, h.noCacheWrite⟩
  | messageDelta usage =>
    cases usage with
    | none   => exact ⟨h.billing, h.noCacheWrite⟩
    | some u => exact ⟨rfl, h.noCacheWrite⟩
  | contentBlockDelta text thinking => exact ⟨h.billing, h.noCacheWrite⟩
  | contentBlockStart => exact h
  | other => exact h
  | error type message => exact h
  | malformed message => exact h

lemma ClaudeResponseInfo.Consistent.isSome_billingUsage (h : info.Consistent) :
    info.usage.billingUsage.isSome =
      hasClaudeUsageTokens (claudeUsageFromSemanticUsage info.usage.toUsageCounts) := by
  rw [h.billing, claudeBillingUsageFromSemanticUsage, newClaudeMessagesBillingUsage]
  split <;> simp [*]

namespace ClaudeStream

section

variable (format : RelayFormat) (events : List ClaudeEvent)

/-- What the handler has of a stream before it completes the counts. -/
def gathered : ClaudeStream :=
  events.foldl (accept format) { upstreamModelName := env.upstreamModelName }

lemma gathered_concat (event : ClaudeEvent) :
    gathered env format (events ++ [event]) = (gathered env format events).accept format event := by
  rw [gathered, List.foldl_concat, ← gathered]

end

lemma consistent_foldl {stream : ClaudeStream}
    (h : stream.toClaudeResponseInfo.Consistent) (format : RelayFormat)
    (events : List ClaudeEvent) :
    (events.foldl (accept format) stream).toClaudeResponseInfo.Consistent := by
  induction events generalizing stream with
  | nil => exact h
  | cons event events ih => exact ih (h.format event)

lemma consistent_gathered (format : RelayFormat) (events : List ClaudeEvent) :
    (gathered env format events).toClaudeResponseInfo.Consistent :=
  consistent_foldl ⟨rfl, rfl⟩ format events

end ClaudeStream

/-! ### Streams without an error -/

variable {events : List ClaudeEvent} {format : RelayFormat}

lemma handleStreamResponseData_eq_ok_iff {stream result : ClaudeStream} :
    handleStreamResponseData format stream events = .ok result ↔
      (∀ event ∈ events, event.isError = false) ∧ events.foldl (accept format) stream = result := by
  induction events generalizing stream with
  | nil => simp [handleStreamResponseData]
  | cons event events ih =>
    cases event with
    | error type message => simp [handleStreamResponseData, ClaudeEvent.isError]
    | malformed message => simp [handleStreamResponseData, ClaudeEvent.isError]
    | _ => simpa [handleStreamResponseData, ClaudeEvent.isError] using ih

lemma claudeStreamHandler_of_not_isError (format : RelayFormat)
    (h : ∀ event ∈ events, event.isError = false) :
    claudeStreamHandler env format events =
      .ok (handleStreamFinalResponse env (gathered env format events)) := by
  rw [claudeStreamHandler, handleStreamResponseData_eq_ok_iff.mpr ⟨h, rfl⟩]
  rfl

lemma claudeStreamHandler_eq_final {env : TokenEstimates} {usage : Usage}
    (h : claudeStreamHandler env format events = .ok usage) :
    usage = handleStreamFinalResponse env (gathered env format events) := by
  obtain ⟨stream, hdata, rfl⟩ := Except.map_eq_ok.mp h
  rw [gathered, (handleStreamResponseData_eq_ok_iff.mp hdata).2]

/-! ### What is settled for a stream -/

section

variable {stream : ClaudeStream}

/-- The estimate for the text that came through. -/
def ClaudeStream.estimate (env : TokenEstimates) (stream : ClaudeStream) : ℕ :=
  env.estimateTokenByModel stream.upstreamModelName stream.responseText

/-- Nothing is estimated that settlement would not see. If a usage was reported, settlement sees
the report alone; otherwise it sees the estimated prompt tokens, and all counts only if there are
no such tokens. -/
def ClaudeStream.EstimatesSettled (env : TokenEstimates) (stream : ClaudeStream) : Prop :=
  (stream.usage.billingUsage.isSome →
    (stream.done = true ∧ stream.usage.completionTokens ≠ 0) ∨
      (stream.estimate env ≤ stream.usage.completionTokens ∧
        (stream.usage.promptTokens = 0 → env.estimatePromptTokens = 0))) ∧
  (stream.usage.billingUsage.isSome = false →
    env.estimatePromptTokens = 0 ∨ stream.estimate env = 0)

lemma Dto.InputTokenDetails.cacheCreationTotal_of_noCacheWrite {details : InputTokenDetails}
    (h : details.cacheWriteTokens = 0) :
    details.cacheCreationTokensTotal = max details.cachedCreationTokens 0 := by
  rw [cacheCreationTokensTotal]
  split_ifs <;> omega

/-- A report of Claude has its tokens in the fields that are settled. -/
lemma tokens_usageFromClaude (billingUsage : BillingUsage) (u : ClaudeUsage) :
    (usageFromClaudeBillingUsage billingUsage u).tokens =
      ⟨u.inputTokens, u.outputTokens, u.cacheReadInputTokens,
        max u.cacheCreationInputTokens 0⟩ := by
  simp only [tokens, usageFromClaudeBillingUsage, TokenCounts.mk.injEq, true_and]
  exact cacheCreationTotal_of_noCacheWrite rfl

namespace ClaudeStream

lemma promptTokensDetails_completeUsage :
    (stream.completeUsage env).promptTokensDetails = stream.usage.promptTokensDetails := by
  simp only [completeUsage]
  split <;> rfl

/-- The completed counts are those that were there if nothing was missing, or if the estimates add
nothing. -/
lemma completeUsage_eq_iff :
    ((stream.completeUsage env).promptTokens = stream.usage.promptTokens ∧
      (stream.completeUsage env).completionTokens = stream.usage.completionTokens) ↔
    (stream.done = true ∧ stream.usage.completionTokens ≠ 0) ∨
      (stream.estimate env ≤ stream.usage.completionTokens ∧
        (stream.usage.promptTokens = 0 → env.estimatePromptTokens = 0)) := by
  simp only [completeUsage, responseText2Usage, estimate]
  rcases hdone : stream.done with _ | _
  · simp only [or_true, true_and]
    split_ifs <;> simp <;> omega
  · simp only [Bool.true_eq_false, or_false]
    split_ifs <;> simp <;> omega

lemma tokens_final_eq_iff :
    stream.usage.tokens = (handleStreamFinalResponse env stream).tokens ↔
      (stream.completeUsage env).promptTokens = stream.usage.promptTokens ∧
        (stream.completeUsage env).completionTokens = stream.usage.completionTokens := by
  simp only [handleStreamFinalResponse, tokens,
    promptTokensDetails_completeUsage, TokenCounts.mk.injEq, and_true]
  exact and_congr eq_comm eq_comm

lemma billingUsage_final_of_report (h : stream.toClaudeResponseInfo.Consistent)
    (htokens : hasClaudeUsageTokens
      (claudeUsageFromSemanticUsage stream.usage.toUsageCounts) = true) :
    (handleStreamFinalResponse env stream).billingUsage =
      newClaudeMessagesBillingUsage (claudeUsageFromSemanticUsage stream.usage.toUsageCounts) := by
  simp only [handleStreamFinalResponse, h.billing, claudeBillingUsageFromSemanticUsage,
    newClaudeMessagesBillingUsage, htokens]
  rfl

/-- With a report, settlement sees the counts of the report. -/
lemma settledTokens_final_of_report (h : stream.toClaudeResponseInfo.Consistent)
    (htokens : hasClaudeUsageTokens
      (claudeUsageFromSemanticUsage stream.usage.toUsageCounts) = true) :
    settledTokens (handleStreamFinalResponse env stream) = stream.usage.tokens := by
  rw [settledTokens, effectiveUsage_of_claude (billingUsage_final_of_report env h htokens) htokens,
    tokens_usageFromClaude, tokens, cacheCreationTotal_of_noCacheWrite h.noCacheWrite]
  rfl

end ClaudeStream

/-- Without a report all counts are zero, and so is the split of the cache. -/
lemma eq_zero_of_hasClaudeUsageTokens_eq_false {usage : UsageCounts}
    (h : hasClaudeUsageTokens (claudeUsageFromSemanticUsage usage) = false) :
    usage.promptTokens = 0 ∧ usage.completionTokens = 0 ∧
      usage.promptTokensDetails.cachedTokens = 0 ∧
      usage.promptTokensDetails.cachedCreationTokens = 0 ∧
      ¬ (0 < (normalizeCacheCreationSplit 0 usage.claudeCacheCreation5mTokens
          usage.claudeCacheCreation1hTokens).1 ∨
        0 < (normalizeCacheCreationSplit 0 usage.claudeCacheCreation5mTokens
          usage.claudeCacheCreation1hTokens).2) := by
  simp only [hasClaudeUsageTokens, claudeUsageFromSemanticUsage, Bool.or_eq_false_iff,
    bne_eq_false_iff_eq] at h
  obtain ⟨⟨⟨⟨⟨⟨hprompt, hcompletion⟩, hcreation⟩, hcached⟩, -⟩, -⟩, hsplit⟩ := h
  refine ⟨hprompt, hcompletion, hcached, hcreation, fun hpos => ?_⟩
  rw [hcreation, if_pos hpos] at hsplit
  simp only [Option.any_some, Bool.or_eq_false_iff, bne_eq_false_iff_eq] at hsplit
  omega

lemma ClaudeResponseInfo.Consistent.billingUsage_eq_none (h : info.Consistent)
    (htokens : hasClaudeUsageTokens
      (claudeUsageFromSemanticUsage info.usage.toUsageCounts) = false) :
    info.usage.billingUsage = none := by
  rw [← Option.not_isSome_iff_eq_none, h.isSome_billingUsage, htokens]
  exact Bool.false_ne_true

section

variable (h : stream.toClaudeResponseInfo.Consistent)

include h

/-- Without a report a billing usage is made at the end, of the prompt tokens only. -/
lemma ClaudeStream.billingUsage_final_of_no_report
    (htokens : hasClaudeUsageTokens
      (claudeUsageFromSemanticUsage stream.usage.toUsageCounts) = false) :
    (handleStreamFinalResponse env stream).billingUsage =
      newClaudeMessagesBillingUsage { inputTokens := env.estimatePromptTokens } := by
  obtain ⟨hprompt, hcompletion, hcached, hcreation, hsplit⟩ :=
    eq_zero_of_hasClaudeUsageTokens_eq_false htokens
  simp only [handleStreamFinalResponse, h.billingUsage_eq_none htokens, completeUsage,
    responseText2Usage, hprompt, hcompletion, true_or, if_true, buildMessageDeltaPatchUsage,
    Option.getD_none, hcached, hcreation, lt_irrefl, if_false, hsplit, true_and]
  have hinput : (if 0 < (env.estimatePromptTokens : Int) then (env.estimatePromptTokens : Int)
      else 0) = env.estimatePromptTokens := by
    split_ifs <;> omega
  rw [hinput]
  rfl

/-- Without a report the completed counts are the estimates, and settlement sees the estimate of
the text only if there are no prompt tokens. -/
lemma ClaudeStream.settledTokens_final_of_no_report
    (htokens : hasClaudeUsageTokens
      (claudeUsageFromSemanticUsage stream.usage.toUsageCounts) = false) :
    (handleStreamFinalResponse env stream).tokens =
        ⟨env.estimatePromptTokens, stream.estimate env, 0, 0⟩ ∧
      settledTokens (handleStreamFinalResponse env stream) =
        ⟨env.estimatePromptTokens,
          if env.estimatePromptTokens = 0 then stream.estimate env else 0, 0, 0⟩ := by
  obtain ⟨hprompt, hcompletion, hcached, hcreation, -⟩ :=
    eq_zero_of_hasClaudeUsageTokens_eq_false htokens
  have htotal := cacheCreationTotal_of_noCacheWrite h.noCacheWrite
  rw [hcreation] at htotal
  have hreturned : (handleStreamFinalResponse env stream).tokens =
      ⟨env.estimatePromptTokens, stream.estimate env, 0, 0⟩ := by
    simp [handleStreamFinalResponse, completeUsage, responseText2Usage, hprompt,
      hcompletion, tokens, hcached, htotal, estimate]
  have hbilling := billingUsage_final_of_no_report env h htokens
  refine ⟨hreturned, ?_⟩
  by_cases hzero : env.estimatePromptTokens = 0
  · rw [settledTokens, effectiveUsage_of_none (by rw [hbilling, hzero]; rfl), hreturned,
      if_pos hzero]
  · have hinput : hasClaudeUsageTokens { inputTokens := env.estimatePromptTokens } = true := by
      simp [hasClaudeUsageTokens, hzero]
    rw [settledTokens, effectiveUsage_of_claude hbilling hinput, if_neg hzero]
    rfl

/-- However a stream ends, it is settled in the semantic of Claude. -/
lemma ClaudeStream.usageSemantic_effective_final :
    (effectiveBillingUsage (handleStreamFinalResponse env stream)).usageSemantic =
      some .anthropic := by
  -- the billing usage is one of Claude, or there is none
  obtain ⟨u, hu⟩ : ∃ u, (handleStreamFinalResponse env stream).billingUsage =
      newClaudeMessagesBillingUsage u := by
    rcases htokens : hasClaudeUsageTokens
        (claudeUsageFromSemanticUsage stream.usage.toUsageCounts) with _ | _
    · exact ⟨_, billingUsage_final_of_no_report env h htokens⟩
    · exact ⟨_, billingUsage_final_of_report env h htokens⟩
  rcases htokens : hasClaudeUsageTokens u with _ | _
  · have hnone : (handleStreamFinalResponse env stream).billingUsage = none := by
      rw [hu, newClaudeMessagesBillingUsage, htokens]
      rfl
    rw [effectiveUsage_of_none hnone]
    rfl
  · rw [effectiveUsage_of_claude hu htokens]
    rfl

end

end

/-- What is settled for a stream that ends after any of its events is what its handler returns, if
and only if nothing is estimated that settlement does not see. -/
theorem settledTokens_claudeStream_iff (env : TokenEstimates) (format : RelayFormat)
    (events : List ClaudeEvent) {usage : Usage}
    (h : claudeStreamHandler env format events = .ok usage) :
    settledTokens usage = usage.tokens ↔ (gathered env format events).EstimatesSettled env := by
  obtain rfl := claudeStreamHandler_eq_final h
  have hconsistent := consistent_gathered env format events
  set stream := gathered env format events
  rcases htokens : hasClaudeUsageTokens
      (claudeUsageFromSemanticUsage stream.usage.toUsageCounts) with _ | _
  · obtain ⟨hreturned, hsettled⟩ :=
      settledTokens_final_of_no_report env hconsistent htokens
    rw [hsettled, EstimatesSettled, hconsistent.isSome_billingUsage]
    split_ifs <;> simp [*]
    omega
  · rw [settledTokens_final_of_report env hconsistent htokens,
      tokens_final_eq_iff, completeUsage_eq_iff,
      EstimatesSettled, hconsistent.isSome_billingUsage, htokens]
    simp

/-- Two tokens for a word of five letters, as the source estimates them. -/
def lengthEstimates : TokenEstimates where
  estimatePromptTokens := 3
  upstreamModelName := "claude"
  estimateTokenByModel := fun _ text => (text.length + 1) / 3
  countTextToken := fun text _ => (text.length + 1) / 3

/-- A stream after its start and its text. -/
def helloStream : List ClaudeEvent :=
  [.messageStart (some ("claude", some { inputTokens := 10, outputTokens := 1 })),
    .contentBlockDelta (some "hello") none]

/-- A stream that reports its output at the end is settled as it is returned. -/
theorem settledTokens_claudeStream_complete :
    ∃ usage, claudeStreamHandler lengthEstimates .claude
        (helloStream ++ [.messageDelta (some { outputTokens := 7 })]) = .ok usage ∧
      settledTokens usage = usage.tokens := by
  refine ⟨_, rfl, (settledTokens_claudeStream_iff lengthEstimates .claude
    (helloStream ++ [.messageDelta (some { outputTokens := 7 })]) rfl).mpr ⟨fun _ => .inl ?_, ?_⟩⟩
  · decide
  · decide

/-- A stream that is cut off after its text is settled with the one output token that its start has
reported, though the handler returns two. -/
theorem settledTokens_claudeStream_cut :
    (claudeStreamHandler lengthEstimates .claude helloStream).map
      (fun usage => (settledTokens usage, usage.tokens)) = .ok (⟨10, 1, 0, 0⟩, ⟨10, 2, 0, 0⟩) := by
  decide +kernel

end XinghaiApi
