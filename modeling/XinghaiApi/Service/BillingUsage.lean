import Mathlib.Tactic.Common
import XinghaiApi.Dto.Usage

/-!
# The usage that is settled

Settlement reads the billing usage where a usage carries one, and the usage itself otherwise. The
four counts that prices are taken of are named here, so that two ways of relaying an answer can be
compared.
-/

namespace XinghaiApi

open Dto

variable {usage : Usage}

/-- The usage of an OpenAI report, with prompt and input, completion and output filled in from each
other. -/
def usageFromOpenAIBillingUsage (billingUsage : BillingUsage) (counts : UsageCounts) : Usage :=
  let promptTokens :=
    if counts.promptTokens = 0 ∧ 0 < counts.inputTokens then counts.inputTokens
    else counts.promptTokens
  let completionTokens :=
    if counts.completionTokens = 0 ∧ 0 < counts.outputTokens then counts.outputTokens
    else counts.completionTokens
  let inputTokens :=
    if counts.inputTokens = 0 ∧ 0 < promptTokens then promptTokens else counts.inputTokens
  let outputTokens :=
    if counts.outputTokens = 0 ∧ 0 < completionTokens then completionTokens
    else counts.outputTokens
  { counts with
    promptTokens := promptTokens
    completionTokens := completionTokens
    inputTokens := inputTokens
    outputTokens := outputTokens
    totalTokens :=
      if counts.totalTokens = 0 then promptTokens + completionTokens else counts.totalTokens
    usageSemantic := some .openai
    usageSource := some billingUsage.source
    billingUsage := some billingUsage }

def usageFromClaudeBillingUsage (billingUsage : BillingUsage) (claudeUsage : ClaudeUsage) : Usage :=
  let cacheCreation5m :=
    if claudeUsage.getCacheCreation5mTokens = 0 then claudeUsage.claudeCacheCreation5mTokens
    else claudeUsage.getCacheCreation5mTokens
  let cacheCreation1h :=
    if claudeUsage.getCacheCreation1hTokens = 0 then claudeUsage.claudeCacheCreation1hTokens
    else claudeUsage.getCacheCreation1hTokens
  { promptTokens := claudeUsage.inputTokens
    completionTokens := claudeUsage.outputTokens
    totalTokens := claudeUsage.inputTokens + claudeUsage.outputTokens
    inputTokens := claudeUsage.inputTokens + claudeUsage.cacheReadInputTokens +
      claudeUsage.cacheCreationInputTokens
    outputTokens := claudeUsage.outputTokens
    usageSemantic := some .anthropic
    usageSource := some .claudeMessages
    billingUsage := some billingUsage
    claudeCacheCreation5mTokens := cacheCreation5m
    claudeCacheCreation1hTokens := cacheCreation1h
    promptTokensDetails :=
      { cachedTokens := claudeUsage.cacheReadInputTokens
        cachedCreationTokens := claudeUsage.cacheCreationInputTokens } }

def addGeminiInputTokenDetail (details : InputTokenDetails) (detail : GeminiPromptTokensDetails) :
    InputTokenDetails :=
  if detail.modality = "AUDIO" then
    { details with audioTokens := details.audioTokens + detail.tokenCount }
  else if detail.modality = "IMAGE" then
    { details with imageTokens := details.imageTokens + detail.tokenCount }
  else if detail.modality = "TEXT" then
    { details with textTokens := details.textTokens + detail.tokenCount }
  else details

def addGeminiOutputTokenDetail (details : OutputTokenDetails)
    (detail : GeminiPromptTokensDetails) : OutputTokenDetails :=
  if detail.modality = "IMAGE" then
    { details with imageTokens := details.imageTokens + detail.tokenCount }
  else if detail.modality = "AUDIO" then
    { details with audioTokens := details.audioTokens + detail.tokenCount }
  else if detail.modality = "TEXT" then
    { details with textTokens := details.textTokens + detail.tokenCount }
  else details

/-- The details of a Gemini report by modality. All prompt tokens are text if no part of them is
said to be text or audio. -/
def geminiInputDetails (metadata : GeminiUsageMetadata) (promptTokens : Int) : InputTokenDetails :=
  let details :=
    (metadata.promptTokensDetails ++ metadata.toolUsePromptTokensDetails).foldl
      addGeminiInputTokenDetail { cachedTokens := metadata.cachedContentTokenCount }
  if 0 < promptTokens ∧ details.textTokens = 0 ∧ details.audioTokens = 0 then
    { details with textTokens := promptTokens }
  else details

def geminiOutputDetails (metadata : GeminiUsageMetadata) : OutputTokenDetails :=
  metadata.candidatesTokensDetails.foldl addGeminiOutputTokenDetail
    { reasoningTokens := metadata.thoughtsTokenCount }

def usageFromGeminiBillingUsage (billingUsage : BillingUsage) (metadata : GeminiUsageMetadata) :
    Usage :=
  let promptTokens := metadata.promptTokenCount + metadata.toolUsePromptTokenCount
  let completionTokens := metadata.candidatesTokenCount + metadata.thoughtsTokenCount
  { promptTokens := promptTokens
    completionTokens :=
      if metadata.totalTokenCount ≠ 0 ∧ completionTokens ≤ 0 then
        metadata.totalTokenCount - promptTokens
      else completionTokens
    totalTokens :=
      if metadata.totalTokenCount = 0 then promptTokens + completionTokens
      else metadata.totalTokenCount
    usageSemantic := some .gemini
    usageSource := some .geminiChat
    billingUsage := some billingUsage
    completionTokenDetails := geminiOutputDetails metadata
    promptTokensDetails := geminiInputDetails metadata promptTokens }

/-- The report that the billing usage is said to be of. -/
def usageFromBillingUsage (billingUsage : BillingUsage) : Option Usage :=
  (if billingUsage.source = .oaiChat ∨ billingUsage.source = .oaiResponses ∨
      billingUsage.semantic = .openai then
    billingUsage.openAIUsage.map (usageFromOpenAIBillingUsage billingUsage) else none) <|>
  (if billingUsage.source = .claudeMessages ∨ billingUsage.semantic = .anthropic then
    billingUsage.claudeUsage.map (usageFromClaudeBillingUsage billingUsage) else none) <|>
  (if billingUsage.source = .geminiChat ∨ billingUsage.semantic = .gemini then
    billingUsage.geminiUsageMetadata.map (usageFromGeminiBillingUsage billingUsage) else none)

def effectiveBillingUsage (usage : Usage) : Usage :=
  (usage.billingUsage.bind usageFromBillingUsage).getD usage

lemma effectiveUsage_of_none (h : usage.billingUsage = none) :
    effectiveBillingUsage usage = usage := by
  rw [effectiveBillingUsage, h]
  rfl

lemma effectiveUsage_of_openAI {source : UsageSource} {counts : UsageCounts}
    (h : usage.billingUsage = newOpenAIBillingUsage source counts)
    (htokens : hasOpenAIUsageTokens counts = true) :
    effectiveBillingUsage usage = usageFromOpenAIBillingUsage
      { source := source, semantic := .openai, openAIUsage := some counts } counts := by
  rw [effectiveBillingUsage, h, newOpenAIBillingUsage, if_pos htokens]
  simp [usageFromBillingUsage]

lemma effectiveUsage_of_claude {claudeUsage : ClaudeUsage}
    (h : usage.billingUsage = newClaudeMessagesBillingUsage claudeUsage)
    (htokens : hasClaudeUsageTokens claudeUsage = true) :
    effectiveBillingUsage usage = usageFromClaudeBillingUsage
      { source := .claudeMessages, semantic := .anthropic, claudeUsage := some claudeUsage }
      claudeUsage := by
  rw [effectiveBillingUsage, h, newClaudeMessagesBillingUsage, if_pos htokens]
  simp [usageFromBillingUsage]

/-! ### What is priced -/

/-- The counts that prices are taken of. -/
structure TokenCounts where
  prompt : Int
  completion : Int
  cachedRead : Int
  cacheCreation : Int
deriving DecidableEq

def Dto.UsageCounts.tokens (usage : UsageCounts) : TokenCounts where
  prompt := usage.promptTokens
  completion := usage.completionTokens
  cachedRead := usage.promptTokensDetails.cachedTokens
  cacheCreation := usage.promptTokensDetails.cacheCreationTokensTotal

def settledTokens (usage : Usage) : TokenCounts := (effectiveBillingUsage usage).tokens

end XinghaiApi
