import XinghaiApi.Service.BillingUsage

/-!
# Conversions of usage

When an answer is converted from one format to another, its usage is converted with it. Each
conversion keeps the billing usage that is there and makes one of its source otherwise.
-/

namespace XinghaiApi

open Dto

/-- From the usage of a Responses answer to that of a Chat answer. -/
def usageFromResponsesUsage (src : Option Usage) : Usage :=
  match src with
  | none     => {}
  | some src =>
    let details := src.inputTokensDetails.getD {}
    { usageSemantic := src.usageSemantic
      usageSource := src.usageSource
      billingUsage :=
        src.billingUsage <|> newOpenAIResponsesBillingUsage src.toUsageCounts
      cost := src.cost
      promptTokens := src.inputTokens
      inputTokens := src.inputTokens
      completionTokens := src.outputTokens
      outputTokens := src.outputTokens
      totalTokens :=
        if src.totalTokens ≠ 0 then src.totalTokens else src.inputTokens + src.outputTokens
      promptTokensDetails := details
      completionTokenDetails := src.completionTokenDetails
      claudeCacheCreation5mTokens := src.claudeCacheCreation5mTokens
      claudeCacheCreation1hTokens := src.claudeCacheCreation1hTokens }

/-- From the usage of a Chat answer to that of a Responses answer. -/
def usageFromChatUsage (src : Usage) : Usage :=
  { usageSemantic := src.usageSemantic
    usageSource := src.usageSource
    billingUsage := src.billingUsage <|> newOpenAIChatBillingUsage src.toUsageCounts
    cost := src.cost
    promptTokens := src.promptTokens
    inputTokens := src.promptTokens
    completionTokens := src.completionTokens
    outputTokens := src.completionTokens
    totalTokens :=
      if src.totalTokens ≠ 0 then src.totalTokens else src.promptTokens + src.completionTokens
    inputTokensDetails :=
      if src.promptTokensDetails ≠ {} then some src.promptTokensDetails else none
    completionTokenDetails := src.completionTokenDetails
    claudeCacheCreation5mTokens := src.claudeCacheCreation5mTokens
    claudeCacheCreation1hTokens := src.claudeCacheCreation1hTokens }

/-- From the metadata of a Gemini answer, which is there, to the usage of a Chat answer. -/
def usageFromGeminiMetadata (metadata : GeminiUsageMetadata) (fallbackPromptTokens : Int) : Usage :=
  let reported := metadata.promptTokenCount + metadata.toolUsePromptTokenCount
  let promptTokens :=
    if reported ≤ 0 ∧ 0 < fallbackPromptTokens then fallbackPromptTokens else reported
  let completionTokens := metadata.candidatesTokenCount + metadata.thoughtsTokenCount
  { promptTokens := promptTokens
    completionTokens :=
      if 0 < metadata.totalTokenCount ∧ completionTokens ≤ 0 then
        metadata.totalTokenCount - promptTokens
      else completionTokens
    totalTokens := metadata.totalTokenCount
    billingUsage := newGeminiChatBillingUsage metadata false
    completionTokenDetails := geminiOutputDetails metadata
    promptTokensDetails := geminiInputDetails metadata promptTokens }

/-- What is not in the split counts as five-minute tokens. -/
def normalizeCacheCreationSplit (totalTokens tokens5m tokens1h : Int) : Int × Int :=
  let remainder := totalTokens - tokens5m - tokens1h
  (tokens5m + if remainder < 0 then 0 else remainder, tokens1h)

end XinghaiApi
