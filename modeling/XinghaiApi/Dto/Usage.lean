import Mathlib.Data.Rat.Defs

/-!
# Reports of usage

The token counts that an upstream reports, in the formats of OpenAI, Claude and Gemini, and the
billing usage: a copy of the original report that travels beside the converted counts to settlement.
A copy drops the billing usage of its original, so the counts inside of a billing usage have none.
-/

namespace XinghaiApi.Dto

inductive UsageSource where
  | claudeMessages
  | geminiChat
  | oaiChat
  | oaiResponses
deriving DecidableEq

inductive UsageSemantic where
  | anthropic
  | gemini
  | openai
deriving DecidableEq

structure InputTokenDetails where
  cachedTokens : Int := 0
  cachedCreationTokens : Int := 0
  cacheWriteTokens : Int := 0
  textTokens : Int := 0
  audioTokens : Int := 0
  imageTokens : Int := 0
deriving DecidableEq

/-- The tokens written to the cache, in whichever field they were reported. -/
def InputTokenDetails.cacheCreationTokensTotal (d : InputTokenDetails) : Int :=
  let total :=
    if d.cachedCreationTokens < d.cacheWriteTokens then d.cacheWriteTokens
    else d.cachedCreationTokens
  if total < 0 then 0 else total

structure OutputTokenDetails where
  textTokens : Int := 0
  audioTokens : Int := 0
  imageTokens : Int := 0
  reasoningTokens : Int := 0
deriving DecidableEq

/-- A usage without its billing usage. -/
structure UsageCounts where
  promptTokens : Int := 0
  completionTokens : Int := 0
  totalTokens : Int := 0
  promptCacheHitTokens : Int := 0
  usageSemantic : Option UsageSemantic := none
  usageSource : Option UsageSource := none
  promptTokensDetails : InputTokenDetails := {}
  completionTokenDetails : OutputTokenDetails := {}
  inputTokens : Int := 0
  outputTokens : Int := 0
  inputTokensDetails : Option InputTokenDetails := none
  claudeCacheCreation5mTokens : Int := 0
  claudeCacheCreation1hTokens : Int := 0
  cost : Option ℚ := none
deriving DecidableEq

structure ClaudeCacheCreationUsage where
  ephemeral5mInputTokens : Int := 0
  ephemeral1hInputTokens : Int := 0
deriving DecidableEq

structure ClaudeUsage where
  inputTokens : Int := 0
  cacheCreationInputTokens : Int := 0
  cacheReadInputTokens : Int := 0
  outputTokens : Int := 0
  cacheCreation : Option ClaudeCacheCreationUsage := none
  claudeCacheCreation5mTokens : Int := 0
  claudeCacheCreation1hTokens : Int := 0
deriving DecidableEq

def ClaudeUsage.getCacheCreation5mTokens (u : ClaudeUsage) : Int :=
  match u.cacheCreation with
  | none   => 0
  | some c => c.ephemeral5mInputTokens

def ClaudeUsage.getCacheCreation1hTokens (u : ClaudeUsage) : Int :=
  match u.cacheCreation with
  | none   => 0
  | some c => c.ephemeral1hInputTokens

structure GeminiPromptTokensDetails where
  modality : String
  tokenCount : Int
deriving DecidableEq

structure GeminiUsageMetadata where
  promptTokenCount : Int := 0
  toolUsePromptTokenCount : Int := 0
  candidatesTokenCount : Int := 0
  totalTokenCount : Int := 0
  thoughtsTokenCount : Int := 0
  cachedContentTokenCount : Int := 0
  promptTokensDetails : List GeminiPromptTokensDetails := []
  toolUsePromptTokensDetails : List GeminiPromptTokensDetails := []
  candidatesTokensDetails : List GeminiPromptTokensDetails := []
deriving DecidableEq

structure BillingUsage where
  source : UsageSource
  semantic : UsageSemantic
  estimated : Bool := false
  openAIUsage : Option UsageCounts := none
  claudeUsage : Option ClaudeUsage := none
  geminiUsageMetadata : Option GeminiUsageMetadata := none
deriving DecidableEq

structure Usage extends UsageCounts where
  billingUsage : Option BillingUsage := none
deriving DecidableEq

/-! ### Billing usage -/

def hasClaudeUsageTokens (usage : ClaudeUsage) : Bool :=
  usage.inputTokens != 0 || usage.outputTokens != 0 || usage.cacheCreationInputTokens != 0 ||
    usage.cacheReadInputTokens != 0 || usage.claudeCacheCreation5mTokens != 0 ||
    usage.claudeCacheCreation1hTokens != 0 ||
    usage.cacheCreation.any fun c =>
      c.ephemeral5mInputTokens != 0 || c.ephemeral1hInputTokens != 0

def newClaudeMessagesBillingUsage (usage : ClaudeUsage) : Option BillingUsage :=
  if hasClaudeUsageTokens usage then
    some { source := .claudeMessages, semantic := .anthropic, claudeUsage := some usage }
  else none

def hasOpenAIUsageTokens (usage : UsageCounts) : Bool :=
  usage.promptTokens != 0 || usage.completionTokens != 0 || usage.totalTokens != 0 ||
    usage.inputTokens != 0 || usage.outputTokens != 0 || usage.promptCacheHitTokens != 0 ||
    usage.claudeCacheCreation5mTokens != 0 || usage.claudeCacheCreation1hTokens != 0 ||
    usage.promptTokensDetails != {} || usage.completionTokenDetails != {} ||
    usage.inputTokensDetails.isSome

def newOpenAIBillingUsage (source : UsageSource) (usage : UsageCounts) : Option BillingUsage :=
  if hasOpenAIUsageTokens usage then
    some { source := source, semantic := .openai, openAIUsage := some usage }
  else none

def newOpenAIChatBillingUsage : UsageCounts → Option BillingUsage := newOpenAIBillingUsage .oaiChat

def newOpenAIResponsesBillingUsage : UsageCounts → Option BillingUsage :=
  newOpenAIBillingUsage .oaiResponses

def hasGeminiUsageMetadataTokens (metadata : GeminiUsageMetadata) : Bool :=
  metadata.promptTokenCount != 0 || metadata.toolUsePromptTokenCount != 0 ||
    metadata.candidatesTokenCount != 0 || metadata.totalTokenCount != 0 ||
    metadata.thoughtsTokenCount != 0 || metadata.cachedContentTokenCount != 0 ||
    metadata.promptTokensDetails.any (·.tokenCount != 0) ||
    metadata.toolUsePromptTokensDetails.any (·.tokenCount != 0) ||
    metadata.candidatesTokensDetails.any (·.tokenCount != 0)

def newGeminiChatBillingUsage (metadata : GeminiUsageMetadata) (estimated : Bool) :
    Option BillingUsage :=
  if hasGeminiUsageMetadataTokens metadata then
    some
      { source := .geminiChat
        semantic := .gemini
        estimated := estimated
        geminiUsageMetadata := some metadata }
  else none

def newEstimatedGeminiChatBillingUsage (usage : UsageCounts) : Option BillingUsage :=
  let totalTokens :=
    if usage.totalTokens = 0 then usage.promptTokens + usage.completionTokens
    else usage.totalTokens
  newGeminiChatBillingUsage
    { promptTokenCount := usage.promptTokens
      candidatesTokenCount := usage.completionTokens
      totalTokenCount := totalTokens } true

end XinghaiApi.Dto
