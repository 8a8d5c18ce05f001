import XinghaiApi.Lib.Text
import XinghaiApi.Common.OtherRatios
import XinghaiApi.Common.QuotaMath
import XinghaiApi.Relay.Channel.Claude

/-!
# The price of a text answer

The quota of a usage, from the ratios of the model and the group, and the parameters that a tiered
expression is evaluated with. Ratios and prices are exact rationals here.
-/

namespace XinghaiApi

open Dto

/-! ### What the price is taken from -/

structure TextPriceData where
  modelPrice : ℚ := 0
  modelRatio : ℚ := 0
  groupRatio : ℚ := 1
  completionRatio : ℚ := 0
  cacheRatio : ℚ := 0
  cacheCreationRatio : ℚ := 0
  cacheCreation5mRatio : ℚ := 0
  cacheCreation1hRatio : ℚ := 0
  imageRatio : ℚ := 0
  usePrice : Bool := false
  otherRatios : OtherRatios := ∅

/-- How often the built-in tools were called. -/
structure BuiltInTools where
  webSearchPreview : Option ℕ := none
  fileSearch : Option ℕ := none
deriving DecidableEq

structure TextPriceSetting where
  quotaPerUnit : ℚ := 500000
  /-- the price of a tool for a model -/
  toolPriceForModel : (toolName modelName : String) → ℚ := fun _ _ => 0
  geminiInputAudioPricePerMillionTokens : (modelName : String) → ℚ := fun _ => 0
  gptImage1PriceOnceCall : (quality size : String) → ℚ := fun _ _ => 0
  defaultModelRatio : (modelName : String) → Option ℚ := fun _ => none

/-- What the request and its context hold when the answer is settled. -/
structure TextRelay where
  originModelName : String := ""
  finalRequestRelayFormat : RelayFormat := .openAI
  isOpenRouter : Bool := false
  priceData : TextPriceData := {}
  responsesUsageInfo : Option BuiltInTools := none
  claudeWebSearchRequests : Int := 0
  /-- quality and size of a generated image -/
  imageGenerationCall : Option (String × String) := none
  estimatePromptTokens : ℕ := 0

/-! ### The quota of a usage -/

structure TextQuotaSummary where
  promptTokens : Int
  completionTokens : Int
  totalTokens : Int
  cacheTokens : Int
  cacheCreationTokens : Int
  cacheCreationTokens5m : Int
  cacheCreationTokens1h : Int
  imageTokens : Int
  audioTokens : Int
  usageSemantic : UsageSemantic
  toolCallSurchargeQuota : ℚ := 0
  quota : Int := 0
deriving DecidableEq

def TextQuotaSummary.isClaudeUsageSemantic (summary : TextQuotaSummary) : Bool :=
  summary.usageSemantic = .anthropic

def isLegacyClaudeDerivedOpenAIUsage (relay : TextRelay) (usage : UsageCounts) : Bool :=
  relay.finalRequestRelayFormat ≠ .claude && usage.usageSource.isNone &&
    usage.usageSemantic.isNone &&
    (0 < usage.claudeCacheCreation5mTokens || 0 < usage.claudeCacheCreation1hTokens)

def usageSemanticFromUsage (relay : TextRelay) (usage : Option UsageCounts) : UsageSemantic :=
  (usage.bind (·.usageSemantic)).getD
    (if relay.finalRequestRelayFormat = .claude then .anthropic else .openai)

section

variable (setting : TextPriceSetting)

/-- The price of calls to a tool, which is per thousand calls. -/
def toolCallPrice (groupRatio price : ℚ) (count : Int) : ℚ :=
  price * count / 1000 * groupRatio * setting.quotaPerUnit

def calculateTextToolCallSurcharge (relay : TextRelay) : ℚ :=
  let groupRatio := relay.priceData.groupRatio
  let webSearchPrice := setting.toolPriceForModel "web_search_preview" relay.originModelName
  let webSearch :=
    match relay.responsesUsageInfo with
    | some tools => toolCallPrice setting groupRatio webSearchPrice (tools.webSearchPreview.getD 0)
    | none       =>
      if Text.hasSuffix relay.originModelName "search-preview" then
        toolCallPrice setting groupRatio webSearchPrice 1
      else 0
  let claudeWebSearch :=
    if 0 < relay.claudeWebSearchRequests then
      toolCallPrice setting groupRatio (setting.toolPriceForModel "web_search" "")
        relay.claudeWebSearchRequests
    else 0
  let fileSearch :=
    match relay.responsesUsageInfo with
    | some tools => toolCallPrice setting groupRatio (setting.toolPriceForModel "file_search" "")
        (tools.fileSearch.getD 0)
    | none       => 0
  let imageGeneration :=
    match relay.imageGenerationCall with
    | some (quality, size) =>
      setting.gptImage1PriceOnceCall quality size * groupRatio * setting.quotaPerUnit
    | none                 => 0
  webSearch + claudeWebSearch + fileSearch + imageGeneration

def hasCustomModelRatio (modelName : String) (currentRatio : ℚ) : Bool :=
  setting.defaultModelRatio modelName ≠ some currentRatio

/-- The cache writes that the cost of an answer of OpenRouter suggests. -/
def calcOpenRouterCacheCreateTokens (usage : UsageCounts) (price : TextPriceData) : Int :=
  if price.cacheCreationRatio = 1 then 0
  else
    let quotaPrice := price.modelRatio / setting.quotaPerUnit
    let promptCacheCreatePrice := quotaPrice * price.cacheCreationRatio
    let promptCacheReadPrice := quotaPrice * price.cacheRatio
    let completionPrice := quotaPrice * price.completionRatio
    roundHalfAway ((usage.cost.getD 0 - usage.promptTokens * quotaPrice +
      usage.promptTokensDetails.cachedTokens * (quotaPrice - promptCacheReadPrice) -
      usage.completionTokens * completionPrice) / (promptCacheCreatePrice - quotaPrice))

/-- The counts of the usage, as they are priced. OpenRouter reports prompt tokens that include the
cached ones, for Claude too. -/
def countTextTokens (relay : TextRelay) (semantic : UsageSemantic) (usage : UsageCounts) :
    TextQuotaSummary :=
  let summary : TextQuotaSummary :=
    { promptTokens := usage.promptTokens
      completionTokens := usage.completionTokens
      totalTokens := usage.promptTokens + usage.completionTokens
      cacheTokens := usage.promptTokensDetails.cachedTokens
      cacheCreationTokens := usage.promptTokensDetails.cacheCreationTokensTotal
      cacheCreationTokens5m := usage.claudeCacheCreation5mTokens
      cacheCreationTokens1h := usage.claudeCacheCreation1hTokens
      imageTokens := usage.promptTokensDetails.imageTokens
      audioTokens := usage.promptTokensDetails.audioTokens
      usageSemantic := semantic }
  if relay.isOpenRouter ∧ semantic = .anthropic then
    let promptTokens := summary.promptTokens - summary.cacheTokens
    let isUsingCustomSettings := relay.priceData.usePrice ||
      hasCustomModelRatio setting relay.originModelName relay.priceData.modelRatio
    -- the source also asks for a cost that is not the integer zero, which every cost is
    let maybeCacheCreationTokens := calcOpenRouterCacheCreateTokens setting usage relay.priceData
    let cacheCreationTokens :=
      if summary.cacheCreationTokens = 0 ∧ relay.priceData.cacheCreationRatio ≠ 1 ∧
          isUsingCustomSettings = false ∧ 0 ≤ maybeCacheCreationTokens ∧
          maybeCacheCreationTokens ≤ promptTokens then
        maybeCacheCreationTokens
      else summary.cacheCreationTokens
    { summary with
      promptTokens := promptTokens - cacheCreationTokens
      cacheCreationTokens := cacheCreationTokens }
  else summary

end

/-- The cache writes at their ratios, where they are not part of the prompt tokens. -/
def splitCacheCreationPrice (price : TextPriceData) (summary : TextQuotaSummary) : ℚ :=
  let remaining := summary.cacheCreationTokens - summary.cacheCreationTokens5m -
    summary.cacheCreationTokens1h
  (if remaining < 0 then 0 else remaining : Int) * price.cacheCreationRatio +
    summary.cacheCreationTokens5m * price.cacheCreation5mRatio +
    summary.cacheCreationTokens1h * price.cacheCreation1hRatio

section

variable (setting : TextPriceSetting) (relay : TextRelay)

/-- The tokens of a usage, weighted, before the ratio of model and group. `separate` says that the
prompt tokens do not include the cached ones. -/
def weightedTokens (separate : Bool) (summary : TextQuotaSummary) : ℚ :=
  let price := relay.priceData
  let cacheCreates := summary.cacheCreationTokens ≠ 0 ∨ 0 < summary.cacheCreationTokens5m ∨
    0 < summary.cacheCreationTokens1h
  let audioSeparate := summary.audioTokens ≠ 0 ∧
    0 < setting.geminiInputAudioPricePerMillionTokens relay.originModelName
  let baseTokens := summary.promptTokens -
    (if separate then 0 else summary.cacheTokens) -
    (if cacheCreates ∧ separate = false then summary.cacheCreationTokens else 0) -
    summary.imageTokens - (if audioSeparate then summary.audioTokens else 0)
  let cacheCreation : ℚ :=
    if cacheCreates then
      if separate then splitCacheCreationPrice price summary
      else summary.cacheCreationTokens * price.cacheCreationRatio
    else 0
  ((if baseTokens < 0 then 0 else baseTokens : Int) : ℚ) + summary.cacheTokens * price.cacheRatio +
    summary.imageTokens * price.imageRatio + cacheCreation +
    summary.completionTokens * price.completionRatio

def audioInputQuota (summary : TextQuotaSummary) : ℚ :=
  let price := setting.geminiInputAudioPricePerMillionTokens relay.originModelName
  if 0 < price then
    price / 1000000 * summary.audioTokens * relay.priceData.groupRatio * setting.quotaPerUnit
  else 0

def textPrice (separate : Bool) (summary : TextQuotaSummary) : ℚ :=
  let price := relay.priceData
  let ratio := price.modelRatio * price.groupRatio
  if price.usePrice then
    price.otherRatios.applyOtherRatios (price.modelPrice * setting.quotaPerUnit * price.groupRatio +
      summary.toolCallSurchargeQuota)
  else
    let quota := price.otherRatios.applyOtherRatios
      (weightedTokens setting relay separate summary * ratio + summary.toolCallSurchargeQuota +
        audioInputQuota setting relay summary)
    if ratio ≠ 0 ∧ quota ≤ 0 then 1 else quota

/-- The price in quota units; an answer without tokens is free, and a priced one is not. -/
def textQuota (separate : Bool) (summary : TextQuotaSummary) : Int :=
  let quota := (quotaFromDecimalChecked (textPrice setting relay separate summary)).1
  if summary.totalTokens = 0 then 0
  else if relay.priceData.modelRatio * relay.priceData.groupRatio ≠ 0 ∧ quota = 0 then 1
  else quota

def calculateTextQuotaSummary (usage : Option UsageCounts) : TextQuotaSummary :=
  let semantic := usageSemanticFromUsage relay usage
  let counts := usage.getD
    { promptTokens := relay.estimatePromptTokens, totalTokens := relay.estimatePromptTokens }
  let summary :=
    { countTextTokens setting relay semantic counts with
      toolCallSurchargeQuota := calculateTextToolCallSurcharge setting relay }
  let separate := summary.isClaudeUsageSemantic || isLegacyClaudeDerivedOpenAIUsage relay counts
  { summary with quota := textQuota setting relay separate summary }

end

/-! ### The parameters of a tiered expression -/

structure TokenParams where
  p : Int
  c : Int
  len : Int
  cr : Int
  cc : Int
  cc1h : Int
  img : Int
  imgO : Int
  ai : Int
  ao : Int
deriving DecidableEq

/-- `usedVars` are the variables that the expression prices separately. -/
def buildTieredTokenParams (usage : UsageCounts) (isClaudeUsageSemantic : Bool)
    (usedVars : String → Bool) : TokenParams :=
  let cr := usage.promptTokensDetails.cachedTokens
  let cc5m :=
    if usage.usageSemantic = some .anthropic then usage.claudeCacheCreation5mTokens
    else usage.promptTokensDetails.cacheCreationTokensTotal
  let cc1h :=
    if usage.usageSemantic = some .anthropic then usage.claudeCacheCreation1hTokens else 0
  let img := usage.promptTokensDetails.imageTokens
  let ai := usage.promptTokensDetails.audioTokens
  let imgO := usage.completionTokenDetails.imageTokens
  let ao := usage.completionTokenDetails.audioTokens
  let priced (name : String) (tokens : Int) : Int :=
    if isClaudeUsageSemantic = false ∧ usedVars name then tokens else 0
  { p := max (usage.promptTokens - priced "cr" cr - priced "cc" cc5m - priced "cc1h" cc1h -
      priced "img" img - priced "ai" ai) 0
    c := max (usage.completionTokens - priced "img_o" imgO - priced "ao" ao) 0
    len := if isClaudeUsageSemantic then usage.promptTokens + cr + cc5m + cc1h
      else usage.promptTokens
    cr := cr
    cc := cc5m
    cc1h := cc1h
    img := img
    imgO := imgO
    ai := ai
    ao := ao }

end XinghaiApi
