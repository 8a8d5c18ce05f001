import XinghaiApi.Relay.Channel.Claude
import XinghaiApi.Service.RelayConvert.ResponsesStream

/-!
# Answers and the usage that is settled for them

An answer comes from its upstream in the format of Responses, Chat, Claude or Gemini, plain or as a
stream, and goes to its client in one of these formats. Whichever handler relays it returns a usage
for settlement. The handlers are given here as far as they are about usage.
-/

namespace XinghaiApi

open Dto ResponsesToChatStreamState

/-! ### Responses -/

def oaiResponsesHandler (report : Option Usage) : Usage :=
  match report with
  | none   => {}
  | some u =>
    { promptTokens := u.inputTokens
      completionTokens := u.outputTokens
      totalTokens := u.totalTokens
      promptTokensDetails :=
        match u.inputTokensDetails with
        | none   => {}
        | some d => { cachedTokens := d.cachedTokens, cacheWriteTokens := d.cacheWriteTokens } }

/-- What the handler of a Responses stream keeps. -/
structure ResponsesStreamUsage where
  usage : UsageCounts := {}
  text : String := ""

/-- The counts of a report that are not zero replace those that are there. -/
def takeReport (usage : UsageCounts) (u : Usage) : UsageCounts :=
  { usage with
    promptTokens := if u.inputTokens ≠ 0 then u.inputTokens else usage.promptTokens
    completionTokens := if u.outputTokens ≠ 0 then u.outputTokens else usage.completionTokens
    totalTokens := if u.totalTokens ≠ 0 then u.totalTokens else usage.totalTokens
    promptTokensDetails :=
      match u.inputTokensDetails with
      | none   => usage.promptTokensDetails
      | some d =>
        { usage.promptTokensDetails with
          cachedTokens := d.cachedTokens
          cacheWriteTokens := d.cacheWriteTokens } }

def ResponsesStreamUsage.accept (s : ResponsesStreamUsage) (event : ResponsesStreamResponse) :
    ResponsesStreamUsage :=
  match event.type with
  | .completed =>
    match event.response.bind (·.usage) with
    | none   => s
    | some u => { s with usage := takeReport s.usage u }
  | .outputTextDelta => { s with text := s.text ++ event.delta }
  | _ => s

section

variable (env : TokenEstimates)

def countedOutput (completionTokens : Int) (text : String) : Int :=
  if completionTokens = 0 ∧ text ≠ "" then env.countTextToken text env.upstreamModelName
  else completionTokens

/-- Input tokens that were not reported are estimated if there is an output. -/
def countedInput (promptTokens completionTokens : Int) : Int :=
  if promptTokens = 0 ∧ completionTokens ≠ 0 then env.estimatePromptTokens else promptTokens

def ResponsesStreamUsage.complete (s : ResponsesStreamUsage) : Usage :=
  let completionTokens := countedOutput env s.usage.completionTokens s.text
  let promptTokens := countedInput env s.usage.promptTokens completionTokens
  { s.usage with
    promptTokens := promptTokens
    completionTokens := completionTokens
    totalTokens := promptTokens + completionTokens }

def oaiResponsesStreamHandler (events : List ResponsesStreamResponse) : Usage :=
  (events.foldl ResponsesStreamUsage.accept {}).complete env

end

/-- `ExtractOutputTextFromResponses`: the text of the messages or, if they have none, all text. -/
def extractOutputText (output : List ResponsesOutput) : String :=
  let text := String.join ((output.filter fun out =>
    out.type = .message ∧ (out.role = "" ∨ out.role = "assistant")).map messageText)
  if text ≠ "" then text else String.join (output.flatMap fun out => out.content.map (·.text))

/-- A usage without tokens gives way to an estimate. -/
def orEstimate (env : TokenEstimates) (usage : Usage) (text : String) : Usage :=
  if usage.totalTokens = 0 then responseText2Usage env text env.upstreamModelName else usage

def oaiResponsesToChatHandler (env : TokenEstimates) (response : OpenAIResponsesResponse) : Usage :=
  orEstimate env (usageFromResponsesUsage response.usage) (extractOutputText response.output)

/-- What is gathered of a stream for a client that gets the answer as a whole. -/
structure ResponsesBuffer where
  text : String := ""
  reasoning : String := ""

def ResponsesBuffer.processEvent (a : ResponsesBuffer) (event : ResponsesStreamResponse) :
    ResponsesBuffer :=
  match event.type with
  | .outputTextDelta => { a with text := a.text ++ event.delta }
  | .reasoningSummaryDelta | .reasoningTextDelta =>
    { a with reasoning := a.reasoning ++ event.delta }
  | _ => a

/-- `SupplementResponseOutput`, without the tool calls: they have no text to be counted. -/
def ResponsesBuffer.supplement (a : ResponsesBuffer) (response : OpenAIResponsesResponse) :
    OpenAIResponsesResponse :=
  if response.output ≠ [] then response
  else
    { response with
      output :=
        (if a.reasoning = "" then []
          else [{ type := .reasoning, content := [⟨"summary_text", a.reasoning⟩] }]) ++
        if a.text = "" then []
        else [{ type := .message, role := "assistant", content := [⟨"output_text", a.text⟩] }] }

/-- The answer of a stream: that of its first closing event, or an empty one. -/
def bufferedResponse (a : ResponsesBuffer) :
    List ResponsesStreamResponse → Except String OpenAIResponsesResponse
  | []              => .ok (a.supplement {})
  | event :: events =>
    let a := a.processEvent event
    match event.type, event.response with
    | .failed, _ => .error "responses stream error: response.failed"
    | .error, _ => .error "responses stream error: response.error"
    | .incomplete, response => .ok (a.supplement (ensureIncompleteResponse response))
    | .completed, some response | .done, some response => .ok (a.supplement response)
    | _, _ => bufferedResponse a events

def oaiResponsesToChatBufferedStreamHandler (env : TokenEstimates)
    (events : List ResponsesStreamResponse) : Except String Usage :=
  (bufferedResponse {} events).map (oaiResponsesToChatHandler env)

def oaiResponsesToChatStreamHandler (env : TokenEstimates) (id : String) (created : Int)
    (events : List ResponsesStreamResponse) : Except String Usage :=
  (convertResponsesStream
      (newResponsesToChatStreamState id env.upstreamModelName created false) events).map
    fun r => orEstimate env r.1.usage r.1.usageText

/-! ### Chat -/

/-- The cached tokens that some channels report outside of the usage. -/
structure CachedInBody where
  usage : Option Int := none
  moonshotChoice : Option Int := none
  llamaTimings : Option Int := none

inductive ChatChannel where
  | deepSeek
  | zhipuV4
  | moonshot
  | openAI
  | advancedCustom
  | other
deriving DecidableEq

/-- The cached tokens that `applyUsagePostProcessing` finds for a usage that has none. -/
def foundCachedTokens (channel : ChatChannel) (body : CachedInBody) (usage : UsageCounts) : Int :=
  let fromDetails := usage.inputTokensDetails.bind fun d =>
    if 0 < d.cachedTokens then some d.cachedTokens else none
  let fromHits := if 0 < usage.promptCacheHitTokens then some usage.promptCacheHitTokens else none
  match channel with
  | .deepSeek => usage.promptCacheHitTokens
  | .zhipuV4  => (fromDetails <|> body.usage <|> fromHits).getD 0
  | .moonshot => (fromDetails <|> body.moonshotChoice <|> body.usage <|> fromHits).getD 0
  | .openAI   => body.llamaTimings.getD 0
  | .advancedCustom | .other => 0

def applyUsagePostProcessing (channel : ChatChannel) (body : CachedInBody) (usage : Usage) :
    Usage :=
  if usage.promptTokensDetails.cachedTokens = 0 then
    { usage with
      promptTokensDetails :=
        { usage.promptTokensDetails with
          cachedTokens := foundCachedTokens channel body usage.toUsageCounts } }
  else usage

structure ChatAnswer where
  usage : Usage
  /-- the content and the reasoning of each choice -/
  choices : List (String × String)
  body : CachedInBody := {}

/-- The completion tokens of a Chat answer, counted if they were not reported. -/
def ChatAnswer.completionTokens (env : TokenEstimates) (answer : ChatAnswer) : Int :=
  if answer.usage.completionTokens = 0 then
    (answer.choices.map fun c =>
      (env.countTextToken (c.1 ++ c.2) env.upstreamModelName : Int)).sum
  else answer.usage.completionTokens

def openaiHandler (env : TokenEstimates) (channel : ChatChannel) (answer : ChatAnswer) : Usage :=
  applyUsagePostProcessing channel answer.body
    (if answer.usage.promptTokens = 0 then
      { promptTokens := env.estimatePromptTokens
        completionTokens := answer.completionTokens env
        totalTokens := env.estimatePromptTokens + answer.completionTokens env }
    else answer.usage)

/-- The text of the first choice after its conversion, as `ExtractOutputTextFromResponses` reads
it. -/
def ChatAnswer.outputText (answer : ChatAnswer) : String :=
  match answer.choices with
  | []                        => ""
  | (content, reasoning) :: _ => if content ≠ "" then content else reasoning

def oaiChatToResponsesHandler (env : TokenEstimates) (answer : ChatAnswer) : Usage :=
  orEstimate env (usageFromChatUsage answer.usage) answer.outputText

structure ChatStreamChunk where
  choices : List ChoiceDelta := []
  usage : Option Usage := none

/-- `ProcessStreamResponse`, for one choice. -/
def gatherDelta (gathered : String × ℕ) (delta : ChoiceDelta) : String × ℕ :=
  (gathered.1 ++ delta.content.getD "" ++ delta.reasoningContent.getD "" ++
      String.join (delta.toolCalls.map fun t => t.name ++ t.arguments),
    max gathered.2 delta.toolCalls.length)

/-- The text and the number of tool calls of a stream. They are gathered in the relay mode of Chat
only, which the requests of other clients do not have. -/
def gatherText (client : RelayFormat) (chunks : List ChatStreamChunk) : String × ℕ :=
  if client = .openAI then (chunks.flatMap (·.choices)).foldl gatherDelta ("", 0) else ("", 0)

def validUsage (usage : UsageCounts) : Bool :=
  usage.promptTokens != 0 || usage.completionTokens != 0

/-- A usage from the text of a stream and its tool calls. -/
def streamEstimate (env : TokenEstimates) (gathered : String × ℕ) : Usage :=
  let usage := responseText2Usage env gathered.1 env.upstreamModelName
  { usage with completionTokens := usage.completionTokens + gathered.2 * 7 }

def reportedUsage (chunk : Option ChatStreamChunk) : Option Usage :=
  (chunk.bind (·.usage)).filter fun u => validUsage u.toUsageCounts

/-- The usage of the last chunk of a stream counts; an audio model may have it one chunk before. -/
def oaiStreamHandler (env : TokenEstimates) (channel : ChatChannel) (client : RelayFormat)
    (body : CachedInBody) (chunks : List ChatStreamChunk) : Usage :=
  let isAudioModel := Text.contains (Text.toLower env.upstreamModelName) "audio"
  let reported := reportedUsage chunks.getLast? <|>
    if isAudioModel then reportedUsage chunks.dropLast.getLast? else none
  applyUsagePostProcessing channel body
    (reported.getD (streamEstimate env (gatherText client chunks)))

/-- The last usage of a stream counts, in whichever chunk it is. -/
def oaiChatToResponsesStreamHandler (env : TokenEstimates) (chunks : List ChatStreamChunk) :
    Usage :=
  let usage := ((chunks.filterMap (·.usage)).getLast?.map usageFromChatUsage).getD {}
  orEstimate env usage
    (String.join ((chunks.flatMap (·.choices)).map fun delta => delta.content.getD ""))

/-! ### Gemini -/

structure GeminiAnswer where
  hasCandidates : Bool := true
  usageMetadata : Option GeminiUsageMetadata := none
  text : String := ""
  imageCount : ℕ := 0

def attachEstimatedGeminiBillingUsage (usage : Usage) : Usage :=
  { usage with
    billingUsage :=
      usage.billingUsage <|> newEstimatedGeminiChatBillingUsage usage.toUsageCounts }

/-- The tokens of an output of which only text and images are known. -/
def estimatedOutput (env : TokenEstimates) (text : String) (imageCount : ℕ) : Int :=
  if imageCount ≠ 0 ∧ env.estimateTokenByModel env.upstreamModelName text = 0 then
    imageCount * 1400
  else env.estimateTokenByModel env.upstreamModelName text

def patchGeminiZeroCompletionUsage (env : TokenEstimates) (usage : Usage) (text : String)
    (imageCount : ℕ) : Usage :=
  if 0 < usage.completionTokens ∨ text = "" ∧ imageCount = 0 then usage
  else
    let counts := { usage.toUsageCounts with
      completionTokens := estimatedOutput env text imageCount
      totalTokens := usage.promptTokens + estimatedOutput env text imageCount }
    { counts with billingUsage := newEstimatedGeminiChatBillingUsage counts }

/-- The metadata that reports tokens. -/
def GeminiAnswer.billableMetadata (answer : GeminiAnswer) : Option GeminiUsageMetadata :=
  answer.usageMetadata.filter hasGeminiUsageMetadataTokens

def buildUsageFromGeminiResponse (env : TokenEstimates) (answer : GeminiAnswer) : Usage :=
  match answer.billableMetadata with
  | some metadata =>
    patchGeminiZeroCompletionUsage env
      (usageFromGeminiMetadata metadata env.estimatePromptTokens) answer.text answer.imageCount
  | none =>
    attachEstimatedGeminiBillingUsage (responseText2Usage env answer.text env.upstreamModelName)

def geminiStreamHandler (env : TokenEstimates) (answers : List GeminiAnswer) : Usage :=
  let text := String.join (answers.map (·.text))
  let imageCount := (answers.map (·.imageCount)).sum
  match (answers.filterMap GeminiAnswer.billableMetadata).getLast? with
  | some metadata =>
    patchGeminiZeroCompletionUsage env
      (usageFromGeminiMetadata metadata env.estimatePromptTokens) text imageCount
  | none =>
    let usage : Usage :=
      if answers ≠ [] then responseText2Usage env text env.upstreamModelName else {}
    attachEstimatedGeminiBillingUsage
      (if imageCount ≠ 0 ∧ usage.completionTokens = 0 then
        { usage with
          completionTokens := imageCount * 1400
          totalTokens := usage.promptTokens + imageCount * 1400 }
      else usage)

/-! ### Relayed answers -/

/-- An answer of an upstream, in its format. -/
inductive UpstreamAnswer where
  | responses (response : OpenAIResponsesResponse)
  | responsesStream (events : List ResponsesStreamResponse)
  | chat (answer : ChatAnswer)
  | chatStream (chunks : List ChatStreamChunk) (body : CachedInBody)
  | claude (usage : Option ClaudeUsage)
  | claudeStream (events : List ClaudeEvent)
  | gemini (answer : GeminiAnswer)
  | geminiStream (answers : List GeminiAnswer)

def UpstreamAnswer.format : UpstreamAnswer → RelayFormat
  | .responses _ | .responsesStream _ => .openAIResponses
  | .chat _ | .chatStream _ _ => .openAI
  | .claude _ | .claudeStream _ => .claude
  | .gemini _ | .geminiStream _ => .gemini

structure RelayContext extends TokenEstimates where
  channel : ChatChannel
  responseID : String
  created : Int
  /-- whether the client has asked for a stream -/
  clientStream : Bool := true

/-- The usage that is returned for settlement when an answer is relayed to a client, if the gateway
can convert the answer for it. -/
def relayUsage (ctx : RelayContext) (client : RelayFormat) : UpstreamAnswer → Option Usage
  | .responses response =>
    match client with
    | .openAIResponses            => some (oaiResponsesHandler response.usage)
    | .openAI | .claude | .gemini =>
      some (oaiResponsesToChatHandler ctx.toTokenEstimates response)
    | _                           => none
  | .responsesStream events =>
    match client with
    | .openAIResponses            => some (oaiResponsesStreamHandler ctx.toTokenEstimates events)
    | .openAI | .claude | .gemini =>
      if ctx.clientStream then
        (oaiResponsesToChatStreamHandler ctx.toTokenEstimates ctx.responseID ctx.created
          events).toOption
      else (oaiResponsesToChatBufferedStreamHandler ctx.toTokenEstimates events).toOption
    | _                           => none
  | .chat answer =>
    match client with
    | .openAI | .claude | .gemini => some (openaiHandler ctx.toTokenEstimates ctx.channel answer)
    | .openAIResponses            =>
      if ctx.channel = .advancedCustom then
        some (oaiChatToResponsesHandler ctx.toTokenEstimates answer)
      else none
    | _                           => none
  | .chatStream chunks body =>
    match client with
    | .openAI | .claude | .gemini =>
      some (oaiStreamHandler ctx.toTokenEstimates ctx.channel client body chunks)
    | .openAIResponses            =>
      if ctx.channel = .advancedCustom then
        some (oaiChatToResponsesStreamHandler ctx.toTokenEstimates chunks)
      else none
    | _                           => none
  | .claude usage =>
    match client with
    | .claude | .openAI => some (handleClaudeResponseData usage)
    | _                 => none
  | .claudeStream events =>
    match client with
    | .claude | .openAI => (claudeStreamHandler ctx.toTokenEstimates client events).toOption
    | _                 => none
  | .gemini answer =>
    match client with
    | .gemini | .openAI | .claude =>
      some (buildUsageFromGeminiResponse ctx.toTokenEstimates answer)
    | .openAIResponses            =>
      if answer.hasCandidates then some (buildUsageFromGeminiResponse ctx.toTokenEstimates answer)
      else none
    | _                           => none
  | .geminiStream answers =>
    match client with
    | .gemini | .openAI | .claude | .openAIResponses =>
      some (geminiStreamHandler ctx.toTokenEstimates answers)
    | _ => none

end XinghaiApi
