import XinghaiApi.Relay.Channel.Answer

/-!
# Settlement after a conversion

What is settled for an answer that was converted is compared with what is settled for the same
answer without a conversion. The billing usage of a Responses report is settled by fields that such
a report does not have, so its cached tokens are lost. The other differences are in estimates, for
counts that a report leaves out, and in the events that a stream may be closed by.
-/

namespace XinghaiApi

open Dto ResponsesToChatStreamState UpstreamAnswer ClaudeStream ResponsesStreamUsage UsageCounts
  InputTokenDetails Usage

/-! ### Reports -/

structure Dto.Usage.ResponsesReport (u : Usage) : Prop where
  noBilling : u.billingUsage = none
  noPrompt : u.promptTokens = 0
  noCompletion : u.completionTokens = 0
  noDetails : u.promptTokensDetails = {}
  input : 0 ≤ u.inputTokens
  output : 0 ≤ u.outputTokens
  total : 0 ≤ u.totalTokens
  details : ∀ d ∈ u.inputTokensDetails, 0 ≤ d.cachedTokens ∧ 0 ≤ d.cacheWriteTokens

structure Dto.Usage.ChatReport (u : Usage) : Prop where
  noBilling : u.billingUsage = none
  noInput : u.inputTokens = 0
  noOutput : u.outputTokens = 0
  prompt : 0 ≤ u.promptTokens
  completion : 0 ≤ u.completionTokens
  total : 0 ≤ u.totalTokens
  cached : 0 ≤ u.promptTokensDetails.cachedTokens

/-- The tokens of a Responses report, added up if it does not say. -/
def Dto.Usage.reportedTotal (u : Usage) : Int :=
  if u.totalTokens ≠ 0 then u.totalTokens else u.inputTokens + u.outputTokens

/-- The report has no tokens that were read from a cache or written to one. -/
def Dto.Usage.Uncached (u : Usage) : Prop :=
  ∀ d ∈ u.inputTokensDetails, d.cachedTokens = 0 ∧ d.cacheWriteTokens = 0

/-- The usage that the answer reports is one of its own format, without negative counts. -/
def UpstreamAnswer.Reported : UpstreamAnswer → Prop
  | .responses response => ∃ u, response.usage = some u ∧ u.ResponsesReport
  | .responsesStream events =>
    ∀ event ∈ events, ∀ u ∈ event.response.bind (·.usage), u.ResponsesReport
  | .chat answer => answer.usage.ChatReport
  | .chatStream chunks _ => ∀ chunk ∈ chunks, ∀ u ∈ chunk.usage, u.ChatReport
  | .claude _ | .claudeStream _ | .gemini _ | .geminiStream _ => True

/-! ### Conversions that keep the counts -/

/-- The report has no tokens that were read from a cache or written to one, and it is not empty. -/
def Dto.Usage.KeptPlain (u : Usage) : Prop := u.Uncached ∧ u.reportedTotal ≠ 0

/-- The event closes the stream of an answer. -/
def ResponsesStreamResponse.closes (event : ResponsesStreamResponse) : Prop :=
  event.type = .completed ∨ event.type = .done ∨ event.type = .incomplete

/-- The stream is closed once, by `response.completed`, whose report is kept; where it leaves the
output out the stream has no text, and where it leaves the input out it has no output either. -/
def KeptStream (events : List ResponsesStreamResponse) : Prop :=
  ∃ init last response u, events = init ++ [last] ∧ last.type = .completed ∧
    last.response = some response ∧ response.usage = some u ∧ (∀ event ∈ init, ¬ event.closes) ∧
    u.KeptPlain ∧ (u.inputTokens = 0 → u.outputTokens = 0) ∧
    (u.outputTokens = 0 → ∀ event ∈ init, event.type = .outputTextDelta → event.delta = "")

/-- The last chunk of the stream reports prompt or completion tokens. -/
def KeptChunks (chunks : List ChatStreamChunk) : Prop :=
  ∃ init last u, chunks = init ++ [last] ∧ last.usage = some u ∧
    (u.promptTokens ≠ 0 ∨ u.completionTokens ≠ 0)

def Dto.ClaudeUsage.HasCounts (u : ClaudeUsage) : Prop :=
  0 < u.inputTokens ∨ 0 < u.outputTokens ∨ 0 < u.cacheReadInputTokens ∨
    0 < u.cacheCreationInputTokens

def ClaudeEvent.starts : ClaudeEvent → Option ClaudeUsage
  | .messageStart (some (_, u)) => u
  | _ => none

def ClaudeEvent.reports : ClaudeEvent → Option ClaudeUsage
  | .messageDelta u => u
  | event => event.starts

/-- The stream reports a count, and does not start again after that. -/
def ReportsCounts (events : List ClaudeEvent) : Prop :=
  ∃ init event rest u, events = init ++ event :: rest ∧ event.reports = some u ∧ u.HasCounts ∧
    ∀ event ∈ rest, event.starts = none

/-- When an answer is settled for a client as it is without a conversion. -/
def UpstreamAnswer.KeepsCounts (ctx : RelayContext) (client : RelayFormat) : UpstreamAnswer → Prop
  | .responses response => client = .openAIResponses ∨ ∀ u ∈ response.usage, u.KeptPlain
  | .responsesStream events => client = .openAIResponses ∨ KeptStream events
  | .chat answer => client ≠ .openAIResponses ∨ answer.usage.promptTokens ≠ 0
  | .chatStream chunks _ => client = .openAI ∨ KeptChunks chunks
  | .claudeStream events => ReportsCounts events ∨ ctx.estimatePromptTokens ≠ 0
  | .claude _ | .gemini _ | .geminiStream _ => True

/-! ### Plain answers -/

section

variable (env : TokenEstimates) {u : Usage}

lemma settledTokens_of_none (h : u.billingUsage = none) : settledTokens u = u.tokens := by
  rw [settledTokens, effectiveUsage_of_none h]

lemma orEstimate_of_ne {usage : Usage} (h : usage.totalTokens ≠ 0) (text : String) :
    orEstimate env usage text = usage := if_neg h

lemma Dto.InputTokenDetails.cacheCreationTotal_of_noCreation {d : InputTokenDetails}
    (h : d.cachedCreationTokens = 0) (hwrite : d.cacheWriteTokens = 0) :
    d.cacheCreationTokensTotal = 0 := by
  rw [cacheCreationTokensTotal]
  split_ifs <;> omega

/-- A report without cached tokens, as a handler of Responses has put it into a usage. -/
lemma tokens_of_uncached {usage : UsageCounts} (h : u.Uncached)
    (hdetails : usage.promptTokensDetails = match u.inputTokensDetails with
      | none   => {}
      | some d => { cachedTokens := d.cachedTokens, cacheWriteTokens := d.cacheWriteTokens }) :
    usage.tokens = ⟨usage.promptTokens, usage.completionTokens, 0, 0⟩ := by
  rw [tokens, hdetails]
  cases hd : u.inputTokensDetails with
  | none   => rfl
  | some d =>
    obtain ⟨hcached, hwrite⟩ := h d (by simp [hd])
    simp [hcached, cacheCreationTotal_of_noCreation, hwrite]

section

variable (h : u.ResponsesReport) (hkept : u.KeptPlain)

include hkept

lemma settledTokens_oaiResponsesHandler :
    settledTokens (oaiResponsesHandler (some u)) = ⟨u.inputTokens, u.outputTokens, 0, 0⟩ := by
  rw [settledTokens_of_none rfl]
  exact tokens_of_uncached hkept.1 rfl

include h

/-- The billing usage of a Responses report has no details of the prompt. -/
lemma settledTokens_converted_responses (text : String) :
    settledTokens (orEstimate env (usageFromResponsesUsage (some u)) text) =
      ⟨u.inputTokens, u.outputTokens, 0, 0⟩ := by
  have hbilling : (usageFromResponsesUsage (some u)).billingUsage =
      newOpenAIBillingUsage .oaiResponses u.toUsageCounts := by
    simp [usageFromResponsesUsage, h.noBilling, newOpenAIResponsesBillingUsage]
  have htotal := hkept.2
  have htokens : hasOpenAIUsageTokens u.toUsageCounts = true := by
    by_contra hnone
    simp_all [hasOpenAIUsageTokens, reportedTotal]
  have hin := h.input
  have hout := h.output
  rw [orEstimate_of_ne env htotal, settledTokens, effectiveUsage_of_openAI hbilling htokens]
  simp only [usageFromOpenAIBillingUsage, tokens, h.noPrompt, h.noCompletion, h.noDetails, true_and,
    cacheCreationTotal_of_noCreation, TokenCounts.mk.injEq, and_true]
  constructor
  · split_ifs <;> omega
  · split_ifs <;> omega

end

lemma settledTokens_converted_chat (h : u.ChatReport)
    (hvalid : u.promptTokens ≠ 0 ∨ u.completionTokens ≠ 0) (text : String) :
    settledTokens (orEstimate env (usageFromChatUsage u) text) = settledTokens u := by
  have hprompt := h.prompt
  have hcompletion := h.completion
  have htotal : (usageFromChatUsage u).totalTokens ≠ 0 := by
    simp only [usageFromChatUsage]
    split_ifs <;> omega
  have hbilling : (usageFromChatUsage u).billingUsage =
      newOpenAIBillingUsage .oaiChat u.toUsageCounts := by
    simp [usageFromChatUsage, h.noBilling, newOpenAIChatBillingUsage]
  have htokens : hasOpenAIUsageTokens u.toUsageCounts = true := by
    by_contra hnone
    simp_all [hasOpenAIUsageTokens]
  rw [orEstimate_of_ne env htotal, settledTokens_of_none h.noBilling, settledTokens,
    effectiveUsage_of_openAI hbilling htokens]
  simp [usageFromOpenAIBillingUsage, tokens, h.noInput, h.noOutput]

lemma applyUsagePostProcessing_advancedCustom (body : CachedInBody) (usage : Usage) :
    applyUsagePostProcessing .advancedCustom body usage = usage := by
  rw [applyUsagePostProcessing]
  split_ifs with h
  · have hcached : { usage.promptTokensDetails with cachedTokens := 0 } =
        usage.promptTokensDetails := by rw [← h]
    rw [foundCachedTokens, hcached]
  · rfl

lemma settledTokens_chat {answer : ChatAnswer} (h : answer.usage.ChatReport)
    (hprompt : answer.usage.promptTokens ≠ 0) :
    settledTokens (oaiChatToResponsesHandler env answer) =
      settledTokens (openaiHandler env .advancedCustom answer) := by
  rw [oaiChatToResponsesHandler, settledTokens_converted_chat env h (.inl hprompt), openaiHandler,
    if_neg hprompt, applyUsagePostProcessing_advancedCustom]

/-! ### Chat streams -/

variable {channel : ChatChannel} {body : CachedInBody} {init : List ChatStreamChunk}
  {last : ChatStreamChunk}

lemma oaiStreamHandler_of_report (client : RelayFormat) (hu : last.usage = some u)
    (hvalid : u.promptTokens ≠ 0 ∨ u.completionTokens ≠ 0) :
    oaiStreamHandler env channel client body (init ++ [last]) =
      applyUsagePostProcessing channel body u := by
  have hreported : reportedUsage (some last) = some u := by
    simp [reportedUsage, hu, validUsage, hvalid]
  simp [oaiStreamHandler, hreported]

lemma settledTokens_chatStream_responses (hu : last.usage = some u) (h : u.ChatReport)
    (hvalid : u.promptTokens ≠ 0 ∨ u.completionTokens ≠ 0) :
    settledTokens (oaiChatToResponsesStreamHandler env (init ++ [last])) =
      settledTokens (oaiStreamHandler env .advancedCustom .openAI body (init ++ [last])) := by
  have hreports : ((init ++ [last]).filterMap (·.usage)).getLast? = some u := by
    simp [hu]
  rw [oaiStreamHandler_of_report env .openAI hu hvalid, applyUsagePostProcessing_advancedCustom,
    oaiChatToResponsesStreamHandler, hreports]
  exact settledTokens_converted_chat env h hvalid _

end

/-! ### Responses streams -/

section

variable (env : TokenEstimates) {events init : List ResponsesStreamResponse}
  {last : ResponsesStreamResponse} {response : OpenAIResponsesResponse} {u : Usage}

lemma usage_foldl_accept (h : ∀ event ∈ init, ¬ event.closes) (s : ResponsesStreamUsage) :
    (init.foldl accept s).usage = s.usage := by
  induction init generalizing s with
  | nil => rfl
  | cons event init ih =>
    rw [List.forall_mem_cons] at h
    rw [List.foldl_cons, ih h.2, ResponsesStreamUsage.accept]
    split
    · rename_i htype
      exact absurd (.inl htype) h.1
    · rfl
    · rfl

lemma text_foldl_accept
    (h : ∀ event ∈ init, event.type = .outputTextDelta → event.delta = "")
    (s : ResponsesStreamUsage) : (init.foldl accept s).text = s.text := by
  induction init generalizing s with
  | nil => rfl
  | cons event init ih =>
    rw [List.forall_mem_cons] at h
    rw [List.foldl_cons, ih h.2, ResponsesStreamUsage.accept]
    split
    · split <;> rfl
    · rename_i htype
      simp [h.1 htype]
    · rfl

lemma settledTokens_oaiResponsesStreamHandler (h : KeptStream events) :
    ∃ init last response u, events = init ++ [last] ∧ last.type = .completed ∧
      last.response = some response ∧ response.usage = some u ∧ (∀ event ∈ init, ¬ event.closes) ∧
      u.KeptPlain ∧
      settledTokens (oaiResponsesStreamHandler env events) =
        ⟨u.inputTokens, u.outputTokens, 0, 0⟩ := by
  obtain ⟨init, last, response, u, rfl, htype, hresponse, hu, hinit, hkept, hinput, htext⟩ := h
  refine ⟨init, last, response, u, rfl, htype, hresponse, hu, hinit, hkept, ?_⟩
  have hstate : (init ++ [last]).foldl accept {} =
      { usage := takeReport {} u, text := (init.foldl accept {}).text } := by
    rw [List.foldl_concat, ResponsesStreamUsage.accept]
    simp only [htype, hresponse, Option.bind_some, hu, usage_foldl_accept hinit]
  have hcount : ∀ n : Int, (if n ≠ 0 then n else 0) = n := by
    intro n
    split_ifs <;> omega
  have hin : (takeReport {} u).promptTokens = u.inputTokens := hcount _
  have hout : (takeReport {} u).completionTokens = u.outputTokens := hcount _
  have hcompletion : countedOutput env u.outputTokens (init.foldl accept {}).text =
      u.outputTokens := by
    rw [countedOutput, if_neg]
    rintro ⟨hzero, hne⟩
    exact hne (text_foldl_accept (htext hzero) {})
  have hprompt : countedInput env u.inputTokens u.outputTokens = u.inputTokens := by
    rw [countedInput, if_neg]
    rintro ⟨hzero, hne⟩
    exact hne (hinput hzero)
  rw [settledTokens_of_none rfl, oaiResponsesStreamHandler, hstate]
  rw [tokens_of_uncached hkept.1 (by rfl)]
  simp only [complete, hin, hout, hcompletion, hprompt]

/-- The report of the closing event is that of the answer that was gathered. -/
lemma usage_bufferedResponse (htype : last.type = .completed)
    (hresponse : last.response = some response) (hinit : ∀ event ∈ init, ¬ event.closes)
    (a : ResponsesBuffer) {r : OpenAIResponsesResponse}
    (h : bufferedResponse a (init ++ [last]) = .ok r) : r.usage = response.usage := by
  have hsupplement : ∀ (a : ResponsesBuffer) (response : OpenAIResponsesResponse),
      (a.supplement response).usage = response.usage := by
    intro a response
    rw [ResponsesBuffer.supplement]
    split_ifs <;> rfl
  induction init generalizing a with
  | nil =>
    simp only [List.nil_append, bufferedResponse, htype, hresponse] at h
    rw [← Except.ok.inj h, hsupplement]
  | cons event init ih =>
    rw [List.forall_mem_cons] at hinit
    simp only [List.cons_append, bufferedResponse] at h
    split at h
    case h_1 => cases h
    case h_2 => cases h
    case h_3 _ hevent => exact absurd (.inr (.inr hevent)) hinit.1
    case h_4 _ hevent _ => exact absurd (.inl hevent) hinit.1
    case h_5 _ hevent _ => exact absurd (.inr (.inl hevent)) hinit.1
    case h_6 => exact ih hinit.2 _ h

end

/-! ### The usage of a converted stream -/

section

variable {r : ResponsesToChatStreamState × List ChatChunk} (s : ResponsesToChatStreamState)
  (tool : ResponsesStreamTool)

@[simp] lemma usage_ensureStart : s.ensureStart.1.usage = s.usage := by
  rw [ensureStart]
  split <;> rfl

@[simp] lemma usage_textDelta (delta : String) : (s.textDelta delta).1.usage = s.usage := by
  rw [textDelta]
  split
  · rfl
  · simp

@[simp] lemma usage_reasoningDelta (delta : String) :
    (s.reasoningDelta delta).1.usage = s.usage := by
  rw [reasoningDelta]
  split
  · rfl
  · simp

@[simp] lemma usage_toolDelta (explicitDelta : String) :
    (s.toolDelta tool explicitDelta).1.usage = s.usage := by
  simp only [toolDelta, apply_ite (fun r : ResponsesToChatStreamState × List ChatChunk =>
    r.1.usage), sendTool, putTool, usage_ensureStart, ite_self]

@[simp] lemma usage_drainOutputIndex (outputIndex : Option Int) :
    (s.drainOutputIndex tool outputIndex).1.usage = s.usage := by
  cases outputIndex with
  | none => rfl
  | some index =>
    simp only [drainOutputIndex]
    split <;> rfl

@[simp] lemma usage_drainItemID (itemID : String) :
    (s.drainItemID tool itemID).1.usage = s.usage := by
  simp only [drainItemID]
  split
  · rfl
  · split <;> rfl

lemma usage_ensureToolForEvent {event : ResponsesStreamResponse} {item : ResponsesOutput}
    {r : ResponsesToChatStreamState × ResponsesStreamTool}
    (h : s.ensureToolForEvent event item = some r) : r.1.usage = s.usage := by
  rw [ensureToolForEvent, Option.map_eq_some_iff] at h
  obtain ⟨key, -, rfl⟩ := h
  simp only [usage_drainItemID, usage_drainOutputIndex]
  split <;> rfl

@[simp] lemma usage_toolItem (event : ResponsesStreamResponse) (item : ResponsesOutput) :
    (s.toolItem event item).1.usage = s.usage := by
  rw [toolItem]
  split
  · rfl
  · rename_i s' tool h
    rw [usage_toolDelta]
    exact usage_ensureToolForEvent s h

@[simp] lemma usage_terminalItem (item : ResponsesOutput) :
    (s.terminalItem item).1.usage = s.usage := by
  rw [terminalItem]
  split_ifs <;> simp

@[simp] lemma usage_terminalOutput (output : List ResponsesOutput) :
    (s.terminalOutputChunks output).1.usage = s.usage := by
  induction output generalizing s with
  | nil => rfl
  | cons item output ih => simp only [terminalOutputChunks, ih, usage_terminalItem]

lemma usage_flushKey (key : ToolKey) : (s.flushKey key).1.usage = s.usage := by
  cases key <;> simp only [flushKey, usage_toolDelta] <;> split <;> rfl

lemma usage_flushKeys (keys : List ToolKey) : (s.flushKeys keys).1.usage = s.usage := by
  induction keys generalizing s with
  | nil => rfl
  | cons key keys ih => simp only [flushKeys, ih, usage_flushKey]

@[simp] lemma usage_finalize (response : Option OpenAIResponsesResponse) :
    (s.finalize response).1.usage = s.usage := by
  rw [finalize]
  split
  · rfl
  · simp only [usage_ensureStart, flushAllPendingTools, usage_flushKeys]

/-- The report of the closing event is the usage of the converted stream. -/
lemma usage_convertResponsesStream {init : List ResponsesStreamResponse}
    {last : ResponsesStreamResponse} {response : OpenAIResponsesResponse} {u : Usage}
    (htype : last.type = .completed) (hresponse : last.response = some response)
    (hu : response.usage = some u) (h : convertResponsesStream s (init ++ [last]) = .ok r) :
    r.1.usage = usageFromResponsesUsage (some u) := by
  induction init generalizing s r with
  | nil =>
    simp only [List.nil_append, convertResponsesStream, responsesStreamEventToChatChunks, htype,
      hresponse] at h
    obtain rfl := Except.ok.inj h
    simp [closeStream, applyResponseMetadata, hu]
  | cons event init ih =>
    obtain ⟨r', -, h⟩ := Except.bind_eq_ok.mp h
    obtain ⟨r'', hrest, rfl⟩ := Except.map_eq_ok.mp h
    have hlast := ih r'.1 hrest
    exact hlast

end

/-! ### Claude streams -/

lemma ClaudeStream.toClaudeResponseInfo_foldl (format : RelayFormat) (events : List ClaudeEvent)
    (stream : ClaudeStream) :
    (events.foldl (accept format) stream).toClaudeResponseInfo =
      events.foldl formatClaudeResponseInfo stream.toClaudeResponseInfo := by
  induction events generalizing stream with
  | nil => rfl
  | cons event events ih => exact ih (stream.accept format event)

/-- The counts are those of a report that is not empty. -/
def Dto.UsageCounts.HasCounts (usage : UsageCounts) : Prop :=
  (claudeUsageFromSemanticUsage usage).HasCounts

lemma orElsePos_pos_iff {later earlier : Int} :
    0 < orElsePos later earlier ↔ 0 < later ∨ 0 < earlier := by
  rw [orElsePos]
  split_ifs <;> omega

lemma hasCounts_of_reports {event : ClaudeEvent} {u : ClaudeUsage}
    (hreports : event.reports = some u) (hu : u.HasCounts) (info : ClaudeResponseInfo) :
    (formatClaudeResponseInfo info event).usage.HasCounts := by
  match event, hreports with
  | .messageDelta (some _), rfl =>
    have hpos {later earlier : Int} (h : 0 < later) : 0 < orElsePos later earlier :=
      orElsePos_pos_iff.mpr (.inl h)
    exact hu.imp hpos (Or.imp hpos (Or.imp hpos hpos))
  | .messageStart (some (_, some _)), rfl => exact hu

/-- Only a start can take the counts back. -/
lemma Dto.UsageCounts.HasCounts.format {info : ClaudeResponseInfo} (h : info.usage.HasCounts)
    {event : ClaudeEvent} (hstarts : event.starts = none) :
    (formatClaudeResponseInfo info event).usage.HasCounts := by
  match event, hstarts with
  | .messageDelta (some u), _ =>
    have hpos {later earlier : Int} (h : 0 < earlier) : 0 < orElsePos later earlier :=
      orElsePos_pos_iff.mpr (.inr h)
    exact h.imp hpos (Or.imp hpos (Or.imp hpos hpos))
  | .messageDelta none, _ | .messageStart none, _ | .messageStart (some (_, none)), _
  | .contentBlockStart, _ | .contentBlockDelta _ _, _ | .other, _ | .error _ _, _
  | .malformed _, _ => exact h

lemma ReportsCounts.hasCounts {events : List ClaudeEvent} (h : ReportsCounts events)
    (info : ClaudeResponseInfo) : (events.foldl formatClaudeResponseInfo info).usage.HasCounts := by
  obtain ⟨init, event, rest, u, rfl, hreports, hu, hrest⟩ := h
  rw [List.foldl_append, List.foldl_cons]
  generalize init.foldl formatClaudeResponseInfo info = info
  have hcounts := hasCounts_of_reports hreports hu info
  generalize formatClaudeResponseInfo info event = info at hcounts ⊢
  induction rest generalizing info with
  | nil => exact hcounts
  | cons event rest ih =>
    rw [List.forall_mem_cons] at hrest
    exact ih hrest.2 _ (hcounts.format hrest.1)

/-- A stream that reports counts is settled alike for all clients; so is one without any, unless its
text alone is settled, which an estimate is made of. -/
lemma settledTokens_claudeStream_clients (env : TokenEstimates) (client : RelayFormat)
    {events : List ClaudeEvent} (h : ReportsCounts events ∨ env.estimatePromptTokens ≠ 0) :
    settledTokens (handleStreamFinalResponse env (gathered env client events)) =
      settledTokens (handleStreamFinalResponse env (gathered env .claude events)) := by
  have hconsistent := consistent_gathered env client events
  have hconsistent' := consistent_gathered env .claude events
  -- a stream is gathered alike for all clients, but for the model that estimates use
  have hinfo : (gathered env .claude events).usage = (gathered env client events).usage := by
    simp only [gathered, toClaudeResponseInfo_foldl]
  cases htokens : hasClaudeUsageTokens (claudeUsageFromSemanticUsage
      (gathered env client events).usage.toUsageCounts) with
  | true =>
    rw [settledTokens_final_of_report env hconsistent htokens,
      settledTokens_final_of_report env hconsistent' (hinfo ▸ htokens), hinfo]
  | false =>
    have hzero : env.estimatePromptTokens ≠ 0 := by
      refine h.resolve_left fun hreports => ?_
      have hcounts : (gathered env client events).usage.HasCounts := by
        simp only [gathered, toClaudeResponseInfo_foldl]
        exact hreports.hasCounts _
      obtain ⟨hprompt, hcompletion, hcached, hcreation, -⟩ :=
        eq_zero_of_hasClaudeUsageTokens_eq_false htokens
      rcases hcounts with hpos | hpos | hpos | hpos
      · exact hpos.ne' hprompt
      · exact hpos.ne' hcompletion
      · exact hpos.ne' hcached
      · exact hpos.ne' hcreation
    rw [(settledTokens_final_of_no_report env hconsistent htokens).2,
      (settledTokens_final_of_no_report env hconsistent' (hinfo ▸ htokens)).2, if_neg hzero,
      if_neg hzero]

/-! ### All conversions -/

section

variable {ctx : RelayContext} {client : RelayFormat}

/-- The same is settled for a client as for one of the format of the answer. -/
def UpstreamAnswer.SettledAlike (answer : UpstreamAnswer) (ctx : RelayContext)
    (client : RelayFormat) : Prop :=
  ∀ native converted, relayUsage ctx answer.format answer = some native →
    relayUsage ctx client answer = some converted → settledTokens converted = settledTokens native

lemma settledAlike_responses {response : OpenAIResponsesResponse}
    (hreport : (responses response).Reported)
    (hkeeps : (responses response).KeepsCounts ctx client) :
    (responses response).SettledAlike ctx client := by
  intro native converted hnative hconverted
  obtain ⟨u, hu, h⟩ := hreport
  rcases hkeeps with rfl | hkept
  · rw [Option.some.inj (hconverted.symm.trans hnative)]
  obtain rfl := Option.some.inj hnative
  have hkept := hkept u hu
  rw [hu, settledTokens_oaiResponsesHandler hkept]
  have hchat : settledTokens (oaiResponsesToChatHandler ctx.toTokenEstimates response) =
      ⟨u.inputTokens, u.outputTokens, 0, 0⟩ := by
    rw [oaiResponsesToChatHandler, hu]
    exact settledTokens_converted_responses _ h hkept _
  cases client <;> simp only [relayUsage, reduceCtorEq] at hconverted <;>
    obtain rfl := Option.some.inj hconverted
  case openAIResponses => rw [hu, settledTokens_oaiResponsesHandler hkept]
  all_goals exact hchat

lemma settledAlike_responsesStream {events : List ResponsesStreamResponse}
    (hreport : (responsesStream events).Reported)
    (hkeeps : (responsesStream events).KeepsCounts ctx client) :
    (responsesStream events).SettledAlike ctx client := by
  intro native converted hnative hconverted
  rcases hkeeps with rfl | hkept
  · rw [Option.some.inj (hconverted.symm.trans hnative)]
  obtain rfl := Option.some.inj hnative
  obtain ⟨init, last, response, u, rfl, htype, hresponse, hu, hinit, hkept, hsettled⟩ :=
    settledTokens_oaiResponsesStreamHandler ctx.toTokenEstimates hkept
  have h : u.ResponsesReport := hreport last (by simp) u (by simp [hresponse, hu])
  rw [hsettled]
  have hstream : ∀ usage, (oaiResponsesToChatStreamHandler ctx.toTokenEstimates ctx.responseID
      ctx.created (init ++ [last])).toOption = some usage →
      settledTokens usage = ⟨u.inputTokens, u.outputTokens, 0, 0⟩ := by
    intro usage husage
    obtain ⟨r, hr, rfl⟩ := Except.map_eq_ok.mp (Except.toOption_eq_some.mp husage)
    rw [usage_convertResponsesStream _ htype hresponse hu hr]
    exact settledTokens_converted_responses _ h hkept _
  have hbuffered : ∀ usage, (oaiResponsesToChatBufferedStreamHandler ctx.toTokenEstimates
      (init ++ [last])).toOption = some usage →
      settledTokens usage = ⟨u.inputTokens, u.outputTokens, 0, 0⟩ := by
    intro usage husage
    obtain ⟨r, hr, rfl⟩ := Except.map_eq_ok.mp (Except.toOption_eq_some.mp husage)
    rw [oaiResponsesToChatHandler, usage_bufferedResponse htype hresponse hinit _ hr, hu]
    exact settledTokens_converted_responses _ h hkept _
  cases client <;> simp only [relayUsage, reduceCtorEq] at hconverted
  case openAIResponses =>
    obtain rfl := Option.some.inj hconverted
    exact hsettled
  all_goals
    split_ifs at hconverted
    · exact hstream converted hconverted
    · exact hbuffered converted hconverted

lemma settledAlike_chat {answer : ChatAnswer} (hreport : (chat answer).Reported)
    (hkeeps : (chat answer).KeepsCounts ctx client) : (chat answer).SettledAlike ctx client := by
  intro native converted hnative hconverted
  obtain rfl := Option.some.inj hnative
  cases client <;> simp only [relayUsage, reduceCtorEq] at hconverted
  case openAIResponses =>
    split_ifs at hconverted with hchannel
    obtain rfl := Option.some.inj hconverted
    rw [hchannel]
    exact settledTokens_chat _ hreport (hkeeps.resolve_left fun h => h rfl)
  all_goals rw [Option.some.inj hconverted]

lemma settledAlike_chatStream {chunks : List ChatStreamChunk} {body : CachedInBody}
    (hreport : (chatStream chunks body).Reported)
    (hkeeps : (chatStream chunks body).KeepsCounts ctx client) :
    (chatStream chunks body).SettledAlike ctx client := by
  intro native converted hnative hconverted
  rcases hkeeps with rfl | ⟨init, last, u, rfl, hu, hvalid⟩
  · rw [Option.some.inj (hconverted.symm.trans hnative)]
  obtain rfl := Option.some.inj hnative
  cases client <;> simp only [relayUsage, reduceCtorEq] at hconverted
  case openAIResponses =>
    split_ifs at hconverted with hchannel
    obtain rfl := Option.some.inj hconverted
    rw [hchannel]
    exact settledTokens_chatStream_responses _ hu (hreport last (by simp) u hu) hvalid
  all_goals simp only [← Option.some.inj hconverted, oaiStreamHandler_of_report _ _ hu hvalid]

lemma settledAlike_claudeStream {events : List ClaudeEvent}
    (hkeeps : (claudeStream events).KeepsCounts ctx client) :
    (claudeStream events).SettledAlike ctx client := by
  intro native converted hnative hconverted
  have hfinal : ∀ format usage, (claudeStreamHandler ctx.toTokenEstimates format events).toOption =
      some usage → usage = handleStreamFinalResponse ctx.toTokenEstimates
        (gathered ctx.toTokenEstimates format events) := fun format usage husage =>
    claudeStreamHandler_eq_final (Except.toOption_eq_some.mp husage)
  obtain rfl := hfinal .claude native hnative
  cases client <;> simp only [relayUsage, reduceCtorEq] at hconverted <;>
    obtain rfl := hfinal _ converted hconverted <;>
    exact settledTokens_claudeStream_clients _ _ hkeeps

/-- An answer of Gemini has one usage, whoever asked for it, and so has a plain answer of Claude. -/
lemma settledAlike_of_one_usage {answer : UpstreamAnswer}
    (hanswer : (∃ usage, answer = .claude usage) ∨ (∃ a, answer = .gemini a) ∨
      ∃ as, answer = .geminiStream as) : answer.SettledAlike ctx client := by
  intro native converted hnative hconverted
  suffices h : converted = native by rw [h]
  rcases hanswer with ⟨usage, rfl⟩ | ⟨a, rfl⟩ | ⟨as, rfl⟩ <;>
    obtain rfl := Option.some.inj hnative <;> cases client <;>
    simp only [relayUsage, reduceCtorEq] at hconverted
  case inr.inl.openAIResponses =>
    split_ifs at hconverted
    exact (Option.some.inj hconverted).symm
  all_goals exact (Option.some.inj hconverted).symm

end

/-- A request to a channel, with estimates by the length of a text. -/
def plainContext : RelayContext where
  toTokenEstimates := lengthEstimates
  channel := .advancedCustom
  responseID := "resp"
  created := 0

def cachedReport (cachedTokens : Int) : Usage where
  inputTokens := 100
  outputTokens := 10
  totalTokens := 110
  inputTokensDetails := some { cachedTokens := cachedTokens }

end XinghaiApi
