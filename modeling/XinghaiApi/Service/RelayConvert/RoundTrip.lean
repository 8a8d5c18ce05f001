import XinghaiApi.Relay.Channel.Answer

/-!
# A Chat answer as a Responses answer and back

Text, reasoning and calls become items of their own, and are gathered from the items again.
-/

namespace XinghaiApi

open Dto Text ResponsesToChatStreamState List

/-- The call of a function. -/
structure FunctionCall where
  id : String
  name : String
  arguments : String
deriving DecidableEq

/-- A choice, with its text as `StringContent` reads it. -/
@[ext] structure ChatChoice where
  content : String := ""
  reasoningContent : String := ""
  toolCalls : List FunctionCall := []
  finishReason : String := "stop"
deriving DecidableEq

structure OpenAITextResponse where
  id : String
  model : String
  created : Int
  choices : List ChatChoice
  usage : Usage

/-! ### To a Responses answer -/

/-- The status, and why the answer is incomplete. -/
def responsesStatusFromChatFinishReason (finishReason : String) : String × Option String :=
  let reason := trimSpace finishReason
  if reason = "length" then ("incomplete", some "max_output_tokens")
  else if reason = "content_filter" then ("incomplete", some "content_filter")
  else ("completed", none)

def chatToolCallToResponsesOutput (responseID : String) (index : ℕ) (call : FunctionCall) :
    ResponsesOutput :=
  let trimmed := trimSpace call.id
  let callID := if trimmed = "" then responseID ++ "_call_" ++ toString index else trimmed
  { type := .functionCall, id := callID, callId := callID, name := call.name,
    arguments := call.arguments }

def ChatChoice.output (choice : ChatChoice) (id : String) : List ResponsesOutput :=
  (if choice.content = "" then [] else
    [{ type := .message, id := id ++ "_msg_0", role := "assistant",
       content := [⟨"output_text", choice.content⟩] }]) ++
  (if choice.reasoningContent = "" then [] else
    [{ type := .reasoning, id := id ++ "_reasoning_0",
       content := [⟨"summary_text", choice.reasoningContent⟩] }]) ++
  choice.toolCalls.mapIdx (chatToolCallToResponsesOutput id)

def chatCompletionsResponseToResponsesResponse (resp : OpenAITextResponse) (id : String) :
    OpenAIResponsesResponse :=
  let out : OpenAIResponsesResponse :=
    { id := id, model := resp.model, createdAt := resp.created, status := "completed",
      usage := some (usageFromChatUsage resp.usage) }
  match resp.choices with
  | []          => out
  | choice :: _ =>
    let status := responsesStatusFromChatFinishReason choice.finishReason
    { out with
      status := status.1
      incompleteReason := status.2
      output := choice.output id }

/-! ### And back -/

def extractReasoningText (output : List ResponsesOutput) : String :=
  String.join ((output.filter (·.type = .reasoning)).flatMap fun out => out.content.map (·.text))

/-- The call of an item; a call without a name is left out. -/
def functionCall? (out : ResponsesOutput) : Option FunctionCall :=
  let callId := trimSpace out.callId
  if isResponsesToolOutputType out.type ∧ trimSpace out.name ≠ "" then
    some ⟨if callId = "" then trimSpace out.id else callId, trimSpace out.name, out.arguments⟩
  else none

def chatFinishReason (resp : OpenAIResponsesResponse) (toolCalls : List FunctionCall) : String :=
  (responsesFinishReasonFromStatus resp).getD (if toolCalls = [] then "stop" else "tool_calls")

def responsesResponseToChatCompletionsResponse (resp : OpenAIResponsesResponse) (id : String) :
    OpenAITextResponse :=
  let toolCalls := resp.output.filterMap functionCall?
  { id := id, model := resp.model, created := resp.createdAt,
    choices :=
      [{ content := extractOutputText resp.output
         reasoningContent := extractReasoningText resp.output
         toolCalls := toolCalls
         finishReason := chatFinishReason resp toolCalls }],
    usage := usageFromResponsesUsage resp.usage }

def OpenAITextResponse.roundTrip (resp : OpenAITextResponse) (id id' : String) :
    OpenAITextResponse :=
  responsesResponseToChatCompletionsResponse
    (chatCompletionsResponseToResponsesResponse resp id) id'

/-! ### What comes back -/

variable {choice : ChatChoice} {calls : List FunctionCall} {id : String}

lemma filter_calls {p : ResponsesOutput → Bool}
    (hp : ∀ out, out.type = .functionCall → p out = false) :
    (calls.mapIdx (chatToolCallToResponsesOutput id)).filter p = [] := by
  rw [filter_eq_nil_iff]
  intro out h
  obtain ⟨i, hi, rfl⟩ := mem_mapIdx.mp h
  exact Bool.eq_false_iff.mp (hp _ rfl)

lemma flatMap_calls :
    (calls.mapIdx (chatToolCallToResponsesOutput id)).flatMap
      (fun out => out.content.map (·.text)) = [] := by
  rw [flatMap_eq_nil_iff]
  intro out h
  obtain ⟨i, hi, rfl⟩ := mem_mapIdx.mp h
  rfl

lemma extractOutputText_output :
    extractOutputText (choice.output id) =
      if choice.content = "" then choice.reasoningContent else choice.content := by
  rw [extractOutputText, ChatChoice.output, filter_append, flatMap_append,
    filter_calls (by simp +contextual), flatMap_calls]
  by_cases hc : choice.content = "" <;> by_cases hr : choice.reasoningContent = "" <;>
    simp [hc, hr, messageText]

lemma extractReasoningText_output :
    extractReasoningText (choice.output id) = choice.reasoningContent := by
  rw [extractReasoningText, ChatChoice.output, filter_append, filter_calls (by simp +contextual)]
  by_cases hc : choice.content = "" <;> by_cases hr : choice.reasoningContent = "" <;>
    simp [hc, hr]

/-- The call has an identifier and a name, both without blanks around them. -/
def FunctionCall.Labelled (call : FunctionCall) : Prop :=
  (trimSpace call.id ≠ "" ∧ trimSpace call.id = call.id) ∧
    trimSpace call.name ≠ "" ∧ trimSpace call.name = call.name

instance (call : FunctionCall) : Decidable call.Labelled := inferInstanceAs (Decidable (_ ∧ _))

lemma functionCall?_eq_some_iff (id : String) (index : ℕ) (call : FunctionCall) :
    functionCall? (chatToolCallToResponsesOutput id index call) = some call ↔ call.Labelled := by
  obtain ⟨callId, name, arguments⟩ := call
  -- a call without identifier gets one that is not blank
  have hid : trimSpace (if trimSpace callId = "" then id ++ "_call_" ++ toString index
      else trimSpace callId) = callId ↔ trimSpace callId ≠ "" ∧ trimSpace callId = callId := by
    split_ifs with h
    · refine iff_of_false ?_ (by simp [h])
      rintro rfl
      rw [trimSpace_trimSpace, trimSpace_eq_empty_iff] at h
      exact absurd (h '_' (by simp)) (by decide)
    · simp [h]
  by_cases hname : trimSpace name = ""
  · simp [functionCall?, chatToolCallToResponsesOutput, FunctionCall.Labelled, hname]
  · simp only [functionCall?, chatToolCallToResponsesOutput, isResponsesToolOutputType,
      FunctionCall.Labelled, ← hid]
    simp [and_left_comm]

lemma filterMap_mapIdx_eq_self_iff {α β : Type*} {f : ℕ → α → β} {g : β → Option α} {l : List α}
    {P : α → Prop} (h : ∀ i a, g (f i a) = some a ↔ P a) :
    (l.mapIdx f).filterMap g = l ↔ ∀ a ∈ l, P a := by
  induction l generalizing f with
  | nil => simp
  | cons a l ih =>
    rw [mapIdx_cons, forall_mem_cons, ← ih fun i => h (i + 1), ← h 0 a]
    cases hg : g (f 0 a) with
    | none =>
      rw [filterMap_cons_none hg]
      refine iff_of_false (fun heq => ?_) (by simp)
      have hle := length_filterMap_le g (l.mapIdx fun i => f (i + 1))
      rw [heq, length_mapIdx, length_cons] at hle
      omega
    | some b => simp [filterMap_cons_some hg]

/-- Text comes with reasoning, every call has an identifier and a name, and the answer has calls
if it ends for them and none if it ends by itself. -/
structure ChatChoice.Kept (choice : ChatChoice) : Prop where
  content : choice.content = "" → choice.reasoningContent = ""
  named : ∀ call ∈ choice.toolCalls, call.Labelled
  stop : choice.finishReason = "stop" → choice.toolCalls = []
  toolCalls : choice.finishReason = "tool_calls" → choice.toolCalls ≠ []

section

variable {resp : OpenAITextResponse} (hresp : resp.choices = [choice])
  (hreason : choice.finishReason ∈ ["stop", "length", "tool_calls", "content_filter"])

include hresp hreason

lemma chatFinishReason_eq_iff (calls : List FunctionCall) :
    chatFinishReason (chatCompletionsResponseToResponsesResponse resp id) calls =
        choice.finishReason ↔
      (choice.finishReason = "stop" → calls = []) ∧
        (choice.finishReason = "tool_calls" → calls ≠ []) := by
  have htrim : ∀ reason ∈ ["stop", "length", "tool_calls", "content_filter", "incomplete",
      "completed", "max_output_tokens"], trimSpace reason = reason := by decide
  simp only [mem_cons, not_mem_nil, or_false] at hreason
  by_cases hcalls : calls = [] <;> rcases hreason with h | h | h | h <;>
    simp [chatFinishReason, chatCompletionsResponseToResponsesResponse, hresp,
      responsesStatusFromChatFinishReason, responsesFinishReasonFromStatus, h, htrim]

/-- A Chat answer with one choice is the same after the way to a Responses answer and back just in
case its choice is one that is kept. -/
theorem choices_roundTrip_iff (id id' : String) :
    (resp.roundTrip id id').choices = resp.choices ↔ choice.Kept := by
  have houtput :
      (chatCompletionsResponseToResponsesResponse resp id).output = choice.output id := by
    rw [chatCompletionsResponseToResponsesResponse, hresp]
  have hcalls : (choice.output id).filterMap functionCall? = choice.toolCalls ↔
      ∀ call ∈ choice.toolCalls, call.Labelled := by
    rw [← filterMap_mapIdx_eq_self_iff (functionCall?_eq_some_iff id), ChatChoice.output]
    by_cases hc : choice.content = "" <;> by_cases hr : choice.reasoningContent = "" <;>
      simp [hc, hr, functionCall?, isResponsesToolOutputType]
  rw [hresp, OpenAITextResponse.roundTrip, responsesResponseToChatCompletionsResponse,
    List.cons.injEq, ChatChoice.ext_iff]
  simp only [houtput, extractOutputText_output, extractReasoningText_output, and_true, true_and]
  constructor
  · rintro ⟨hcontent, hkept, hfinish⟩
    rw [hkept, chatFinishReason_eq_iff hresp hreason] at hfinish
    exact ⟨fun hc => by simpa [hc] using hcontent, hcalls.mp hkept, hfinish.1, hfinish.2⟩
  · intro h
    have hkept := hcalls.mpr h.named
    refine ⟨?_, hkept, ?_⟩
    · split_ifs with hc
      · rw [h.content hc, hc]
      · rfl
    · rw [hkept, chatFinishReason_eq_iff hresp hreason]
      exact ⟨h.stop, h.toolCalls⟩

end

def answerOf (choice : ChatChoice) : OpenAITextResponse where
  id := "c"
  model := "m"
  created := 100
  choices := [choice]
  usage := {}

/-- An answer that calls a tool. -/
def lookupChoice : ChatChoice where
  content := "hi"
  reasoningContent := "because"
  toolCalls := [⟨"call_1", "lookup", "\x7b\x7d"⟩]
  finishReason := "tool_calls"

theorem choices_roundTrip_lookupChoice :
    ((answerOf lookupChoice).roundTrip "r" "c").choices = [lookupChoice] :=
  (choices_roundTrip_iff rfl (by decide) _ _).mpr ⟨nofun, by decide, nofun, by decide⟩

/-- Reasoning without text comes back as text too. -/
theorem choices_roundTrip_reasoning :
    ((answerOf { reasoningContent := "because" }).roundTrip "r" "c").choices =
      [{ content := "because", reasoningContent := "because" }] := by
  decide

end XinghaiApi
