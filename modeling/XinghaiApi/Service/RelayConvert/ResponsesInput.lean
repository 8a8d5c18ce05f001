import Mathlib.Data.List.ModifyLast
import XinghaiApi.Lib.Except
import XinghaiApi.Lib.Json
import XinghaiApi.Lib.Text

/-!
# The input of a Responses request as Chat messages

The items become messages one after the other. A call joins the message in front of it if that is
one of the assistant. The output of a custom call is not told from a message, and loses its id and
its text.
-/

namespace XinghaiApi

open Text

/-- How values are written as text, and what becomes of contents in parts. -/
structure ValueText where
  marshal : Json → String
  format : Json → String
  responsesContentPartsToChatContent : List Json → Json

abbrev InputItem := List (String × Json)

inductive InputItemType where
  | message
  | functionCall
  | functionCallOutput
  | customToolCall
  | customToolOutput
deriving DecidableEq

inductive ToolCallType where
  | function
  | custom
deriving DecidableEq

structure ToolCallRequest where
  id : String
  type : ToolCallType
  custom : String := ""
  name : String
  arguments : String

/-- A message; one that is made for calls only has no content. -/
structure ChatMessage where
  role : String
  content : Option Json := none
  toolCallId : String := ""
  toolCalls : List ToolCallRequest := []

/-! ### Items -/

section

variable (w : ValueText)

def interface2String : Json → String
  | .str s  => s
  | .bool b => if b then "true" else "false"
  | .null   => ""
  | value   => w.format value

namespace InputItem

def field (item : InputItem) (key : String) : Json := (item.lookup key).getD .null

def trimmed (item : InputItem) (key : String) : String :=
  trimSpace (interface2String w (item.field key))

def type (item : InputItem) : InputItemType :=
  if item.trimmed w "type" = "function_call" then .functionCall
  else if item.trimmed w "type" = "custom_tool_call" then .customToolCall
  else if item.trimmed w "type" = "function_call_output" then .functionCallOutput
  else if item.trimmed w "type" = "custom_tool_call_output" then .customToolOutput
  else .message

def role (item : InputItem) : String :=
  if item.trimmed w "role" = "" then "user" else item.trimmed w "role"

end InputItem

def responsesCallID (item : InputItem) : String :=
  if item.trimmed w "call_id" = "" then item.trimmed w "id" else item.trimmed w "call_id"

def responsesArgumentsString : Json → String
  | .null  => ""
  | .str s => s
  | value  => w.marshal value

def responseToolOutputToChatContent (value : Json) : Json :=
  .str (responsesArgumentsString w value)

def responsesInputContentToChatContent : Json → Json
  | .null      => .str ""
  | .arr parts => w.responsesContentPartsToChatContent parts
  | content    => content

namespace InputItem

def content (item : InputItem) : Json :=
  responsesInputContentToChatContent w (item.field "content")

def output (item : InputItem) : Json := responseToolOutputToChatContent w (item.field "output")

end InputItem

/-! ### Messages -/

def functionToolCall (item : InputItem) : ToolCallRequest :=
  { id := responsesCallID w item, type := .function, name := item.trimmed w "name",
    arguments := responsesArgumentsString w (item.field "arguments") }

def responsesFunctionCallItemToChatToolCall (item : InputItem) : Except String ToolCallRequest :=
  if item.trimmed w "name" = "" then .error "function_call item is missing name"
  else .ok (functionToolCall w item)

def responsesCustomToolCallItemToChatToolCall (item : InputItem) : ToolCallRequest :=
  { id := responsesCallID w item, type := .custom, custom := w.marshal (.obj item),
    name := item.trimmed w "name",
    arguments := responsesArgumentsString w (item.field "input") }

def appendToolCallToLastAssistant (messages : List ChatMessage) (toolCall : ToolCallRequest) :
    List ChatMessage :=
  let messages := if messages.getLast?.any (·.role = "assistant") then messages
    else messages ++ [{ role := "assistant" }]
  messages.modifyLast fun m => { m with toolCalls := m.toolCalls ++ [toolCall] }

def responsesInputItemToChatMessages (messages : List ChatMessage) (item : InputItem) :
    Except String (List ChatMessage) :=
  match item.type w with
  | .functionCall => do
    let toolCall ← responsesFunctionCallItemToChatToolCall w item
    return appendToolCallToLastAssistant messages toolCall
  | .customToolCall =>
    .ok <| appendToolCallToLastAssistant messages (responsesCustomToolCallItemToChatToolCall w item)
  | .functionCallOutput =>
    .ok <| messages ++
      [{ role := "tool", toolCallId := item.trimmed w "call_id", content := item.output w }]
  -- the switch has no case for the output of a custom call
  | .customToolOutput | .message =>
    .ok <| messages ++ [{ role := item.role w, content := item.content w }]

inductive ResponsesInput where
  | absent
  | string (input : String)
  | array (items : List InputItem)
  | other (kind : String)

def instructionMessages (instructions : String) : List ChatMessage :=
  if trimSpace instructions = "" then []
  else [{ role := "system", content := some (.str instructions) }]

def responsesRequestMessagesToChat (instructions : String) :
    ResponsesInput → Except String (List ChatMessage)
  | .absent       => .ok (instructionMessages instructions)
  | .string input =>
    .ok (instructionMessages instructions ++ [{ role := "user", content := some (.str input) }])
  | .array items  =>
    items.foldlM (responsesInputItemToChatMessages w) (instructionMessages instructions)
  | .other kind   => .error s!"unsupported responses input type \"{kind}\""

/-! ### What the messages hold -/

/-- A message or a call, as they follow each other in a conversation. -/
inductive ChatEntry where
  | message (role toolCallId : String) (content : Json)
  | call (toolCall : ToolCallRequest)

def ChatMessage.entries (m : ChatMessage) : List ChatEntry :=
  m.content.toList.map (.message m.role m.toolCallId) ++ m.toolCalls.map .call

/-- The messages hold the entries, and the calls among them are of the assistant. -/
def Holds (messages : List ChatMessage) (entries : List ChatEntry) : Prop :=
  messages.flatMap (·.entries) = entries ∧ ∀ m ∈ messages, m.toolCalls ≠ [] → m.role = "assistant"

namespace InputItem

/-- What an item stands for. -/
def entry (item : InputItem) : ChatEntry :=
  match item.type w with
  | .functionCall   => .call (functionToolCall w item)
  | .customToolCall => .call (responsesCustomToolCallItemToChatToolCall w item)
  | .functionCallOutput | .customToolOutput =>
    .message "tool" (item.trimmed w "call_id") (item.output w)
  | .message => .message (item.role w) "" (item.content w)

/-- What is made of an item. -/
def made (item : InputItem) : ChatEntry :=
  if item.type w = .customToolOutput then .message (item.role w) "" (item.content w)
  else item.entry w

/-- A call has a name. -/
def Named (item : InputItem) : Prop :=
  item.type w = .functionCall → item.trimmed w "name" ≠ ""

/-- The output of a custom call happens to be a tool message without an id, whose content is the
output. -/
def Kept (item : InputItem) : Prop :=
  item.type w = .customToolOutput →
    item.role w = "tool" ∧ item.trimmed w "call_id" = "" ∧ item.content w = item.output w

end InputItem

open InputItem

def addEntry (messages : List ChatMessage) : ChatEntry → List ChatMessage
  | .message role toolCallId content =>
    messages ++ [{ role := role, toolCallId := toolCallId, content := some content }]
  | .call toolCall => appendToolCallToLastAssistant messages toolCall

variable {w} {messages next : List ChatMessage} {entries : List ChatEntry}

lemma inputItemToChatMessages_eq_ok_iff {item : InputItem} :
    responsesInputItemToChatMessages w messages item = .ok next ↔
      item.Named w ∧ addEntry messages (item.made w) = next := by
  unfold responsesInputItemToChatMessages InputItem.Named made entry
  cases htype : item.type w with
  | functionCall =>
    by_cases hname : item.trimmed w "name" = "" <;>
      simp [responsesFunctionCallItemToChatToolCall, hname, addEntry, bind, Except.bind, pure,
        Except.pure]
  | message | functionCallOutput | customToolCall | customToolOutput => simp [addEntry]

lemma foldlM_items_eq_ok_iff {items : List InputItem} :
    items.foldlM (responsesInputItemToChatMessages w) messages = .ok next ↔
      (∀ item ∈ items, item.Named w) ∧ (items.map (·.made w)).foldl addEntry messages = next := by
  induction items generalizing messages with
  | nil => simp [pure, Except.pure]
  | cons item items ih =>
    simp only [List.foldlM_cons, Except.bind_eq_ok, inputItemToChatMessages_eq_ok_iff, ih]
    simp [and_assoc]

namespace Holds

/-- A call joins a last message of the assistant, which is added for it if there is none. -/
lemma appendToolCall (h : Holds messages entries) (toolCall : ToolCallRequest) :
    Holds (appendToolCallToLastAssistant messages toolCall) (entries ++ [.call toolCall]) := by
  have hlast : ∀ {ms : List ChatMessage} {m : ChatMessage}, Holds (ms ++ [m]) entries →
      m.role = "assistant" → Holds (ms ++ [{ m with toolCalls := m.toolCalls ++ [toolCall] }])
        (entries ++ [.call toolCall]) := by
    rintro ms m ⟨rfl, hcalls⟩ hrole
    refine ⟨by simp [ChatMessage.entries], ?_⟩
    rw [List.forall_mem_append] at hcalls ⊢
    exact ⟨hcalls.1, by simp [hrole]⟩
  unfold appendToolCallToLastAssistant
  split_ifs with hassistant
  · obtain ⟨m, hm, hrole⟩ := (Option.any_eq_true _ _).mp hassistant
    obtain ⟨ms, rfl⟩ := List.getLast?_eq_some_iff.mp hm
    rw [List.modifyLast_concat]
    exact hlast h (of_decide_eq_true hrole)
  · rw [List.modifyLast_concat]
    simpa [Holds, ChatMessage.entries, or_imp, forall_and] using h

lemma foldl_addEntry (h : Holds messages entries) (es : List ChatEntry) :
    Holds (es.foldl addEntry messages) (entries ++ es) := by
  induction es generalizing messages entries with
  | nil => simpa using h
  | cons e es ih =>
    have hnext : Holds (addEntry messages e) (entries ++ [e]) := by
      cases e with
      | message role toolCallId content =>
        obtain ⟨rfl, hcalls⟩ := h
        simpa [Holds, addEntry, ChatMessage.entries, or_imp, forall_and] using hcalls
      | call toolCall => exact h.appendToolCall toolCall
    rw [List.append_cons]
    exact ih hnext

end Holds

/-- The messages are built and hold what the items stand for, in their order, exactly if the calls
have names and the outputs of custom calls are kept. -/
theorem exists_holds_entries_iff (w : ValueText) (instructions : String) (items : List InputItem) :
    (∃ messages, responsesRequestMessagesToChat w instructions (.array items) = .ok messages ∧
      Holds messages ((instructionMessages instructions).flatMap (·.entries) ++
        items.map (·.entry w))) ↔
      (∀ item ∈ items, item.Named w) ∧ ∀ item ∈ items, item.Kept w := by
  have hinit : Holds (instructionMessages instructions)
      ((instructionMessages instructions).flatMap (·.entries)) := by
    refine ⟨rfl, ?_⟩
    unfold instructionMessages
    split_ifs <;> simp
  have hmade : ∀ item : InputItem, item.made w = item.entry w ↔ item.Kept w := by
    intro item
    by_cases htype : item.type w = .customToolOutput
    · simp [made, entry, Kept, htype]
    · simp [made, Kept, htype]
  have hheld := hinit.foldl_addEntry (items.map (·.made w))
  simp only [responsesRequestMessagesToChat, foldlM_items_eq_ok_iff, ← hmade]
  constructor
  · rintro ⟨_, ⟨hnamed, rfl⟩, hholds⟩
    have heq := List.append_cancel_left (hheld.1.symm.trans hholds.1)
    exact ⟨hnamed, fun item hitem => List.map_inj_left.mp heq item hitem⟩
  · rintro ⟨hnamed, heq⟩
    refine ⟨_, ⟨hnamed, rfl⟩, ?_⟩
    rwa [← List.map_congr_left heq]

def plainText : ValueText := ⟨fun _ => "", fun _ => "", .arr⟩

/-- The result of a custom call reaches the model as an empty message of the user. -/
theorem customToolOutput_lost :
    let item : InputItem :=
      [("type", .str "custom_tool_call_output"), ("call_id", .str "c1"), ("output", .str "done")]
    responsesRequestMessagesToChat plainText "" (.array [item]) =
        .ok [{ role := "user", content := some (.str "") }] ∧
      item.entry plainText = .message "tool" "c1" (.str "done") := by
  exact ⟨rfl, rfl⟩

end

end XinghaiApi
