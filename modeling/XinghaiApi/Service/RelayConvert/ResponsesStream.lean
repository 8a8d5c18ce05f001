import Mathlib.Data.List.AList
import Mathlib.Data.List.Sort
import XinghaiApi.Lib.Text
import XinghaiApi.Service.RelayConvert.Usage

/-!
# From a Responses stream to a Chat stream

The converter turns the events of a Responses stream into Chat chunks. The data of a tool call can
come three times: in pieces, with the event that closes its item, and with the event that closes the
answer. The converter keeps the tools by a key, and for each of them how much was sent.

Offsets into arguments count characters here. The source counts bytes, which is the same wherever
arguments extend what was sent of them.
-/

namespace XinghaiApi

open Dto Text

/-! ### Events -/

inductive ResponsesEventType where
  | created
  | completed
  | done
  | incomplete
  | failed
  | error
  | outputTextDelta
  | outputItemAdded
  | outputItemDone
  | functionArgsDelta
  | functionArgsDone
  | customToolInputDelta
  | customToolInputDone
  | reasoningSummaryDelta
  | reasoningSummaryDone
  | reasoningTextDelta
  | reasoningTextDone
  | other (name : String)
deriving DecidableEq

inductive ResponsesOutputType where
  | functionCall
  | customToolCall
  | message
  | reasoning
  | other (name : String)
deriving DecidableEq

def isResponsesToolOutputType : ResponsesOutputType → Bool
  | .functionCall | .customToolCall => true
  | _ => false

structure ResponsesOutputContent where
  type : String
  text : String
deriving DecidableEq

/-- An output item; its arguments are those that `ArgumentsString` reads from it. -/
structure ResponsesOutput where
  type : ResponsesOutputType
  id : String := ""
  role : String := ""
  callId : String := ""
  name : String := ""
  arguments : String := ""
  content : List ResponsesOutputContent := []
deriving DecidableEq

structure OpenAIResponsesResponse where
  id : String := ""
  model : String := ""
  createdAt : Int := 0
  status : String := ""
  incompleteReason : Option String := none
  usage : Option Usage := none
  output : List ResponsesOutput := []
deriving DecidableEq

structure ResponsesStreamResponse where
  type : ResponsesEventType
  response : Option OpenAIResponsesResponse := none
  delta : String := ""
  item : Option ResponsesOutput := none
  outputIndex : Option Int := none
  itemID : String := ""
deriving DecidableEq

/-! ### Chunks -/

structure ToolCallResponse where
  index : ℕ
  id : String
  name : String := ""
  arguments : String := ""
deriving DecidableEq

structure ChoiceDelta where
  role : String := ""
  content : Option String := none
  reasoningContent : Option String := none
  toolCalls : List ToolCallResponse := []
deriving DecidableEq

structure ChatChunk where
  id : String
  created : Int
  model : String
  /-- the only choice, and its finish reason -/
  choice : Option (ChoiceDelta × Option String)
  usage : Option Usage := none
deriving DecidableEq

/-! ### State -/

/-- The key of a tool: where it stands in the output, its item, or its call. -/
inductive ToolKey where
  | output (index : Int)
  | item (id : String)
  | call (id : String)
deriving DecidableEq

def ToolKey.text : ToolKey → String
  | .output index => s!"output:{index}"
  | .item id      => "item:" ++ id
  | .call id      => "call:" ++ id

structure ResponsesStreamTool where
  key : ToolKey
  index : ℕ
  callID : String := ""
  itemID : String := ""
  name : String := ""
  arguments : String := ""
  sent : Bool := false
  nameSent : Bool := false
  argsSentAt : ℕ := 0
deriving DecidableEq

structure ResponsesToChatStreamState where
  id : String := ""
  model : String := ""
  created : Int := 0
  includeUsage : Bool := false
  usage : Usage := {}
  sentStart : Bool := false
  finalized : Bool := false
  hasSentText : Bool := false
  sawToolCall : Bool := false
  hasSentReasoning : Bool := false
  needsReasoningSummaryBreak : Bool := false
  nextToolIndex : ℕ := 0
  /-- the tools, in the order in which they were first seen -/
  toolByKey : List ResponsesStreamTool := []
  outputIndexToKey : Int → Option ToolKey := fun _ => none
  itemIDToKey : String → Option ToolKey := fun _ => none
  pendingArgsByOutputIndex : AList fun _ : Int => String := ∅
  pendingArgsByItemID : AList fun _ : String => String := ∅
  usageText : String := ""

/-- The state before the first event. -/
def newResponsesToChatStreamState (id model : String) (created : Int) (includeUsage : Bool) :
    ResponsesToChatStreamState where
  id := id
  model := model
  created := created
  includeUsage := includeUsage

namespace ResponsesToChatStreamState

def findTool (s : ResponsesToChatStreamState) (key : ToolKey) : Option ResponsesStreamTool :=
  s.toolByKey.find? (·.key = key)

/-- Write a tool back under its key. -/
def putTool (s : ResponsesToChatStreamState) (tool : ResponsesStreamTool) :
    ResponsesToChatStreamState :=
  { s with toolByKey := s.toolByKey.map fun t => if t.key = tool.key then tool else t }

def newTool (s : ResponsesToChatStreamState) (key : ToolKey) (callID : String) :
    ResponsesToChatStreamState × ResponsesStreamTool :=
  let tool : ResponsesStreamTool := { key := key, index := s.nextToolIndex, callID := callID }
  ({ s with nextToolIndex := s.nextToolIndex + 1, toolByKey := s.toolByKey ++ [tool] }, tool)

def makeChunk (s : ResponsesToChatStreamState) (delta : ChoiceDelta)
    (finishReason : Option String) : ChatChunk where
  id := s.id
  created := s.created
  model := s.model
  choice := some (delta, finishReason)

def applyResponseMetadata (s : ResponsesToChatStreamState)
    (response : Option OpenAIResponsesResponse) : ResponsesToChatStreamState :=
  match response with
  | none   => s
  | some r =>
    { s with
      id := if r.id ≠ "" ∧ s.id = "" then r.id else s.id
      model := if r.model ≠ "" then r.model else s.model
      created := if r.createdAt ≠ 0 then r.createdAt else s.created
      usage := if r.usage.isSome then usageFromResponsesUsage r.usage else s.usage }

def ensureStart (s : ResponsesToChatStreamState) : ResponsesToChatStreamState × List ChatChunk :=
  if s.sentStart then (s, [])
  else
    ({ s with sentStart := true }, [s.makeChunk { role := "assistant", content := some "" } none])

/-! ### Text -/

def textDelta (s : ResponsesToChatStreamState) (delta : String) :
    ResponsesToChatStreamState × List ChatChunk :=
  if delta = "" then (s, [])
  else
    let r := { s with usageText := s.usageText ++ delta, hasSentText := true }.ensureStart
    (r.1, r.2 ++ [r.1.makeChunk { content := some delta } none])

/-- A new part of the reasoning is set off by an empty line. -/
def reasoningBreak (delta : String) : String :=
  if hasPrefix delta "\n\n" then delta
  else if hasPrefix delta "\n" then "\n" ++ delta
  else "\n\n" ++ delta

def reasoningDelta (s : ResponsesToChatStreamState) (delta : String) :
    ResponsesToChatStreamState × List ChatChunk :=
  if delta = "" then (s, [])
  else
    let delta := if s.needsReasoningSummaryBreak then reasoningBreak delta else delta
    let r := { s with
      needsReasoningSummaryBreak := false
      usageText := s.usageText ++ delta }.ensureStart
    ({ r.1 with hasSentReasoning := true },
      r.2 ++ [r.1.makeChunk { reasoningContent := some delta } none])

/-! ### Tools -/

/-- `keyForEvent`. -/
def keyForEvent (event : ResponsesStreamResponse) : Option ToolKey :=
  match event.outputIndex with
  | some index => some (.output index)
  | none       =>
    let itemKey := event.item.bind fun item =>
      if trimSpace item.id ≠ "" then some (ToolKey.item (trimSpace item.id))
      else if trimSpace item.callId ≠ "" then some (.call (trimSpace item.callId))
      else none
    itemKey <|>
      if trimSpace event.itemID ≠ "" then some (.item (trimSpace event.itemID)) else none

/-- `responseStreamEventItemID`. -/
def eventItemID (event : ResponsesStreamResponse) : String :=
  match event.item with
  | some item =>
    if trimSpace item.id ≠ "" then trimSpace item.id else trimSpace event.itemID
  | none      => trimSpace event.itemID

/-- The tool takes the arguments that came for its place in the output before it did. -/
def drainOutputIndex (s : ResponsesToChatStreamState) (tool : ResponsesStreamTool)
    (outputIndex : Option Int) : ResponsesToChatStreamState × ResponsesStreamTool :=
  match outputIndex with
  | none       => (s, tool)
  | some index =>
    let s := { s with outputIndexToKey := Function.update s.outputIndexToKey index (some tool.key) }
    let pending := (s.pendingArgsByOutputIndex.lookup index).getD ""
    if pending = "" then (s, tool)
    else
      ({ s with pendingArgsByOutputIndex := s.pendingArgsByOutputIndex.erase index },
        { tool with arguments := tool.arguments ++ pending })

/-- The tool takes the arguments that came for its item before it did. -/
def drainItemID (s : ResponsesToChatStreamState) (tool : ResponsesStreamTool) (itemID : String) :
    ResponsesToChatStreamState × ResponsesStreamTool :=
  if itemID = "" then (s, tool)
  else
    let s := { s with itemIDToKey := Function.update s.itemIDToKey itemID (some tool.key) }
    let tool := { tool with itemID := itemID }
    let pending := (s.pendingArgsByItemID.lookup itemID).getD ""
    if pending = "" then (s, tool)
    else
      ({ s with pendingArgsByItemID := s.pendingArgsByItemID.erase itemID },
        { tool with arguments := tool.arguments ++ pending })

def describeTool (tool : ResponsesStreamTool) (item : ResponsesOutput) : ResponsesStreamTool :=
  { tool with
    callID :=
      if trimSpace item.callId ≠ "" then trimSpace item.callId
      else if tool.callID = "" then trimSpace item.id
      else tool.callID
    name := if trimSpace item.name ≠ "" then trimSpace item.name else tool.name }

/-- `ensureToolForEvent`, for an event with this item. -/
def ensureToolForEvent (s : ResponsesToChatStreamState) (event : ResponsesStreamResponse)
    (item : ResponsesOutput) : Option (ResponsesToChatStreamState × ResponsesStreamTool) :=
  (keyForEvent event).map fun key =>
    let r₀ :=
      match s.findTool key with
      | some tool => (s, tool)
      | none      => s.newTool key ""
    let r₁ := r₀.1.drainOutputIndex r₀.2 event.outputIndex
    let r₂ := r₁.1.drainItemID r₁.2 (eventItemID event)
    (r₂.1, describeTool r₂.2 item)

def findToolForEvent (s : ResponsesToChatStreamState) (event : ResponsesStreamResponse) :
    Option ResponsesStreamTool :=
  match event.outputIndex.bind s.outputIndexToKey with
  | some key => s.findTool key
  | none     =>
    let itemID := trimSpace event.itemID
    match if itemID = "" then none else s.itemIDToKey itemID with
    | some key => s.findTool key
    | none     => event.item.bind fun _ => (keyForEvent event).bind s.findTool

def fallbackCallID (event : ResponsesStreamResponse) : String :=
  if trimSpace event.itemID ≠ "" then trimSpace event.itemID
  else
    match event.outputIndex with
    | some index => s!"call_output_{index}"
    | none       => ""

def ensureFallbackToolForEvent (s : ResponsesToChatStreamState) (event : ResponsesStreamResponse) :
    Option (ResponsesToChatStreamState × ResponsesStreamTool) :=
  let key :=
    match event.outputIndex with
    | some index => some (ToolKey.output index)
    | none       =>
      if trimSpace event.itemID ≠ "" then some (.item (trimSpace event.itemID)) else none
  key.map fun key =>
    let r₀ :=
      match s.findTool key with
      | some tool => (s, tool)
      | none      => s.newTool key (fallbackCallID event)
    let r₁ := r₀.1.drainOutputIndex r₀.2 event.outputIndex
    r₁.1.drainItemID r₁.2 (eventItemID event)

def unsentArguments (tool : ResponsesStreamTool) : String :=
  String.ofList (tool.arguments.toList.drop tool.argsSentAt)

/-- The tool after a piece of its arguments was sent, and its name with it. -/
def markSent (tool : ResponsesStreamTool) (argsDelta : String) : ResponsesStreamTool :=
  { tool with
    nameSent := tool.nameSent || decide (tool.name ≠ "")
    sent := true
    argsSentAt := tool.argsSentAt + argsDelta.length }

def sendTool (s : ResponsesToChatStreamState) (tool : ResponsesStreamTool) (argsDelta : String) :
    ResponsesToChatStreamState × List ChatChunk :=
  let r := s.ensureStart
  let callID :=
    if trimSpace tool.callID = "" then tool.key.text else trimSpace tool.callID
  let name := if tool.nameSent then "" else tool.name
  ({ r.1.putTool (markSent tool argsDelta) with
      usageText := r.1.usageText ++ argsDelta ++ name
      sawToolCall := true },
    r.2 ++ [r.1.makeChunk { toolCalls := [⟨tool.index, callID, name, argsDelta⟩] } none])

/-- Send what is new about a tool, if anything is. -/
def toolDelta (s : ResponsesToChatStreamState) (tool : ResponsesStreamTool)
    (explicitDelta : String) : ResponsesToChatStreamState × List ChatChunk :=
  let argsDelta := if explicitDelta = "" then unsentArguments tool else explicitDelta
  if tool.sent ∧ argsDelta = "" ∧ (tool.name = "" ∨ tool.nameSent) then (s.putTool tool, [])
  else s.sendTool tool argsDelta

/-- The arguments of an item stand for those that came before. -/
def takeArguments (tool : ResponsesStreamTool) (item : ResponsesOutput) : ResponsesStreamTool :=
  if item.arguments ≠ "" then { tool with arguments := item.arguments } else tool

section

variable (s : ResponsesToChatStreamState) (event : ResponsesStreamResponse)

def toolItem (item : ResponsesOutput) : ResponsesToChatStreamState × List ChatChunk :=
  match s.ensureToolForEvent event item with
  | none           => (s, [])
  | some (s, tool) => s.toolDelta (takeArguments tool item) ""

def toolArgumentsDelta : ResponsesToChatStreamState × List ChatChunk :=
  if event.delta = "" then (s, [])
  else
    match s.findToolForEvent event with
    | some tool =>
      s.toolDelta { tool with arguments := tool.arguments ++ event.delta } event.delta
    | none      =>
      match event.outputIndex with
      | some index =>
        let pending := (s.pendingArgsByOutputIndex.lookup index).getD ""
        ({ s with
            pendingArgsByOutputIndex :=
              s.pendingArgsByOutputIndex.insert index (pending ++ event.delta) }, [])
      | none       =>
        let itemID := trimSpace event.itemID
        if itemID = "" then (s, [])
        else
          let pending := (s.pendingArgsByItemID.lookup itemID).getD ""
          ({ s with
              pendingArgsByItemID :=
                s.pendingArgsByItemID.insert itemID (pending ++ event.delta) }, [])

def flushPendingTool : ResponsesToChatStreamState × List ChatChunk :=
  match s.findToolForEvent event with
  | some tool => s.toolDelta tool ""
  | none      =>
    match s.ensureFallbackToolForEvent event with
    | some (s, tool) => s.toolDelta tool ""
    | none           => (s, [])

end

/-! ### The end of the stream -/

def messageText (item : ResponsesOutput) : String :=
  String.join ((item.content.filter (·.type = "output_text")).map (·.text))

def terminalItem (s : ResponsesToChatStreamState) (item : ResponsesOutput) :
    ResponsesToChatStreamState × List ChatChunk :=
  if item.type = .message ∧ s.hasSentText = false then s.textDelta (messageText item)
  else if item.type = .reasoning ∧ s.hasSentReasoning = false then
    s.reasoningDelta (String.join (item.content.map (·.text)))
  else if isResponsesToolOutputType item.type then
    s.toolItem { type := .other "", item := some item } item
  else (s, [])

def terminalOutputChunks (s : ResponsesToChatStreamState) :
    List ResponsesOutput → ResponsesToChatStreamState × List ChatChunk
  | []              => (s, [])
  | item :: output  =>
    let r := s.terminalItem item
    let r' := r.1.terminalOutputChunks output
    (r'.1, r.2 ++ r'.2)

/-- One key of `flushAllPendingTools`: the arguments that still wait for it are sent. -/
def flushKey (s : ResponsesToChatStreamState) (key : ToolKey) :
    ResponsesToChatStreamState × List ChatChunk :=
  let r :=
    match s.findTool key, key with
    | some tool, _             => (s, tool)
    | none, .output index      => s.newTool key s!"call_output_{index}"
    | none, .item id           => s.newTool key id
    | none, .call id           => s.newTool key ("call:" ++ id)
  match key with
  | .output index =>
    let pending := (r.1.pendingArgsByOutputIndex.lookup index).getD ""
    { r.1 with pendingArgsByOutputIndex := r.1.pendingArgsByOutputIndex.erase index }.toolDelta
      { r.2 with arguments := r.2.arguments ++ pending } ""
  | .item id      =>
    let pending := (r.1.pendingArgsByItemID.lookup id).getD ""
    { r.1 with pendingArgsByItemID := r.1.pendingArgsByItemID.erase id }.toolDelta
      { r.2 with arguments := r.2.arguments ++ pending } ""
  | .call _       => r.1.toolDelta r.2 ""

def flushKeys (s : ResponsesToChatStreamState) :
    List ToolKey → ResponsesToChatStreamState × List ChatChunk
  | []           => (s, [])
  | key :: keys  =>
    let r := s.flushKey key
    let r' := r.1.flushKeys keys
    (r'.1, r.2 ++ r'.2)

/-- The keys of all tools and of all arguments that wait for one, sorted. -/
def pendingKeys (s : ResponsesToChatStreamState) : List ToolKey :=
  let keys := s.toolByKey.map ResponsesStreamTool.key ++
    s.pendingArgsByOutputIndex.keys.map ToolKey.output ++
    s.pendingArgsByItemID.keys.map ToolKey.item
  keys.dedup.insertionSort fun a b => a.text ≤ b.text

def flushAllPendingTools (s : ResponsesToChatStreamState) :
    ResponsesToChatStreamState × List ChatChunk :=
  s.flushKeys s.pendingKeys

def responsesFinishReasonFromStatus (response : Option OpenAIResponsesResponse) : Option String :=
  response.bind fun r =>
    if trimSpace r.status ≠ "incomplete" then none
    else if trimSpace (r.incompleteReason.getD "") = "content_filter" then
      some "content_filter"
    else some "length"

/-- The chunk with the usage, if the client asked for it. -/
def usageChunks (s : ResponsesToChatStreamState) : List ChatChunk :=
  if s.includeUsage then [{ s.makeChunk {} none with choice := none, usage := some s.usage }]
  else []

def finalize (s : ResponsesToChatStreamState) (response : Option OpenAIResponsesResponse) :
    ResponsesToChatStreamState × List ChatChunk :=
  if s.finalized then (s, [])
  else
    let flushed := { s with finalized := true }.flushAllPendingTools
    let started := flushed.1.ensureStart
    let finishReason := (responsesFinishReasonFromStatus response).getD
      (if started.1.sawToolCall then "tool_calls" else "stop")
    (started.1,
      flushed.2 ++ started.2 ++ [started.1.makeChunk {} (some finishReason)] ++
        started.1.usageChunks)

/-- An answer that ends with `response.incomplete` says so. -/
def ensureIncompleteResponse (response : Option OpenAIResponsesResponse) :
    OpenAIResponsesResponse :=
  let r := response.getD {}
  if r.status = "" then { r with status := "incomplete" } else r

def closeStream (s : ResponsesToChatStreamState) (response : Option OpenAIResponsesResponse) :
    ResponsesToChatStreamState × List ChatChunk :=
  let s := s.applyResponseMetadata response
  let r := s.terminalOutputChunks ((response.map (·.output)).getD [])
  let r' := r.1.finalize response
  (r'.1, r.2 ++ r'.2)

end ResponsesToChatStreamState

open ResponsesToChatStreamState

def responsesStreamEventToChatChunks (event : ResponsesStreamResponse)
    (s : ResponsesToChatStreamState) :
    Except String (ResponsesToChatStreamState × List ChatChunk) :=
  match event.type with
  | .created => .ok (s.applyResponseMetadata event.response).ensureStart
  | .reasoningSummaryDelta | .reasoningTextDelta => .ok (s.reasoningDelta event.delta)
  | .reasoningSummaryDone | .reasoningTextDone =>
    .ok (if s.hasSentReasoning then { s with needsReasoningSummaryBreak := true } else s, [])
  | .outputTextDelta => .ok (s.textDelta event.delta)
  | .outputItemAdded | .outputItemDone =>
    match event.item with
    | some item =>
      if isResponsesToolOutputType item.type then .ok (s.toolItem event item) else .ok (s, [])
    | none      => .ok (s, [])
  | .functionArgsDelta | .customToolInputDelta => .ok (s.toolArgumentsDelta event)
  | .functionArgsDone | .customToolInputDone => .ok (s.flushPendingTool event)
  | .completed | .done => .ok (s.closeStream event.response)
  | .incomplete => .ok (s.closeStream (some (ensureIncompleteResponse event.response)))
  | .failed => .error "responses stream error: response.failed"
  | .error => .error "responses stream error: response.error"
  | .other _ => .ok (s, [])

/-- The chunks for all events of a stream. -/
def convertResponsesStream (s : ResponsesToChatStreamState) :
    List ResponsesStreamResponse → Except String (ResponsesToChatStreamState × List ChatChunk)
  | []               => .ok (s, [])
  | event :: events  =>
    (responsesStreamEventToChatChunks event s).bind fun r =>
      (convertResponsesStream r.1 events).map fun r' => (r'.1, r.2 ++ r'.2)

end XinghaiApi
