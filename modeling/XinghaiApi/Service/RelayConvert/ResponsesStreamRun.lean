import XinghaiApi.Service.RelayConvert.ResponsesStreamTools

/-!
# Converted streams, from the first event to the last

The events of a stream are generated by a relation that keeps, for each output item, what its deltas
have carried. As long as items are open and when they are closed, each tool call has one index and
its arguments are delivered once. The event that closes the answer names its items by their ids
alone, so every tool call it repeats is taken for a new one.
-/

namespace XinghaiApi

open Dto ResponsesToChatStreamState Text List

/-! ### Streams -/

structure StreamedItem where
  outputIndex : Int
  /-- the item as it is when it is done -/
  item : ResponsesOutput
  /-- what was carried of it so far -/
  sent : String := ""
  isDone : Bool := false

open StreamedItem

variable {items : List StreamedItem} {events : List ResponsesStreamResponse} {text : String}

def StreamedItem.isTool (i : StreamedItem) : Bool := isResponsesToolOutputType i.item.type

/-- What the deltas of the item add up to. -/
def StreamedItem.total (i : StreamedItem) : String :=
  if i.isTool then i.item.arguments else messageText i.item

/-- The event says where the item stands, or has its id. -/
def StreamedItem.IsNamedBy (i : StreamedItem) (event : ResponsesStreamResponse) : Prop :=
  event.outputIndex = some i.outputIndex ∨
    event.outputIndex = none ∧ trimSpace event.itemID = trimSpace i.item.id

/-- Events that carry neither text nor tools. -/
def ResponsesEventType.isAside : ResponsesEventType → Bool
  | .created | .reasoningSummaryDelta | .reasoningSummaryDone | .reasoningTextDelta
  | .reasoningTextDone | .other _ => true
  | _ => false

/-- The events of a stream before the answer is closed, with the items they opened and the text
deltas in the order in which they came. -/
inductive Streamed : List StreamedItem → String → List ResponsesStreamResponse → Prop
  | start : Streamed [] "" []
  | aside {items : List StreamedItem} {text : String} {events : List ResponsesStreamResponse}
      (h : Streamed items text events) (event : ResponsesStreamResponse)
      (htype : event.type.isAside = true) : Streamed items text (events ++ [event])
  | added {items : List StreamedItem} {text : String} {events : List ResponsesStreamResponse}
      (h : Streamed items text events) (i : StreamedItem) (opened : ResponsesOutput)
      (event : ResponsesStreamResponse) (htype : event.type = .outputItemAdded)
      (hitem : event.item = some opened) (hindex : event.outputIndex = some i.outputIndex)
      (hopened : opened.type = i.item.type ∧ opened.id = i.item.id)
      (hid : trimSpace i.item.id ≠ "")
      (hfresh : ∀ j ∈ items, j.outputIndex ≠ i.outputIndex ∧
        trimSpace j.item.id ≠ trimSpace i.item.id)
      (hsent : i.sent = if i.isTool then opened.arguments else "") (hopen : i.isDone = false) :
      Streamed (items ++ [i]) text (events ++ [event])
  | argumentsDelta {before after : List StreamedItem} {i : StreamedItem} {text : String}
      {events : List ResponsesStreamResponse} (h : Streamed (before ++ i :: after) text events)
      (hopen : i.isDone = false) (htool : i.isTool = true) (event : ResponsesStreamResponse)
      (htype : event.type = .functionArgsDelta ∨ event.type = .customToolInputDelta)
      (hnamed : i.IsNamedBy event) :
      Streamed (before ++ { i with sent := i.sent ++ event.delta } :: after) text
        (events ++ [event])
  | textDelta {before after : List StreamedItem} {i : StreamedItem} {text : String}
      {events : List ResponsesStreamResponse} (h : Streamed (before ++ i :: after) text events)
      (hopen : i.isDone = false) (hmessage : i.item.type = .message)
      (event : ResponsesStreamResponse) (htype : event.type = .outputTextDelta) :
      Streamed (before ++ { i with sent := i.sent ++ event.delta } :: after) (text ++ event.delta)
        (events ++ [event])
  | argumentsDone {items : List StreamedItem} {i : StreamedItem} {text : String}
      {events : List ResponsesStreamResponse} (h : Streamed items text events) (hi : i ∈ items)
      (htool : i.isTool = true) (event : ResponsesStreamResponse)
      (htype : event.type = .functionArgsDone ∨ event.type = .customToolInputDone)
      (hnamed : i.IsNamedBy event) : Streamed items text (events ++ [event])
  | itemDone {before after : List StreamedItem} {i : StreamedItem} {text : String}
      {events : List ResponsesStreamResponse} (h : Streamed (before ++ i :: after) text events)
      (hopen : i.isDone = false) (rest : String) (htotal : i.total = i.sent ++ rest)
      (event : ResponsesStreamResponse) (htype : event.type = .outputItemDone)
      (hitem : event.item = some i.item) (hindex : event.outputIndex = some i.outputIndex) :
      Streamed (before ++ { i with sent := i.total, isDone := true } :: after) text
        (events ++ [event])

lemma Streamed.sent_of_isDone (h : Streamed items text events) :
    ∀ i ∈ items, i.isDone = true → i.sent = i.total := by
  induction h with
  | start => simp
  | aside _ _ _ ih | argumentsDone _ _ _ _ _ _ ih => exact ih
  | added _ i _ _ _ _ _ _ _ _ _ hopen ih =>
    intro j hj hdone
    rcases mem_append.mp hj with hj | hj
    · exact ih j hj hdone
    · rw [mem_singleton.mp hj, hopen] at hdone
      exact absurd hdone Bool.false_ne_true
  | argumentsDelta _ hopen _ _ _ _ ih | textDelta _ hopen _ _ _ ih =>
    simp only [mem_append, mem_cons] at ih ⊢
    rintro j (hj | rfl | hj) hdone
    · exact ih j (Or.inl hj) hdone
    · rw [hopen] at hdone
      exact absurd hdone Bool.false_ne_true
    · exact ih j (Or.inr (Or.inr hj)) hdone
  | itemDone _ _ _ _ _ _ _ _ ih =>
    simp only [mem_append, mem_cons] at ih ⊢
    rintro j (hj | rfl | hj) hdone
    · exact ih j (Or.inl hj) hdone
    · rfl
    · exact ih j (Or.inr (Or.inr hj)) hdone

/-! ### What the converter keeps along a stream -/

/-- The key of an item that is a tool, and what was carried of its arguments. -/
def StreamedItem.keyed (i : StreamedItem) : ToolKey × String := (.output i.outputIndex, i.sent)

def ResponsesStreamTool.keyed (t : ResponsesStreamTool) : ToolKey × String := (t.key, t.arguments)

/-- The state after the events that opened these items and carried this text. -/
structure ResponsesToChatStreamState.Tracks (s : ResponsesToChatStreamState)
    (chunks : List ChatChunk) (items : List StreamedItem) (text : String) : Prop where
  delivers : s.Delivers chunks
  upToDate : ∀ t ∈ s.toolByKey, t.UpToDate
  tools : s.toolByKey.map ResponsesStreamTool.keyed = (items.filter isTool).map keyed
  byOutputIndex : ∀ i ∈ items.filter isTool,
    s.outputIndexToKey i.outputIndex = some (.output i.outputIndex)
  byItemID : ∀ i ∈ items.filter isTool, trimSpace i.item.id ≠ "" ∧
    s.itemIDToKey (trimSpace i.item.id) = some (.output i.outputIndex)
  noPending : s.NoPending
  content : contentOf chunks = text
  hasSentText : s.hasSentText = decide (text ≠ "")
  notFinalized : s.finalized = false

lemma tracks_new (id model : String) (created : Int) (includeUsage : Bool) :
    (newResponsesToChatStreamState id model created includeUsage).Tracks [] [] "" where
  delivers :=
    ⟨rfl, rfl, nodup_nil, forall_mem_nil _, fun _ _ => rfl, forall_mem_nil _⟩
  upToDate := forall_mem_nil _
  tools := rfl
  byOutputIndex := forall_mem_nil _
  byItemID := forall_mem_nil _
  noPending := ⟨rfl, rfl⟩
  content := rfl
  hasSentText := rfl
  notFinalized := rfl

namespace ResponsesToChatStreamState

variable {s s' : ResponsesToChatStreamState} {chunks more : List ChatChunk}
  {items : List StreamedItem} {text : String}

/-- Only the items that are tools count. -/
lemma Tracks.congr_items (h : s.Tracks chunks items text) {items' : List StreamedItem}
    (hitems : items'.filter isTool = items.filter isTool) :
    s.Tracks chunks items' text :=
  { h with
    tools := hitems ▸ h.tools
    byOutputIndex := hitems ▸ h.byOutputIndex
    byItemID := hitems ▸ h.byItemID }

section

variable (h : s.Tracks chunks items text)

include h

/-- Chunks without tool calls leave the tools as they are. -/
lemma Tracks.congr (hs : s.SameButTools { s' with hasSentText := s.hasSentText })
    (htools : s'.toolByKey = s.toolByKey) (hmore : ∀ index, piecesAt more index = [])
    {delta : String} (hdelta : contentOf more = delta)
    (htext : s'.hasSentText = decide (text ++ delta ≠ "")) :
    s'.Tracks (chunks ++ more) items (text ++ delta) where
  delivers := h.delivers.congr hs.nextToolIndex htools hmore
  upToDate := htools ▸ h.upToDate
  tools := by rw [htools, h.tools]
  byOutputIndex := hs.outputIndexToKey ▸ h.byOutputIndex
  byItemID := hs.itemIDToKey ▸ h.byItemID
  noPending := ⟨hs.byOutputIndex.trans h.noPending.byOutputIndex,
    hs.byItemID.trans h.noPending.byItemID⟩
  content := by rw [contentOf_append, h.content, hdelta]
  hasSentText := htext
  notFinalized := hs.finalized.trans h.notFinalized

/-- Chunks with neither text nor tool calls. -/
lemma Tracks.congr_quiet (hs : s.SameButTools s') (htools : s'.toolByKey = s.toolByKey)
    (hmore : ∀ index, piecesAt more index = []) (hcontent : contentOf more = "") :
    s'.Tracks (chunks ++ more) items text := by
  have htext : s'.hasSentText = decide (text ++ "" ≠ "") := by
    rw [hs.hasSentText, h.hasSentText, String.append_empty]
  have htracks := h.congr { hs with hasSentText := rfl } htools hmore hcontent htext
  rwa [String.append_empty] at htracks

/-! ### Text, reasoning and the start of the answer -/

lemma Tracks.metadata (response : Option OpenAIResponsesResponse) :
    (s.applyResponseMetadata response).Tracks chunks items text := by
  cases response with
  | none   => exact h
  | some r =>
    have hsame : s.SameButTools (s.applyResponseMetadata (some r)) :=
      ⟨rfl, rfl, rfl, rfl, rfl, rfl, rfl⟩
    have htracks := h.congr_quiet hsame rfl piecesAt_nil contentOf_nil
    rwa [append_nil] at htracks

lemma Tracks.ensureStart : s.ensureStart.1.Tracks (chunks ++ s.ensureStart.2) items text :=
  h.congr_quiet ensureStart_sameButTools toolByKey_ensureStart (piecesAt_ensureStart s)
    (contentOf_ensureStart s)

lemma Tracks.textDelta (delta : String) :
    (s.textDelta delta).1.Tracks (chunks ++ (s.textDelta delta).2) items (text ++ delta) := by
  rw [ResponsesToChatStreamState.textDelta]
  by_cases hdelta : delta = ""
  · simpa [hdelta] using h
  · rw [if_neg hdelta]
    have hstart := ensureStart_sameButTools
      (s := { s with usageText := s.usageText ++ delta, hasSentText := true })
    refine h.congr { hstart with hasSentText := rfl } toolByKey_ensureStart ?_ ?_ ?_
    · simp
    · simp
    · simp [hstart.hasSentText, hdelta]

lemma Tracks.reasoningDelta (delta : String) :
    (s.reasoningDelta delta).1.Tracks (chunks ++ (s.reasoningDelta delta).2) items text := by
  rw [ResponsesToChatStreamState.reasoningDelta]
  by_cases hdelta : delta = ""
  · simpa [hdelta] using h
  · rw [if_neg hdelta]
    refine h.congr_quiet ?_ ?_ ?_ ?_
    · have hstart := ensureStart_sameButTools (s := { s with
        needsReasoningSummaryBreak := false
        usageText := s.usageText ++
          if s.needsReasoningSummaryBreak then reasoningBreak delta else delta })
      exact ⟨hstart.nextToolIndex, hstart.outputIndexToKey, hstart.itemIDToKey,
        hstart.byOutputIndex, hstart.byItemID, hstart.hasSentText, hstart.finalized⟩
    · exact toolByKey_ensureStart
    · simp
    · simp

end

/-! ### Tools -/

variable {before after : List StreamedItem} {i : StreamedItem} {event : ResponsesStreamResponse}

/-- Each item that is a tool has one, and sending it keeps up with what is carried of the item. -/
lemma Tracks.tool (h : s.Tracks chunks (before ++ i :: after) text) (htool : i.isTool = true) :
    ∃ t, t.key = .output i.outputIndex ∧ t.arguments = i.sent ∧
      s.findTool (.output i.outputIndex) = some t ∧
      ∀ (u : ResponsesStreamTool) (rest explicitDelta : String), u.Extends t rest →
        (explicitDelta = "" ∨ explicitDelta = rest) → ∀ i' : StreamedItem,
        i'.outputIndex = i.outputIndex → i'.item = i.item → i'.sent = i.sent ++ rest →
        (s.toolDelta u explicitDelta).1.Tracks (chunks ++ (s.toolDelta u explicitDelta).2)
          (before ++ i' :: after) text := by
  have htools := h.tools
  rw [filter_append, filter_cons_of_pos htool, map_append, map_eq_append_iff] at htools
  obtain ⟨tools, rest, htools, hbefore, hrest⟩ := htools
  obtain ⟨t, tools', rfl, ht, hafter⟩ := map_eq_cons_iff.mp hrest
  obtain ⟨hkey, hargs⟩ := Prod.ext_iff.mp ht
  refine ⟨t, hkey, hargs, (congrArg s.findTool hkey).symm.trans (h.delivers.findTool_eq htools), ?_⟩
  intro u rest e hu he i' hindex hitem hsent
  obtain ⟨v, hv, hvkey, -, hvargs, hvtools, hdelivers, hcontent⟩ :=
    h.delivers.toolDelta htools hu he
  have hsame := toolDelta_sameButTools (s := s) (u := u) e
  have htool' : i'.isTool = true := by rw [isTool, hitem]; exact htool
  have hfilter : (before ++ i' :: after).filter isTool =
      before.filter isTool ++ i' :: after.filter isTool := by
    rw [filter_append, filter_cons_of_pos htool']
  have hold : (before ++ i :: after).filter isTool =
      before.filter isTool ++ i :: after.filter isTool := by
    rw [filter_append, filter_cons_of_pos htool]
  refine ⟨hdelivers, ?_, ?_, ?_, ?_, ?_, ?_, ?_, ?_⟩
  · intro x hx
    have hx' : x = v ∨ x ∈ s.toolByKey := by
      rw [hvtools] at hx
      rw [htools]
      simp only [mem_append, mem_cons] at hx ⊢
      tauto
    rcases hx' with rfl | hx'
    · exact hv
    · exact h.upToDate x hx'
  · have hvkeyed : v.keyed = i'.keyed := by
      rw [ResponsesStreamTool.keyed, keyed, hvkey, hvargs, hu.arguments, hsent, hindex]
      exact Prod.ext hkey (congrArg (· ++ rest) hargs)
    rw [hvtools, hfilter, map_append, map_cons, hbefore, hafter, hvkeyed, map_append, map_cons]
  · have hall := h.byOutputIndex
    rw [hold, forall_mem_append, forall_mem_cons] at hall
    rw [hsame.outputIndexToKey, hfilter, forall_mem_append, forall_mem_cons, hindex]
    exact hall
  · have hall := h.byItemID
    rw [hold, forall_mem_append, forall_mem_cons] at hall
    rw [hsame.itemIDToKey, hfilter, forall_mem_append, forall_mem_cons, hindex, hitem]
    exact hall
  · exact ⟨hsame.byOutputIndex.trans h.noPending.byOutputIndex,
      hsame.byItemID.trans h.noPending.byItemID⟩
  · rw [contentOf_append, hcontent, h.content, String.append_empty]
  · rw [hsame.hasSentText, h.hasSentText]
  · rw [hsame.finalized, h.notFinalized]

section

variable (h : s.Tracks chunks (before ++ i :: after) text) (htool : i.isTool = true)

include h htool

lemma Tracks.findToolForEvent (hnamed : i.IsNamedBy event) :
    s.findToolForEvent event = s.findTool (.output i.outputIndex) := by
  have hmem : i ∈ (before ++ i :: after).filter isTool := by simp [htool]
  rw [ResponsesToChatStreamState.findToolForEvent]
  rcases hnamed with hindex | ⟨hindex, hid⟩
  · rw [hindex, Option.bind_some, h.byOutputIndex i hmem]
  · obtain ⟨hne, hkey⟩ := h.byItemID i hmem
    simp only [hindex, Option.bind_none, hid, if_neg hne, hkey]

lemma Tracks.argumentsDelta (hnamed : i.IsNamedBy event) :
    (s.toolArgumentsDelta event).1.Tracks (chunks ++ (s.toolArgumentsDelta event).2)
      (before ++ { i with sent := i.sent ++ event.delta } :: after) text := by
  rw [toolArgumentsDelta]
  by_cases hdelta : event.delta = ""
  · simpa [hdelta] using h
  · obtain ⟨t, -, -, hfind, hsend⟩ := h.tool htool
    rw [if_neg hdelta, h.findToolForEvent htool hnamed, hfind]
    exact hsend { t with arguments := t.arguments ++ event.delta } event.delta event.delta
      ⟨rfl, rfl, rfl, rfl, rfl⟩ (Or.inr rfl) { i with sent := i.sent ++ event.delta } rfl rfl rfl

lemma Tracks.flushPendingTool (hnamed : i.IsNamedBy event) :
    (s.flushPendingTool event).1.Tracks (chunks ++ (s.flushPendingTool event).2)
      (before ++ i :: after) text := by
  obtain ⟨t, -, -, hfind, hsend⟩ := h.tool htool
  rw [ResponsesToChatStreamState.flushPendingTool, h.findToolForEvent htool hnamed, hfind]
  exact hsend t "" "" ⟨rfl, rfl, rfl, rfl, String.append_empty.symm⟩ (Or.inl rfl) i rfl rfl
    String.append_empty.symm

/-- The event that closes an item finds its tool, and the rest of the arguments is sent. -/
lemma Tracks.itemDone {rest : String} (htotal : i.item.arguments = i.sent ++ rest)
    (hitem : event.item = some i.item) (hindex : event.outputIndex = some i.outputIndex)
    {i' : StreamedItem}
    (hi' : i'.outputIndex = i.outputIndex ∧ i'.item = i.item ∧ i'.sent = i.item.arguments) :
    (s.toolItem event i.item).1.Tracks (chunks ++ (s.toolItem event i.item).2)
      (before ++ i' :: after) text := by
  have hmem : i ∈ (before ++ i :: after).filter isTool := by simp [htool]
  obtain ⟨hne, hid⟩ := h.byItemID i hmem
  have heventID : eventItemID event = trimSpace i.item.id := by simp [eventItemID, hitem, hne]
  obtain ⟨t, hkey, hargs, hfind, hsend⟩ := h.tool htool
  -- the converter already knows the tool under both names
  have hregister : s.register i.outputIndex (eventItemID event) t.key = s := by
    have hindex' := Function.update_eq_self i.outputIndex s.outputIndexToKey
    have hid' := Function.update_eq_self (trimSpace i.item.id) s.itemIDToKey
    rw [h.byOutputIndex i hmem] at hindex'
    rw [hid] at hid'
    rw [register, hkey, heventID, hindex', hid']
  rw [toolItem, ensureToolForEvent_of_find h.noPending hindex (heventID ▸ hne) _ hfind, hregister]
  exact hsend _ rest "" (takeArguments_extends (hargs ▸ htotal)) (Or.inl rfl) i' hi'.1 hi'.2.1
    (hi'.2.2.trans htotal)

end

lemma Tracks.findTool_eq_none (h : s.Tracks chunks items text)
    {key : ToolKey} (hkey : ∀ i ∈ items, key ≠ .output i.outputIndex) : s.findTool key = none := by
  have hkeys : s.toolByKey.map ResponsesStreamTool.key =
      (items.filter isTool).map fun i => ToolKey.output i.outputIndex := by
    simpa [ResponsesStreamTool.keyed, keyed, Function.comp_def]
      using congrArg (List.map Prod.fst) h.tools
  simp only [findTool, List.find?_eq_none, decide_eq_true_eq]
  intro t ht heq
  have hmem : key ∈ s.toolByKey.map ResponsesStreamTool.key := heq ▸ mem_map_of_mem ht
  rw [hkeys] at hmem
  obtain ⟨i, hi, rfl⟩ := mem_map.mp hmem
  exact hkey i (mem_of_mem_filter hi) rfl

lemma Tracks.sendNew (h : s.Tracks chunks items text)
    (htool : i.isTool = true) (hid : trimSpace i.item.id ≠ "")
    (hfresh : ∀ j ∈ items, j.outputIndex ≠ i.outputIndex ∧
      trimSpace j.item.id ≠ trimSpace i.item.id)
    {u : ResponsesStreamTool} (hu : u.Extends (s.newTool (.output i.outputIndex) "").2 i.sent)
    {s₁ : ResponsesToChatStreamState}
    (hs₁ : s₁ = (s.newTool (.output i.outputIndex) "").1.register i.outputIndex
      (trimSpace i.item.id) (.output i.outputIndex)) :
    (s₁.toolDelta u "").1.Tracks (chunks ++ (s₁.toolDelta u "").2) (items ++ [i]) text := by
  have hfind : s.findTool (.output i.outputIndex) = none :=
    h.findTool_eq_none fun j hj heq => (hfresh j hj).1 (ToolKey.output.inj heq).symm
  have hnew : s₁.Delivers chunks := hs₁ ▸ (h.delivers.newTool hfind "").register _ _ _
  have htools : s₁.toolByKey = s.toolByKey ++ [(s.newTool (.output i.outputIndex) "").2] := by
    rw [hs₁]
    rfl
  have houtput : s₁.outputIndexToKey =
      Function.update s.outputIndexToKey i.outputIndex (some (.output i.outputIndex)) := by
    rw [hs₁]
    rfl
  have hitemID : s₁.itemIDToKey =
      Function.update s.itemIDToKey (trimSpace i.item.id) (some (.output i.outputIndex)) := by
    rw [hs₁]
    rfl
  obtain ⟨v, hv, hvkey, -, hvargs, hvtools, hdelivers, hcontent⟩ :=
    hnew.toolDelta htools hu (Or.inl rfl)
  have hsame := toolDelta_sameButTools (s := s₁) (u := u) ""
  have hfilter : (items ++ [i]).filter isTool = items.filter isTool ++ [i] := by
    rw [filter_append, filter_cons_of_pos htool, filter_nil]
  refine ⟨hdelivers, ?_, ?_, ?_, ?_, ?_, ?_, ?_, ?_⟩
  · rw [hvtools, forall_mem_append]
    exact ⟨h.upToDate, by simpa using hv⟩
  · have hvkeyed : v.keyed = i.keyed := by
      rw [ResponsesStreamTool.keyed, hvkey, hvargs, hu.arguments]
      exact Prod.ext rfl String.empty_append
    rw [hvtools, hfilter, map_append, map_append, h.tools, map_singleton, map_singleton, hvkeyed]
  · rw [hsame.outputIndexToKey, houtput, hfilter, forall_mem_append,
      forall_mem_singleton, Function.update_self]
    refine ⟨fun j hj => ?_, rfl⟩
    rw [Function.update_of_ne (hfresh j (mem_of_mem_filter hj)).1, h.byOutputIndex j hj]
  · rw [hsame.itemIDToKey, hitemID, hfilter, forall_mem_append, forall_mem_singleton,
      Function.update_self]
    refine ⟨fun j hj => ⟨(h.byItemID j hj).1, ?_⟩, hid, rfl⟩
    rw [Function.update_of_ne (hfresh j (mem_of_mem_filter hj)).2, (h.byItemID j hj).2]
  · refine ⟨hsame.byOutputIndex.trans ?_, hsame.byItemID.trans ?_⟩
    · exact hs₁ ▸ h.noPending.byOutputIndex
    · exact hs₁ ▸ h.noPending.byItemID
  · rw [contentOf_append, hcontent, h.content, String.append_empty]
  · rw [hsame.hasSentText, ← h.hasSentText, hs₁]
    rfl
  · rw [hsame.finalized, ← h.notFinalized, hs₁]
    rfl

/-- The event that opens an item makes a tool for it. -/
lemma Tracks.itemAdded (h : s.Tracks chunks items text)
    (htool : i.isTool = true) (hid : trimSpace i.item.id ≠ "")
    (hfresh : ∀ j ∈ items, j.outputIndex ≠ i.outputIndex ∧
      trimSpace j.item.id ≠ trimSpace i.item.id) {opened : ResponsesOutput}
    (hopened : opened.id = i.item.id) (hsent : i.sent = opened.arguments)
    (hitem : event.item = some opened) (hindex : event.outputIndex = some i.outputIndex) :
    (s.toolItem event opened).1.Tracks (chunks ++ (s.toolItem event opened).2) (items ++ [i])
      text := by
  have heventID : eventItemID event = trimSpace i.item.id := by
    simp [eventItemID, hitem, hopened, hid]
  have hfind : s.findTool (.output i.outputIndex) = none :=
    h.findTool_eq_none fun j hj heq => (hfresh j hj).1 (ToolKey.output.inj heq).symm
  have htotal : opened.arguments = (s.newTool (.output i.outputIndex) "").2.arguments ++ i.sent :=
    hsent ▸ String.empty_append.symm
  rw [toolItem, ensureToolForEvent_new h.noPending hindex (heventID ▸ hid) _ hfind, heventID]
  exact h.sendNew htool hid hfresh (takeArguments_extends htotal) rfl

end ResponsesToChatStreamState

/-! ### Runs -/

lemma convertResponsesStream_concat (s : ResponsesToChatStreamState)
    (events : List ResponsesStreamResponse) (event : ResponsesStreamResponse) :
    convertResponsesStream s (events ++ [event]) =
      (convertResponsesStream s events).bind fun r =>
        (responsesStreamEventToChatChunks event r.1).map fun r' => (r'.1, r.2 ++ r'.2) := by
  induction events generalizing s with
  | nil =>
    cases hevent : responsesStreamEventToChatChunks event s <;>
      simp [convertResponsesStream, Except.bind, Except.map]
  | cons e events ih =>
    simp only [cons_append, convertResponsesStream]
    cases he : responsesStreamEventToChatChunks e s with
    | error err => rfl
    | ok r =>
      simp only [Except.bind, ih]
      cases hr : convertResponsesStream r.1 events with
      | error err => rfl
      | ok r' =>
        cases hr' : responsesStreamEventToChatChunks event r'.1 <;>
          simp [Except.map, hr']

section

variable {s : ResponsesToChatStreamState} {chunks : List ChatChunk} {items : List StreamedItem}
  {text : String} {event : ResponsesStreamResponse}

lemma ResponsesToChatStreamState.Tracks.aside (h : s.Tracks chunks items text)
    (htype : event.type.isAside = true) :
    ∃ r, responsesStreamEventToChatChunks event s = .ok r ∧
      r.1.Tracks (chunks ++ r.2) items text := by
  have hquiet : ∀ s', s.SameButTools s' → s'.toolByKey = s.toolByKey →
      s'.Tracks (chunks ++ []) items text := fun s' hs' htools =>
    h.congr_quiet hs' htools piecesAt_nil contentOf_nil
  rw [responsesStreamEventToChatChunks]
  cases hevent : event.type with
  | created => exact ⟨_, rfl, (h.metadata event.response).ensureStart⟩
  | reasoningSummaryDelta | reasoningTextDelta => exact ⟨_, rfl, h.reasoningDelta event.delta⟩
  | reasoningSummaryDone | reasoningTextDone =>
    refine ⟨_, rfl, ?_⟩
    split
    · exact hquiet _ ⟨rfl, rfl, rfl, rfl, rfl, rfl, rfl⟩ rfl
    · exact hquiet _ ⟨rfl, rfl, rfl, rfl, rfl, rfl, rfl⟩ rfl
  | other name => exact ⟨_, rfl, hquiet _ ⟨rfl, rfl, rfl, rfl, rfl, rfl, rfl⟩ rfl⟩
  | _ => simp [hevent, ResponsesEventType.isAside] at htype

/-- The events lead to a state that keeps up with the items and the text. -/
def Follows (start : ResponsesToChatStreamState) (events : List ResponsesStreamResponse)
    (items : List StreamedItem) (text : String) : Prop :=
  ∃ s chunks, convertResponsesStream start events = .ok (s, chunks) ∧ s.Tracks chunks items text

lemma Follows.concat {start : ResponsesToChatStreamState} {events : List ResponsesStreamResponse}
    {items' : List StreamedItem} {text' : String} (h : Follows start events items text)
    (hevent : ∀ s chunks, s.Tracks chunks items text →
      ∃ r, responsesStreamEventToChatChunks event s = .ok r ∧
        r.1.Tracks (chunks ++ r.2) items' text') :
    Follows start (events ++ [event]) items' text' := by
  obtain ⟨s, chunks, hrun, htracks⟩ := h
  obtain ⟨r, hr, hnext⟩ := hevent s chunks htracks
  refine ⟨r.1, chunks ++ r.2, ?_, hnext⟩
  rw [convertResponsesStream_concat, hrun]
  simp [Except.bind, Except.map, hr]

end

/-- Along a stream the converter keeps up with its items and its text. -/
lemma Streamed.follows (h : Streamed items text events) (id model : String) (created : Int)
    (includeUsage : Bool) :
    Follows (newResponsesToChatStreamState id model created includeUsage) events items text := by
  induction h with
  | start => exact ⟨_, [], rfl, tracks_new id model created includeUsage⟩
  | aside _ event htype ih =>
    exact ih.concat fun _ _ htracks => htracks.aside htype
  | added _ i opened event htype hitem hindex hopened hid hfresh hsent hopen ih =>
    refine ih.concat fun s chunks htracks => ?_
    by_cases htool : i.isTool = true
    · refine ⟨s.toolItem event opened, ?_, htracks.itemAdded htool hid hfresh hopened.2
        (by rwa [if_pos htool] at hsent) hitem hindex⟩
      rw [responsesStreamEventToChatChunks, htype, hitem]
      exact if_pos (hopened.1 ▸ htool)
    · refine ⟨(s, []), ?_, ?_⟩
      · rw [responsesStreamEventToChatChunks, htype, hitem]
        exact if_neg (hopened.1 ▸ htool)
      · rw [append_nil]
        exact htracks.congr_items (by simp [htool])
  | argumentsDelta _ hopen htool event htype hnamed ih =>
    refine ih.concat fun s chunks htracks =>
      ⟨s.toolArgumentsDelta event, ?_, htracks.argumentsDelta htool hnamed⟩
    rcases htype with htype | htype <;> rw [responsesStreamEventToChatChunks, htype]
  | textDelta _ hopen hmessage event htype ih =>
    refine ih.concat fun s chunks htracks =>
      ⟨s.textDelta event.delta, by rw [responsesStreamEventToChatChunks, htype], ?_⟩
    refine (htracks.textDelta event.delta).congr_items ?_
    simp [isTool, hmessage, isResponsesToolOutputType]
  | argumentsDone _ hi htool event htype hnamed ih =>
    obtain ⟨before, after, rfl⟩ := append_of_mem hi
    refine ih.concat fun s chunks htracks =>
      ⟨s.flushPendingTool event, ?_, htracks.flushPendingTool htool hnamed⟩
    rcases htype with htype | htype <;> rw [responsesStreamEventToChatChunks, htype]
  | @itemDone before after i text events _ hopen rest htotal event htype hitem hindex ih =>
    refine ih.concat fun s chunks htracks => ?_
    by_cases htool : i.isTool = true
    · rw [total, if_pos htool] at htotal ⊢
      refine ⟨s.toolItem event i.item, ?_,
        htracks.itemDone htool htotal hitem hindex ⟨rfl, rfl, rfl⟩⟩
      rw [responsesStreamEventToChatChunks, htype, hitem]
      exact if_pos htool
    · refine ⟨(s, []), ?_, ?_⟩
      · rw [responsesStreamEventToChatChunks, htype, hitem]
        exact if_neg htool
      · rw [append_nil]
        refine htracks.congr_items ?_
        rw [isTool] at htool
        simp [isTool, htool]

/-! ### The end of the answer -/

def firstText (output : List ResponsesOutput) : String :=
  (((output.filter (·.type = .message)).map messageText).find? (· ≠ "")).getD ""

/-- The text that reaches the client: that of the deltas or, where there were none, the first one
of the answer that closes the stream. -/
def closingText (text : String) (output : List ResponsesOutput) : String :=
  if text = "" then firstText output else text

lemma closingText_cons (text : String) (item : ResponsesOutput) (output : List ResponsesOutput) :
    closingText text (item :: output) = closingText (closingText text [item]) output := by
  by_cases htext : text = ""
  · by_cases hmessage : item.type = .message
    · by_cases hempty : messageText item = "" <;>
        simp [closingText, firstText, htext, hmessage, hempty]
    · simp [closingText, firstText, htext, hmessage]
  · simp [closingText, htext]

namespace ResponsesToChatStreamState

variable {s : ResponsesToChatStreamState} {chunks : List ChatChunk} {items : List StreamedItem}
  {text : String}
  (h : s.Tracks chunks items text)

include h

variable {item : ResponsesOutput} {output : List ResponsesOutput}
  {response : OpenAIResponsesResponse}

/-- What the closing answer repeats of a message or of the reasoning. -/
lemma Tracks.terminalItem (hitem : isResponsesToolOutputType item.type = false) :
    (s.terminalItem item).1.Tracks (chunks ++ (s.terminalItem item).2) items
      (closingText text [item]) := by
  rw [ResponsesToChatStreamState.terminalItem]
  by_cases hmessage : item.type = .message
  · by_cases htext : text = ""
    · have hsent : s.hasSentText = false := by rw [h.hasSentText, htext]; rfl
      have hclosing : closingText text [item] = text ++ messageText item := by
        by_cases hempty : messageText item = "" <;>
          simp [closingText, firstText, htext, hmessage, hempty]
      rw [if_pos ⟨hmessage, hsent⟩, hclosing]
      exact h.textDelta (messageText item)
    · have hsent : s.hasSentText = true := by rw [h.hasSentText]; simp [htext]
      simpa [hmessage, hsent, closingText, htext, isResponsesToolOutputType] using h
  · have hclosing : closingText text [item] = text := by
      by_cases htext : text = "" <;> simp [closingText, firstText, hmessage]
    rw [if_neg (fun hc => hmessage hc.1), hclosing]
    split
    · exact h.reasoningDelta _
    · simpa [hitem] using h

lemma Tracks.terminalOutputChunks
    (houtput : ∀ out ∈ output, isResponsesToolOutputType out.type = false) :
    (s.terminalOutputChunks output).1.Tracks (chunks ++ (s.terminalOutputChunks output).2) items
      (closingText text output) := by
  induction output generalizing s chunks text with
  | nil =>
    have hclosing : closingText text [] = text := by
      by_cases htext : text = "" <;> simp [closingText, firstText]
    simpa [terminalOutputChunks, hclosing] using h
  | cons item output ih =>
    rw [forall_mem_cons] at houtput
    rw [closingText_cons, terminalOutputChunks, ← append_assoc]
    exact ih (h.terminalItem houtput.1) houtput.2

/-- A tool that the closing answer repeats has an index of its own. -/
lemma Tracks.terminalTool (htool : isResponsesToolOutputType item.type = true)
    (hid : trimSpace item.id ≠ "") :
    piecesAt (chunks ++ (s.terminalItem item).2) s.toolByKey.length ≠ [] := by
  have hfind : s.findTool (.item (trimSpace item.id)) = none :=
    h.findTool_eq_none fun _ _ => ToolKey.noConfusion
  have hitem : s.terminalItem item = s.toolItem { type := .other "", item := some item } item := by
    have hmessage : item.type ≠ .message := fun heq => by
      simp [heq, isResponsesToolOutputType] at htool
    have hreasoning : item.type ≠ .reasoning := fun heq => by
      simp [heq, isResponsesToolOutputType] at htool
    simp [ResponsesToChatStreamState.terminalItem, hmessage, hreasoning, htool]
  obtain ⟨s₁, t, hdelivers, htools, hindex, hargs, hensure⟩ :=
    ensureToolForEvent_terminal h.delivers h.noPending hid hfind
  have htotal : item.arguments = t.arguments ++ item.arguments := by
    rw [hargs, String.empty_append]
  rw [hitem, toolItem, hensure, ← h.delivers.next, ← hindex]
  exact hdelivers.piecesAt_toolDelta htools (takeArguments_extends htotal)

lemma Tracks.toolByKey_terminalItem (hitem : isResponsesToolOutputType item.type = false) :
    (s.terminalItem item).1.toolByKey.length = s.toolByKey.length := by
  have hlength := congrArg List.length (h.terminalItem hitem).tools
  rw [← h.tools] at hlength
  simpa using hlength

lemma Tracks.terminalOutput_tool (hid : ∀ out ∈ output, trimSpace out.id ≠ "")
    (houtput : ∃ out ∈ output, isResponsesToolOutputType out.type = true) :
    piecesAt (chunks ++ (s.terminalOutputChunks output).2) s.toolByKey.length ≠ [] := by
  induction output generalizing s chunks text with
  | nil => simp at houtput
  | cons item output ih =>
    rw [forall_mem_cons] at hid
    rw [ResponsesToChatStreamState.terminalOutputChunks, ← append_assoc]
    cases htool : isResponsesToolOutputType item.type with
    | true =>
      rw [piecesAt_append]
      exact fun hnil => h.terminalTool htool hid.1 (append_eq_nil_iff.mp hnil).1
    | false =>
      rw [← h.toolByKey_terminalItem htool]
      refine ih (h.terminalItem htool) hid.2 ?_
      simpa [htool] using houtput

/-- When all was sent, the end of the stream adds neither text nor tool calls. -/
lemma Tracks.finalize (response : Option OpenAIResponsesResponse) :
    (∀ index, piecesAt (s.finalize response).2 index = []) ∧
      contentOf (s.finalize response).2 = "" := by
  have hflush : { s with finalized := true }.flushAllPendingTools =
      ({ s with finalized := true }, []) :=
    flushAllPendingTools_of_upToDate
      ⟨h.delivers.next, h.delivers.indices, h.delivers.keys, h.delivers.argsSentAt,
        h.delivers.unknown, h.delivers.known⟩ h.upToDate
      ⟨h.noPending.byOutputIndex, h.noPending.byItemID⟩
  rw [ResponsesToChatStreamState.finalize, h.notFinalized, hflush, if_neg Bool.false_ne_true]
  constructor
  · intro index
    simp only [piecesAt_append, piecesAt_ensureStart, piecesAt_usageChunks]
    rfl
  · simp only [contentOf_append, contentOf_ensureStart, contentOf_usageChunks]
    rfl

/-- What the client reads under each tool call index. -/
lemma Tracks.argumentsAt_eq (index : ℕ) :
    argumentsAt chunks index = ((items.filter isTool).map (·.sent))[index]? := by
  have hargs : (items.filter isTool).map (·.sent) =
      s.toolByKey.map ResponsesStreamTool.arguments := by
    simpa [ResponsesStreamTool.keyed, keyed, Function.comp_def]
      using (congrArg (List.map Prod.snd) h.tools).symm
  rw [hargs, List.getElem?_map, argumentsAt]
  cases ht : s.toolByKey[index]? with
  | none => simp [h.delivers.unknown index (List.getElem?_eq_none_iff.mp ht)]
  | some t =>
    have hmem : t ∈ s.toolByKey := mem_of_getElem? ht
    have hindex : t.index = index := by
      have hrange := congrArg (·[index]?) h.delivers.indices
      obtain ⟨hlt, rfl⟩ := List.getElem?_eq_some_iff.mp ht
      simpa [hlt] using hrange
    obtain ⟨hsent, hjoin⟩ := h.delivers.known t hmem
    rw [hindex] at hsent hjoin
    rw [if_neg (hsent.mp (h.upToDate t hmem).sent), hjoin]
    rfl

/-- An answer that is closed without tool calls: each tool was read once, and the text is what it
was or what the answer says first. -/
lemma Tracks.closeStream
    (htools : ∀ out ∈ response.output, isResponsesToolOutputType out.type = false) :
    (∀ index, argumentsAt (chunks ++ (s.closeStream (some response)).2) index =
      ((items.filter isTool).map (·.sent))[index]?) ∧
    contentOf (chunks ++ (s.closeStream (some response)).2) = closingText text response.output := by
  have hterminal := (h.metadata (some response)).terminalOutputChunks htools
  obtain ⟨hpieces, hcontent⟩ := hterminal.finalize (some response)
  rw [ResponsesToChatStreamState.closeStream, ← append_assoc]
  constructor
  · intro index
    rw [← hterminal.argumentsAt_eq index]
    simp [argumentsAt, hpieces index]
  · rw [contentOf_append]
    exact (congrArg₂ _ hterminal.content hcontent).trans String.append_empty

/-- The first tool call that a closing answer repeats has an index that no item has. -/
lemma Tracks.closeStream_tool (hid : ∀ out ∈ response.output, trimSpace out.id ≠ "")
    (htool : ∃ out ∈ response.output, isResponsesToolOutputType out.type = true) :
    argumentsAt (chunks ++ (s.closeStream (some response)).2)
      (items.filter isTool).length ≠ none := by
  have hmeta := h.metadata (some response)
  have hlength := congrArg List.length hmeta.tools
  rw [length_map, length_map] at hlength
  have hpieces := hmeta.terminalOutput_tool hid htool
  rw [argumentsAt, if_neg]
  · exact Option.some_ne_none _
  · rw [ResponsesToChatStreamState.closeStream, ← append_assoc, piecesAt_append, ← hlength]
    exact fun hnil => hpieces (append_eq_nil_iff.mp hnil).1

end ResponsesToChatStreamState

/-! ### Faithful streams -/

def messagesText (output : List ResponsesOutput) : String :=
  String.join ((output.filter (·.type = .message)).map messageText)

def toolArguments (output : List ResponsesOutput) : List String :=
  (output.filter (isResponsesToolOutputType ·.type)).map (·.arguments)

/-- The client reads one tool call for each of the answer, with its arguments, and the texts of the
messages, all in their order. -/
structure Faithful (output : List ResponsesOutput) (chunks : List ChatChunk) : Prop where
  tools : ∀ index, argumentsAt chunks index = (toolArguments output)[index]?
  text : contentOf chunks = messagesText output

lemma Streamed.toolArguments_eq (h : Streamed items text events)
    (hdone : ∀ i ∈ items, i.isDone = true) :
    toolArguments (items.map (·.item)) = (items.filter isTool).map (·.sent) := by
  rw [toolArguments, filter_map, map_map]
  refine map_congr_left fun i hi => ?_
  obtain ⟨hmem, htool⟩ := mem_filter.mp hi
  have htool' : i.isTool = true := htool
  rw [h.sent_of_isDone i hmem (hdone i hmem), total, if_pos htool']
  rfl

lemma Streamed.id_ne (h : Streamed items text events) : ∀ i ∈ items, trimSpace i.item.id ≠ "" := by
  induction h with
  | start => simp
  | aside _ _ _ ih | argumentsDone _ _ _ _ _ _ ih => exact ih
  | added _ i _ _ _ _ _ _ hid _ _ _ ih =>
    rw [forall_mem_append, forall_mem_singleton]
    exact ⟨ih, hid⟩
  | argumentsDelta _ _ _ _ _ _ ih | textDelta _ _ _ _ _ ih | itemDone _ _ _ _ _ _ _ _ ih =>
    rw [forall_mem_append, forall_mem_cons] at ih ⊢
    exact ih

/-- The chunks of a stream whose items are all done are faithful exactly if the closing answer
repeats no tool call and the text that reached the client is that of the messages. -/
theorem faithful_convertResponsesStream_iff {items : List StreamedItem} {text : String}
    {events : List ResponsesStreamResponse} (h : Streamed items text events)
    (hdone : ∀ i ∈ items, i.isDone = true) {completed : ResponsesStreamResponse}
    (htype : completed.type = .completed) {response : OpenAIResponsesResponse}
    (hresponse : completed.response = some response)
    (hrepeats : ∀ out ∈ response.output, ∃ i ∈ items, i.item = out) (id model : String)
    (created : Int) (includeUsage : Bool) :
    ∃ s chunks, convertResponsesStream
        (newResponsesToChatStreamState id model created includeUsage) (events ++ [completed]) =
          .ok (s, chunks) ∧
      (Faithful (items.map (·.item)) chunks ↔
        (∀ out ∈ response.output, isResponsesToolOutputType out.type = false) ∧
          closingText text response.output = messagesText (items.map (·.item))) := by
  obtain ⟨s, chunks, hrun, htracks⟩ := h.follows id model created includeUsage
  have hclose : responsesStreamEventToChatChunks completed s =
      .ok (s.closeStream (some response)) := by
    rw [responsesStreamEventToChatChunks, htype, hresponse]
  refine ⟨(s.closeStream (some response)).1, chunks ++ (s.closeStream (some response)).2, ?_, ?_⟩
  · rw [convertResponsesStream_concat, hrun]
    simp only [Except.bind, Except.map, hclose]
  by_cases htools : ∀ out ∈ response.output, isResponsesToolOutputType out.type = false
  · -- nothing is repeated: the text is all that can differ
    obtain ⟨harguments, htext⟩ := htracks.closeStream htools
    rw [← h.toolArguments_eq hdone] at harguments
    exact ⟨fun hf => ⟨htools, htext ▸ hf.text⟩, fun ⟨_, hc⟩ => ⟨harguments, htext.trans hc⟩⟩
  · have hid : ∀ out ∈ response.output, trimSpace out.id ≠ "" := by
      intro out hout
      obtain ⟨i, hi, rfl⟩ := hrepeats out hout
      exact h.id_ne i hi
    have hnew := htracks.closeStream_tool hid (by simpa using htools)
    refine ⟨fun hf => absurd (hf.tools (items.filter isTool).length) ?_,
      fun ⟨hnone, _⟩ => absurd hnone htools⟩
    rw [h.toolArguments_eq hdone, List.getElem?_eq_none (by simp)]
    exact hnew

/-! ### Two streams -/

/-- A message, streamed and repeated. -/
def helloMessage : ResponsesOutput where
  type := .message
  id := "msg_1"
  content := [⟨"output_text", "hello"⟩]

def helloEvents : List ResponsesStreamResponse :=
  [{ type := .outputItemAdded, outputIndex := some 0, item := some helloMessage },
    { type := .outputTextDelta, delta := "hello" },
    { type := .outputItemDone, outputIndex := some 0, item := some helloMessage }]

lemma streamed_helloEvents : Streamed [⟨0, helloMessage, "hello", true⟩] "hello" helloEvents := by
  have hadded : Streamed ([] ++ ⟨0, helloMessage, "", false⟩ :: []) "" _ :=
    Streamed.start.added _ helloMessage
      { type := .outputItemAdded, outputIndex := some 0, item := some helloMessage } rfl rfl rfl
      ⟨rfl, rfl⟩ (by decide) (by simp) rfl rfl
  have hdelta := hadded.textDelta rfl rfl { type := .outputTextDelta, delta := "hello" } rfl
  exact hdelta.itemDone rfl "" (by decide)
    { type := .outputItemDone, outputIndex := some 0, item := some helloMessage } rfl rfl rfl

/-- A function call, streamed and repeated. -/
def lookupCall : ResponsesOutput where
  type := .functionCall
  id := "fc_1"
  callId := "call_1"
  name := "lookup"
  arguments := "[1]"

def lookupEvents : List ResponsesStreamResponse :=
  [{ type := .outputItemAdded, outputIndex := some 0,
      item := some { lookupCall with arguments := "" } },
    { type := .functionArgsDelta, outputIndex := some 0, delta := "[1]" },
    { type := .outputItemDone, outputIndex := some 0, item := some lookupCall }]

lemma streamed_lookupEvents : Streamed [⟨0, lookupCall, "[1]", true⟩] "" lookupEvents := by
  have hadded : Streamed ([] ++ ⟨0, lookupCall, "", false⟩ :: []) "" _ :=
    Streamed.start.added _ { lookupCall with arguments := "" }
      { type := .outputItemAdded, outputIndex := some 0,
        item := some { lookupCall with arguments := "" } } rfl rfl rfl
      ⟨rfl, rfl⟩ (by decide) (by simp) rfl rfl
  have hdelta := hadded.argumentsDelta rfl rfl
    { type := .functionArgsDelta, outputIndex := some 0, delta := "[1]" } (Or.inl rfl) (Or.inl rfl)
  exact hdelta.itemDone rfl "" (by decide)
    { type := .outputItemDone, outputIndex := some 0, item := some lookupCall } rfl rfl rfl

def completedWith (output : List ResponsesOutput) : ResponsesStreamResponse where
  type := .completed
  response := some { output := output }

/-- The message is repeated at the end, the call is not. -/
theorem faithful_convertResponsesStream_hello :
    (∃ s chunks, convertResponsesStream (newResponsesToChatStreamState "" "gpt" 0 false)
        (helloEvents ++ [completedWith [helloMessage]]) = .ok (s, chunks) ∧
      Faithful [helloMessage] chunks) ∧
    ∃ s chunks, convertResponsesStream (newResponsesToChatStreamState "" "gpt" 0 false)
        (lookupEvents ++ [completedWith []]) = .ok (s, chunks) ∧ Faithful [lookupCall] chunks := by
  constructor
  · obtain ⟨s, chunks, hrun, hiff⟩ := faithful_convertResponsesStream_iff streamed_helloEvents
      (by simp) (show (completedWith [helloMessage]).type = .completed from rfl) rfl (by simp)
      "" "gpt" 0 false
    exact ⟨s, chunks, hrun, hiff.mpr ⟨by decide, by decide⟩⟩
  · obtain ⟨s, chunks, hrun, hiff⟩ := faithful_convertResponsesStream_iff streamed_lookupEvents
      (by simp) (show (completedWith []).type = .completed from rfl) rfl (by simp) "" "gpt" 0 false
    exact ⟨s, chunks, hrun, hiff.mpr ⟨by decide, by decide⟩⟩

/-- One function call is read as two, each with all of the arguments. -/
theorem convertResponsesStream_repeats_lookup :
    Streamed [⟨0, lookupCall, "[1]", true⟩] "" lookupEvents ∧
      (convertResponsesStream (newResponsesToChatStreamState "" "gpt" 0 false)
          (lookupEvents ++ [completedWith [lookupCall]])).map
        (fun r => (List.range 3).map (argumentsAt r.2)) = .ok [some "[1]", some "[1]", none] :=
  ⟨streamed_lookupEvents, by decide +kernel⟩

end XinghaiApi
