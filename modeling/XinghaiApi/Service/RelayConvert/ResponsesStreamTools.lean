import Mathlib.Data.List.Dedup
import XinghaiApi.Service.RelayConvert.ResponsesStream

/-!
# What a converted stream delivers of its tools

The chunks of a converted stream are read as a client reads them: the content is put together, and
the arguments of each tool call index are. The converter delivers a tool when the pieces under the
index of the tool are its arguments; this is kept by everything that sends a tool.
-/

namespace XinghaiApi

open Dto ResponsesToChatStreamState ResponsesStreamTool ChatChunk Text List

/-! ### What a client reads -/

variable (chunks chunks' : List ChatChunk)

def ChatChunk.contentText (chunk : ChatChunk) : String :=
  (chunk.choice.bind fun c => c.1.content).getD ""

def ChatChunk.toolCalls (chunk : ChatChunk) : List ToolCallResponse :=
  (chunk.choice.map fun c => c.1.toolCalls).getD []

def contentOf (chunks : List ChatChunk) : String := String.join (chunks.map contentText)

/-- The pieces of arguments under a tool call index. -/
def piecesAt (chunks : List ChatChunk) (index : ℕ) : List String :=
  ((chunks.flatMap toolCalls).filter (·.index = index)).map (·.arguments)

/-- The arguments under a tool call index, if the index occurs. -/
def argumentsAt (chunks : List ChatChunk) (index : ℕ) : Option String :=
  if piecesAt chunks index = [] then none else some (String.join (piecesAt chunks index))

@[simp] lemma contentOf_nil : contentOf [] = "" := rfl

@[simp] lemma contentOf_append :
    contentOf (chunks ++ chunks') = contentOf chunks ++ contentOf chunks' := by
  simp [contentOf, String.join_append]

@[simp] lemma piecesAt_nil (index : ℕ) : piecesAt [] index = [] := rfl

@[simp] lemma piecesAt_append (index : ℕ) :
    piecesAt (chunks ++ chunks') index = piecesAt chunks index ++ piecesAt chunks' index := by
  simp [piecesAt]

section

variable (s : ResponsesToChatStreamState) (delta : ChoiceDelta)

@[simp] lemma contentOf_makeChunk (finishReason : Option String) :
    contentOf [s.makeChunk delta finishReason] = delta.content.getD "" := by
  simp [contentOf, contentText, makeChunk, String.join_nil]

@[simp] lemma piecesAt_makeChunk (finishReason : Option String) (index : ℕ) :
    piecesAt [s.makeChunk delta finishReason] index =
      (delta.toolCalls.filter (·.index = index)).map (·.arguments) := by
  simp [piecesAt, toolCalls, makeChunk]

@[simp] lemma contentOf_ensureStart : contentOf s.ensureStart.2 = "" := by
  rw [ensureStart]
  split
  · rfl
  · simp

@[simp] lemma piecesAt_ensureStart (index : ℕ) : piecesAt s.ensureStart.2 index = [] := by
  rw [ensureStart]
  split
  · rfl
  · simp

@[simp] lemma contentOf_usageChunks : contentOf s.usageChunks = "" := by
  rw [usageChunks]
  split
  · simp [contentOf, contentText, String.join_nil]
  · rfl

@[simp] lemma piecesAt_usageChunks (index : ℕ) : piecesAt s.usageChunks index = [] := by
  rw [usageChunks]
  split <;> rfl

end

/-! ### Tools that were sent -/

variable {item : ResponsesOutput} {itemID : String}

/-- All that is known of the tool was sent. -/
structure ResponsesStreamTool.UpToDate (tool : ResponsesStreamTool) : Prop where
  sent : tool.sent = true
  nameSent : tool.name = "" ∨ tool.nameSent = true
  argsSentAt : tool.argsSentAt = tool.arguments.length

/-- A tool in hand: more is known of it than of the one in the table. -/
structure ResponsesStreamTool.Extends (u t : ResponsesStreamTool) (rest : String) : Prop where
  key : u.key = t.key
  index : u.index = t.index
  sent : u.sent = t.sent
  argsSentAt : u.argsSentAt = t.argsSentAt
  arguments : u.arguments = t.arguments ++ rest

/-- The tools of a state and the chunks that were sent for them. -/
structure ResponsesToChatStreamState.Delivers (s : ResponsesToChatStreamState)
    (chunks : List ChatChunk) : Prop where
  next : s.nextToolIndex = s.toolByKey.length
  indices : s.toolByKey.map index = List.range s.toolByKey.length
  keys : (s.toolByKey.map key).Nodup
  argsSentAt : ∀ t ∈ s.toolByKey, t.argsSentAt = t.arguments.length
  unknown : ∀ index, s.toolByKey.length ≤ index → piecesAt chunks index = []
  known : ∀ t ∈ s.toolByKey, (t.sent = true ↔ piecesAt chunks t.index ≠ []) ∧
    String.join (piecesAt chunks t.index) = t.arguments

/-- Nothing waits for a tool. -/
structure ResponsesToChatStreamState.NoPending (s : ResponsesToChatStreamState) : Prop where
  byOutputIndex : s.pendingArgsByOutputIndex = ∅
  byItemID : s.pendingArgsByItemID = ∅

namespace ResponsesToChatStreamState

variable {s s' : ResponsesToChatStreamState} {chunks more : List ChatChunk}
  {before after : List ResponsesStreamTool} {t u : ResponsesStreamTool} {rest : String}

/-- Only the tools count. -/
lemma Delivers.congr (h : s.Delivers chunks) (hnext : s'.nextToolIndex = s.nextToolIndex)
    (htools : s'.toolByKey = s.toolByKey) (hmore : ∀ index, piecesAt more index = []) :
    s'.Delivers (chunks ++ more) where
  next := by rw [hnext, htools, h.next]
  indices := by rw [htools, h.indices]
  keys := by rw [htools]; exact h.keys
  argsSentAt := by rw [htools]; exact h.argsSentAt
  unknown := fun index hindex => by
    rw [htools] at hindex
    rw [piecesAt_append, h.unknown index hindex, hmore, append_nil]
  known := fun t ht => by
    rw [htools] at ht
    rw [piecesAt_append, hmore, append_nil]
    exact h.known t ht

/-- A new tool has the next index, and nothing was sent for it. -/
lemma Delivers.newTool (h : s.Delivers chunks) {key : ToolKey}
    (hkey : s.findTool key = none) (callID : String) :
    (s.newTool key callID).1.Delivers chunks := by
  have hfresh : ∀ t ∈ s.toolByKey, t.key ≠ key := by simpa [findTool] using hkey
  constructor
  · simp [ResponsesToChatStreamState.newTool, h.next]
  · simp [ResponsesToChatStreamState.newTool, h.indices, h.next, range_succ]
  · simp only [ResponsesToChatStreamState.newTool, map_append, map_cons, map_nil]
    refine nodup_append.mpr ⟨h.keys, by simp, ?_⟩
    simpa using hfresh
  · simp only [ResponsesToChatStreamState.newTool, mem_append, mem_singleton]
    rintro t (ht | rfl)
    · exact h.argsSentAt t ht
    · rfl
  · intro index hindex
    simp only [ResponsesToChatStreamState.newTool, length_append, length_singleton] at hindex
    exact h.unknown index (by omega)
  · simp only [ResponsesToChatStreamState.newTool, mem_append, mem_singleton]
    rintro t (ht | rfl)
    · exact h.known t ht
    · have hnone : piecesAt chunks s.nextToolIndex = [] := h.unknown _ h.next.ge
      simp [hnone, String.join_nil]

lemma ne_of_nodup_map {α β : Type} {f : α → β} {l l' : List α} {a : α}
    (h : ((l ++ a :: l').map f).Nodup) : ∀ x ∈ l ++ l', f x ≠ f a := by
  intro x hx heq
  rw [map_append, map_cons, nodup_middle, nodup_cons, ← map_append, ← heq] at h
  exact h.1 (mem_map_of_mem hx)

section

variable (h : s.Delivers chunks) (htools : s.toolByKey = before ++ t :: after)

include h htools

lemma Delivers.index_ne : ∀ x ∈ before ++ after, x.index ≠ t.index := by
  apply ne_of_nodup_map
  rw [← htools, h.indices]
  exact nodup_range

lemma Delivers.key_ne : ∀ x ∈ before ++ after, x.key ≠ t.key := ne_of_nodup_map (htools ▸ h.keys)

lemma Delivers.findTool_eq : s.findTool t.key = some t := by
  have hbefore : before.find? (·.key = t.key) = none := by
    simpa using fun x hx => h.key_ne htools x (mem_append_left after hx)
  rw [findTool, htools, List.find?_append, hbefore]
  simp

lemma Delivers.toolByKey_putTool (hkey : u.key = t.key) :
    (s.putTool u).toolByKey = before ++ u :: after := by
  have hkeep : ∀ l : List ResponsesStreamTool, (∀ x ∈ l, x.key ≠ t.key) →
      l.map (fun x => if x.key = u.key then u else x) = l := by
    intro l hl
    calc l.map (fun x => if x.key = u.key then u else x)
        = l.map fun x => x := map_congr_left fun x hx => if_neg (hkey ▸ hl x hx)
      _ = l := map_id' l
  rw [putTool, htools, map_append, map_cons,
    hkeep before fun x hx => h.key_ne htools x (mem_append_left after hx),
    hkeep after fun x hx => h.key_ne htools x (mem_append_right before hx), if_pos hkey.symm]

/-- One tool is replaced, and chunks are sent for it. -/
lemma Delivers.replace (hs' : s'.toolByKey = before ++ u :: after)
    (hnext : s'.nextToolIndex = s.nextToolIndex) (hkey : u.key = t.key) (hindex : u.index = t.index)
    (hlen : u.argsSentAt = u.arguments.length)
    (hother : ∀ index, index ≠ t.index → piecesAt more index = [])
    (hsent : u.sent = true ↔ piecesAt (chunks ++ more) t.index ≠ [])
    (hjoin : String.join (piecesAt (chunks ++ more) t.index) = u.arguments) :
    s'.Delivers (chunks ++ more) := by
  have hlength : s'.toolByKey.length = s.toolByKey.length := by simp [hs', htools]
  have hold : ∀ x ∈ before ++ after, x ∈ s.toolByKey := by
    intro x hx
    rw [htools]
    simp only [mem_append] at hx ⊢
    tauto
  have hcases : ∀ x ∈ s'.toolByKey, x = u ∨ x ∈ before ++ after := by
    intro x hx
    rw [hs'] at hx
    simp only [mem_append, mem_cons] at hx ⊢
    tauto
  constructor
  · rw [hnext, hlength, h.next]
  · rw [hlength, ← h.indices, hs', htools]
    simp [hindex]
  · have hkeys := h.keys
    rw [htools] at hkeys
    rw [hs']
    simpa [hkey] using hkeys
  · intro x hx
    rcases hcases x hx with rfl | hx
    · exact hlen
    · exact h.argsSentAt x (hold x hx)
  · intro index hge
    rw [hlength] at hge
    have hne : index ≠ t.index := by
      have hmem : t.index ∈ s.toolByKey.map ResponsesStreamTool.index := by simp [htools]
      rw [h.indices, mem_range] at hmem
      omega
    rw [piecesAt_append, h.unknown index hge, hother index hne, append_nil]
  · intro x hx
    rcases hcases x hx with rfl | hx
    · rw [hindex]
      exact ⟨hsent, hjoin⟩
    · rw [piecesAt_append, hother x.index (h.index_ne htools x hx), append_nil]
      exact h.known x (hold x hx)

end

lemma unsentArguments_of_extends (h : u.Extends t rest) (ht : t.argsSentAt = t.arguments.length) :
    unsentArguments u = rest := by
  rw [unsentArguments, h.arguments, h.argsSentAt, ht, ← String.length_toList, String.toList_append,
    drop_left, String.ofList_toList]

/-- An item describes the tool it is about, and may say all of its arguments. -/
lemma takeArguments_extends (htotal : item.arguments = t.arguments ++ rest) :
    (takeArguments (describeTool { t with itemID := itemID } item) item).Extends t rest := by
  rw [takeArguments]
  by_cases hempty : item.arguments = ""
  · obtain ⟨harguments, rfl⟩ := String.append_eq_empty_iff.mp (htotal.symm.trans hempty)
    rw [if_neg (not_not.mpr hempty)]
    constructor <;> simp [describeTool]
  · rw [if_pos hempty]
    constructor <;> simp [describeTool, htotal]

/-- What sending a tool leaves as it is. -/
structure SameButTools (s s' : ResponsesToChatStreamState) : Prop where
  nextToolIndex : s'.nextToolIndex = s.nextToolIndex
  outputIndexToKey : s'.outputIndexToKey = s.outputIndexToKey
  itemIDToKey : s'.itemIDToKey = s.itemIDToKey
  byOutputIndex : s'.pendingArgsByOutputIndex = s.pendingArgsByOutputIndex
  byItemID : s'.pendingArgsByItemID = s.pendingArgsByItemID
  hasSentText : s'.hasSentText = s.hasSentText
  finalized : s'.finalized = s.finalized

lemma ensureStart_sameButTools : s.SameButTools s.ensureStart.1 := by
  rw [ensureStart]
  split <;> exact ⟨rfl, rfl, rfl, rfl, rfl, rfl, rfl⟩

lemma toolByKey_ensureStart : s.ensureStart.1.toolByKey = s.toolByKey := by
  rw [ensureStart]
  split <;> rfl

lemma sendTool_sameButTools (argsDelta : String) : s.SameButTools (s.sendTool u argsDelta).1 :=
  have h := ensureStart_sameButTools (s := s)
  ⟨h.nextToolIndex, h.outputIndexToKey, h.itemIDToKey, h.byOutputIndex, h.byItemID, h.hasSentText,
    h.finalized⟩

lemma toolDelta_sameButTools (explicitDelta : String) :
    s.SameButTools (s.toolDelta u explicitDelta).1 := by
  rw [toolDelta]
  by_cases h : u.sent = true ∧ (if explicitDelta = "" then unsentArguments u
      else explicitDelta) = "" ∧ (u.name = "" ∨ u.nameSent = true)
  · rw [if_pos h]
    exact ⟨rfl, rfl, rfl, rfl, rfl, rfl, rfl⟩
  · rw [if_neg h]
    exact sendTool_sameButTools _

section

variable (h : s.Delivers chunks) (htools : s.toolByKey = before ++ t :: after)

include h htools

/-- A piece of arguments that is sent is delivered under the index of its tool. -/
lemma Delivers.sendTool (hu : u.Extends t rest) :
    (s.sendTool u rest).1.toolByKey = before ++ markSent u rest :: after ∧
      (s.sendTool u rest).1.Delivers (chunks ++ (s.sendTool u rest).2) ∧
      contentOf (s.sendTool u rest).2 = "" := by
  have ht : t ∈ s.toolByKey := by simp [htools]
  have hstart : s.ensureStart.1.Delivers (chunks ++ s.ensureStart.2) :=
    h.congr ensureStart_sameButTools.nextToolIndex toolByKey_ensureStart
      fun index => piecesAt_ensureStart s index
  have hput : (s.sendTool u rest).1.toolByKey = before ++ markSent u rest :: after :=
    hstart.toolByKey_putTool (toolByKey_ensureStart.trans htools) hu.key
  have hpieces : ∀ index, piecesAt (s.sendTool u rest).2 index =
      if t.index = index then [rest] else [] := by
    intro index
    simp only [ResponsesToChatStreamState.sendTool, piecesAt_append, piecesAt_ensureStart,
      piecesAt_makeChunk, nil_append, hu.index]
    by_cases hindex : t.index = index <;> simp [hindex]
  refine ⟨hput, ?_, by simp [ResponsesToChatStreamState.sendTool]⟩
  have hnext := (sendTool_sameButTools (s := s) (u := u) rest).nextToolIndex
  refine h.replace htools hput hnext hu.key hu.index ?_ ?_ ?_ ?_
  · rw [markSent, hu.argsSentAt, h.argsSentAt t ht, hu.arguments, String.length_append]
  · intro index hindex
    rw [hpieces, if_neg (Ne.symm hindex)]
  · simp [hpieces, markSent]
  · rw [piecesAt_append, hpieces, if_pos rfl, String.join_append, (h.known t ht).2]
    simp [markSent, hu.arguments, String.join_cons, String.join_nil]

/-- Sending a tool delivers what is new of its arguments, and leaves it up to date. -/
lemma Delivers.toolDelta (hu : u.Extends t rest) {explicitDelta : String}
    (hexplicit : explicitDelta = "" ∨ explicitDelta = rest) :
    ∃ v : ResponsesStreamTool, v.UpToDate ∧ v.key = t.key ∧ v.index = t.index ∧
      v.arguments = u.arguments ∧
      (s.toolDelta u explicitDelta).1.toolByKey = before ++ v :: after ∧
      (s.toolDelta u explicitDelta).1.Delivers (chunks ++ (s.toolDelta u explicitDelta).2) ∧
      contentOf (s.toolDelta u explicitDelta).2 = "" := by
  have ht : t ∈ s.toolByKey := by simp [htools]
  have hlen := h.argsSentAt t ht
  have hargs : (if explicitDelta = "" then unsentArguments u else explicitDelta) = rest := by
    rw [unsentArguments_of_extends hu hlen]
    rcases hexplicit with rfl | rfl <;> simp
  rw [ResponsesToChatStreamState.toolDelta, hargs]
  by_cases hquiet : u.sent = true ∧ rest = "" ∧ (u.name = "" ∨ u.nameSent = true)
  · rw [if_pos hquiet]
    obtain ⟨husent, rfl, hname⟩ := hquiet
    have hput := h.toolByKey_putTool htools hu.key
    have harguments : u.arguments = t.arguments := by simpa using hu.arguments
    refine ⟨u, ⟨husent, hname, ?_⟩, hu.key, hu.index, rfl, hput, ?_, rfl⟩
    · rw [hu.argsSentAt, hlen, harguments]
    · refine h.replace htools hput rfl hu.key hu.index ?_ (fun index _ => rfl) ?_ ?_
      · rw [hu.argsSentAt, hlen, harguments]
      · simpa [hu.sent] using (h.known t ht).1
      · simpa [harguments] using (h.known t ht).2
  · rw [if_neg hquiet]
    obtain ⟨hput, hdelivers, hcontent⟩ := h.sendTool htools hu
    refine ⟨markSent u rest, ⟨rfl, ?_, ?_⟩, hu.key, hu.index, rfl, hput, hdelivers, hcontent⟩
    · by_cases hname : u.name = "" <;> simp [markSent, hname]
    · rw [markSent, hu.argsSentAt, hlen, hu.arguments, String.length_append]

lemma Delivers.piecesAt_toolDelta (hu : u.Extends t rest) :
    piecesAt (chunks ++ (s.toolDelta u "").2) t.index ≠ [] := by
  obtain ⟨v, hv, -, hindex, -, hvtools, hdelivers, -⟩ := h.toolDelta htools hu (Or.inl rfl)
  rw [← hindex]
  exact (hdelivers.known v (by simp [hvtools])).1.mp hv.sent

/-- A tool that is up to date is not sent again. -/
lemma toolDelta_of_upToDate (ht : t.UpToDate) : s.toolDelta t "" = (s, []) := by
  have hrest : unsentArguments t = "" :=
    unsentArguments_of_extends ⟨rfl, rfl, rfl, rfl, (String.append_empty).symm⟩ ht.argsSentAt
  have hput : s.putTool t = s := by
    have htools' := h.toolByKey_putTool htools rfl
    rw [← htools] at htools'
    exact congrArg (fun tools => { s with toolByKey := tools }) htools'
  rw [toolDelta, hrest, if_pos ⟨ht.sent, rfl, ht.nameSent⟩, hput]

end

/-- A key of a tool that is up to date, where nothing waits. -/
lemma flushKey_of_upToDate (h : s.Delivers chunks) (hup : ∀ t ∈ s.toolByKey, t.UpToDate)
    (hp : s.NoPending) {key : ToolKey} (hkey : key ∈ s.toolByKey.map ResponsesStreamTool.key) :
    s.flushKey key = (s, []) := by
  obtain ⟨t, ht, rfl⟩ := mem_map.mp hkey
  obtain ⟨before, after, htools⟩ := append_of_mem ht
  have hquiet := toolDelta_of_upToDate h htools (hup t ht)
  have hindex : { s with pendingArgsByOutputIndex := ∅ } = s := by
    rw [← hp.byOutputIndex]
  have hitem : { s with pendingArgsByItemID := ∅ } = s := by
    rw [← hp.byItemID]
  have hfind := h.findTool_eq htools
  cases hkey : t.key with
  | output index =>
    rw [hkey] at hfind
    simp only [flushKey, hfind, hp.byOutputIndex, AList.lookup_empty, Option.getD_none,
      String.append_empty]
    exact (congrArg (·.toolDelta t "") hindex).trans hquiet
  | item id =>
    rw [hkey] at hfind
    simp only [flushKey, hfind, hp.byItemID, AList.lookup_empty, Option.getD_none,
      String.append_empty]
    exact (congrArg (·.toolDelta t "") hitem).trans hquiet
  | call id =>
    rw [hkey] at hfind
    simpa only [flushKey, hfind] using hquiet

lemma flushKeys_of_upToDate (h : s.Delivers chunks) (hup : ∀ t ∈ s.toolByKey, t.UpToDate)
    (hp : s.NoPending) :
    ∀ keys : List ToolKey, (∀ key ∈ keys, key ∈ s.toolByKey.map ResponsesStreamTool.key) →
      s.flushKeys keys = (s, [])
  | [], _ => rfl
  | key :: keys, hkeys => by
    rw [forall_mem_cons] at hkeys
    rw [flushKeys, flushKey_of_upToDate h hup hp hkeys.1]
    dsimp only
    rw [flushKeys_of_upToDate h hup hp keys hkeys.2]
    rfl

lemma flushAllPendingTools_of_upToDate (h : s.Delivers chunks)
    (hup : ∀ t ∈ s.toolByKey, t.UpToDate) (hp : s.NoPending) :
    s.flushAllPendingTools = (s, []) := by
  refine flushKeys_of_upToDate h hup hp _ fun key hkey => ?_
  simpa [pendingKeys, hp.byOutputIndex, hp.byItemID] using hkey

end ResponsesToChatStreamState

/-! ### The tool of an event -/

section

variable {s : ResponsesToChatStreamState} {event : ResponsesStreamResponse} {index : Int}
  {chunks : List ChatChunk}

/-- The state that knows a tool by where it stands and by its item. -/
def ResponsesToChatStreamState.register (s : ResponsesToChatStreamState) (index : Int)
    (itemID : String) (key : ToolKey) : ResponsesToChatStreamState :=
  { s with
    outputIndexToKey := Function.update s.outputIndexToKey index (some key)
    itemIDToKey := Function.update s.itemIDToKey itemID (some key) }

lemma ResponsesToChatStreamState.Delivers.register (h : s.Delivers chunks) (index : Int)
    (itemID : String) (key : ToolKey) : (s.register index itemID key).Delivers chunks :=
  ⟨h.next, h.indices, h.keys, h.argsSentAt, h.unknown, h.known⟩

/-- Where nothing waits for a tool, nothing is taken over. -/
lemma drain_of_noPending (h : s.NoPending) (tool : ResponsesStreamTool) (index : Int)
    (hitem : itemID ≠ "") :
    (s.drainOutputIndex tool (some index)).1.drainItemID
        (s.drainOutputIndex tool (some index)).2 itemID =
      (s.register index itemID tool.key, { tool with itemID := itemID }) := by
  simp [drainOutputIndex, drainItemID, register, hitem, h.byOutputIndex, h.byItemID]

section

variable (h : s.NoPending) (hindex : event.outputIndex = some index) (hid : eventItemID event ≠ "")
  (item : ResponsesOutput)

include h hindex hid

lemma ensureToolForEvent_of_find {t : ResponsesStreamTool}
    (ht : s.findTool (.output index) = some t) :
    s.ensureToolForEvent event item =
      some (s.register index (eventItemID event) t.key,
        describeTool { t with itemID := eventItemID event } item) := by
  simp only [ensureToolForEvent, keyForEvent, hindex, Option.map_some, ht,
    drain_of_noPending h t index hid]

lemma ensureToolForEvent_new (ht : s.findTool (.output index) = none) :
    s.ensureToolForEvent event item =
      some ((s.newTool (.output index) "").1.register index (eventItemID event) (.output index),
        describeTool { (s.newTool (.output index) "").2 with itemID := eventItemID event }
          item) := by
  have h' : (s.newTool (.output index) "").1.NoPending := ⟨h.byOutputIndex, h.byItemID⟩
  simp only [ensureToolForEvent, keyForEvent, hindex, Option.map_some, ht,
    drain_of_noPending h' _ index hid]
  rfl

end

/-- An item without its place in the output has a key of its own. -/
lemma ensureToolForEvent_terminal (h : s.Delivers chunks) (hp : s.NoPending)
    (hid : trimSpace item.id ≠ "") (ht : s.findTool (.item (trimSpace item.id)) = none) :
    ∃ s₁ t, s₁.Delivers chunks ∧ s₁.toolByKey = s.toolByKey ++ [t] ∧
      t.index = s.nextToolIndex ∧ t.arguments = "" ∧
      s.ensureToolForEvent { type := .other "", item := some item } item =
        some (s₁, describeTool { t with itemID := trimSpace item.id } item) := by
  have hnew := h.newTool ht ""
  refine ⟨{ (s.newTool (.item (trimSpace item.id)) "").1 with
    itemIDToKey := Function.update s.itemIDToKey (trimSpace item.id)
      (some (.item (trimSpace item.id))) }, (s.newTool (.item (trimSpace item.id)) "").2,
    ⟨hnew.next, hnew.indices, hnew.keys, hnew.argsSentAt, hnew.unknown, hnew.known⟩, rfl, rfl, rfl,
    ?_⟩
  simp [ensureToolForEvent, keyForEvent, eventItemID, hid, ht, drainOutputIndex, drainItemID,
    newTool, hp.byItemID]

end

end XinghaiApi
