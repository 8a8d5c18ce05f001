import XinghaiApi.Service.Quota

/-!
# Realtime sessions

A realtime request relays two streams of messages, from the client to the upstream and back. Each
stream has a reader. The readers count tokens, and whenever a response is done the usage so far is
charged; what is left is charged when the session ends, and then the sum of all parts is settled
once more.

Messages are handled one at a time, in any order of the two streams; a reader that stops ignores
what follows. The updates of the database succeed.
-/

namespace XinghaiApi

open Machine

/-! ### Messages -/

/-- The types of message that are treated differently from any other. -/
inductive RealtimeEventType where
  | sessionUpdate
  | inputAudioBufferAppend
  | responseDone
  | sessionUpdated
  | sessionCreated
  | responseAudioDelta
  | responseAudioTranscriptionDelta
  | responseFunctionCallArgumentsDelta
  | conversationItemCreated
  | other
deriving DecidableEq

structure RealtimeSession where
  instructions : String := ""
  inputAudioFormat : String := ""
  outputAudioFormat : String := ""
  tools : Option (List RealTimeTool) := none
deriving DecidableEq

structure RealtimeContent where
  type : String
  text : String := ""
deriving DecidableEq

structure RealtimeItem where
  type : String
  content : List RealtimeContent := []
deriving DecidableEq

structure RealtimeResponse where
  usage : Option RealtimeUsage := none
deriving DecidableEq

structure RealtimeEvent where
  type : RealtimeEventType
  session : Option RealtimeSession := none
  item : Option RealtimeItem := none
  response : Option RealtimeResponse := none
  delta : String := ""
  audio : String := ""
deriving DecidableEq

/-! ### Counting -/

/-- The tokenizers. Audio that cannot be decoded has no count. -/
structure TokenCounter where
  countTextToken : String → String → Int
  countAudioTokenInput : String → String → Option Int
  countAudioTokenOutput : String → String → Option Int
  countTokenInput : RealTimeTool → String → Int

/-- The text tokens and the audio tokens of a message. -/
def countTokenRealtime (counter : TokenCounter) (wss : WssInfo) (request : RealtimeEvent)
    (model : String) : Option (Int × Int) :=
  match request.type with
  | .sessionUpdate =>
    match request.session with
    | some session => some (counter.countTextToken session.instructions model, 0)
    | none         => some (0, 0)
  | .responseAudioDelta =>
    (counter.countAudioTokenOutput request.delta wss.outputAudioFormat).map fun t => (0, t)
  | .responseAudioTranscriptionDelta | .responseFunctionCallArgumentsDelta =>
    some (counter.countTextToken request.delta model, 0)
  | .inputAudioBufferAppend =>
    (counter.countAudioTokenInput request.audio wss.inputAudioFormat).map fun t => (0, t)
  | .conversationItemCreated =>
    match request.item with
    | some item =>
      if item.type = "message" then
        let texts := item.content.filter fun content => content.type == "input_text"
        some ((texts.map fun content => counter.countTextToken content.text model).sum, 0)
      else some (0, 0)
    | none => some (0, 0)
  | .responseDone =>
    -- the tools of the session count from the second response on
    if wss.isFirstRequest then some (0, 0)
    else some ((wss.realtimeTools.map fun tool => 8 + counter.countTokenInput tool model).sum, 0)
  | .sessionUpdated | .sessionCreated | .other => some (0, 0)

def RealtimeUsage.addInput (textToken audioToken : Int) (u : RealtimeUsage) : RealtimeUsage :=
  { u with
    totalTokens := u.totalTokens + (textToken + audioToken)
    inputTokens := u.inputTokens + (textToken + audioToken)
    inputTokenDetails := { u.inputTokenDetails with
      textTokens := u.inputTokenDetails.textTokens + textToken
      audioTokens := u.inputTokenDetails.audioTokens + audioToken } }

def RealtimeUsage.addOutput (textToken audioToken : Int) (u : RealtimeUsage) : RealtimeUsage :=
  { u with
    totalTokens := u.totalTokens + (textToken + audioToken)
    outputTokens := u.outputTokens + (textToken + audioToken)
    outputTokenDetails :=
      { textTokens := u.outputTokenDetails.textTokens + textToken
        audioTokens := u.outputTokenDetails.audioTokens + audioToken } }

/-! ### The handler -/

structure RealtimeState where
  wss : WssInfo
  billing : Billing
  db : DB
  /-- usage the upstream has reported since the last charge -/
  usage : RealtimeUsage := {}
  /-- usage counted here since the last charge -/
  localUsage : RealtimeUsage := {}
  sumUsage : RealtimeUsage := {}
  clientReading : Bool := true
  targetReading : Bool := true

/-- What a reader receives: a message, or nothing when the stream ends or cannot be parsed. Writing
the message on to the other side may fail. -/
inductive RealtimeMessage where
  | client (received : Option RealtimeEvent) (writeFails : Bool)
  | target (received : Option RealtimeEvent) (reads : BalanceReads) (writeFails : Bool)
deriving DecidableEq

/-- The steps of a session: the messages, and the two charges at its end. -/
inductive RealtimeInput where
  | received (message : RealtimeMessage)
  | flushUsage (reads : BalanceReads)
  | flushLocalUsage (reads : BalanceReads)
deriving DecidableEq

namespace RealtimeState

variable (ratios : RatioSetting) (counter : TokenCounter)

def preConsumeUsage (reads : BalanceReads) (usage : RealtimeUsage) (s : RealtimeState) :
    RealtimeState × Option Error :=
  let r := preWssConsumeQuota ratios {} reads s.wss usage s.billing.relayInfo s.db
  ({ s with
    sumUsage := s.sumUsage.add usage
    billing := s.billing.withRelayInfo r.1
    db := r.2.1 }, r.2.2)

/-- The client reader; the result says whether it goes on. -/
def clientMessage (event : RealtimeEvent) (s : RealtimeState) : RealtimeState × Bool :=
  let tools := if event.type = .sessionUpdate
    then (event.session.bind RealtimeSession.tools).getD s.wss.realtimeTools
    else s.wss.realtimeTools
  let wss := { s.wss with realtimeTools := tools }
  match countTokenRealtime counter wss event wss.upstreamModelName with
  | none => ({ s with wss := wss }, false)
  | some (textToken, audioToken) =>
    ({ s with wss := wss, localUsage := s.localUsage.addInput textToken audioToken }, true)

/-- A response is done. With a usage report it is charged for and the local count is dropped;
without one the local count is charged. A charge that fails leaves its usage to be charged again. -/
def responseDone (reads : BalanceReads) (event : RealtimeEvent) (s : RealtimeState) :
    RealtimeState × Bool :=
  match event.response with
  | none => (s, false) -- the reader panics
  | some response =>
    match response.usage with
    | some realtimeUsage =>
      let s₁ := { s with usage := s.usage.add realtimeUsage }
      match s₁.preConsumeUsage ratios reads s₁.usage with
      | (s₂, some _) => (s₂, false)
      | (s₂, none)   => ({ s₂ with usage := {}, localUsage := {} }, true)
    | none =>
      match countTokenRealtime counter s.wss event s.wss.upstreamModelName with
      | none => (s, false)
      | some (textToken, audioToken) =>
        let s₁ := { s with
          wss := { s.wss with isFirstRequest := false }
          localUsage := s.localUsage.addInput textToken audioToken }
        match s₁.preConsumeUsage ratios reads s₁.localUsage with
        | (s₂, some _) => (s₂, false)
        | (s₂, none)   => ({ s₂ with localUsage := {} }, true)

/-- The new audio formats of a session; an empty one keeps the old. -/
def sessionChanged (event : RealtimeEvent) (s : RealtimeState) : RealtimeState :=
  match event.session with
  | none         => s
  | some session =>
    { s with wss := { s.wss with
        inputAudioFormat := if session.inputAudioFormat = ""
          then s.wss.inputAudioFormat else session.inputAudioFormat
        outputAudioFormat := if session.outputAudioFormat = ""
          then s.wss.outputAudioFormat else session.outputAudioFormat } }

/-- The upstream reader; the result says whether it goes on. -/
def targetMessage (reads : BalanceReads) (event : RealtimeEvent) (s : RealtimeState) :
    RealtimeState × Bool :=
  if event.type = .responseDone then s.responseDone ratios counter reads event
  else if event.type = .sessionUpdated ∨ event.type = .sessionCreated then
    (s.sessionChanged event, true)
  else
    match countTokenRealtime counter s.wss event s.wss.upstreamModelName with
    | none => (s, false)
    | some (textToken, audioToken) =>
      ({ s with localUsage := s.localUsage.addOutput textToken audioToken }, true)

def receive (s : RealtimeState) : RealtimeMessage → RealtimeState
  | .client received writeFails =>
    if s.clientReading = false then s
    else
      match received with
      | none       => { s with clientReading := false }
      | some event =>
        let r := s.clientMessage counter event
        { r.1 with clientReading := r.2 && !writeFails }
  | .target received reads writeFails =>
    if s.targetReading = false then s
    else
      match received with
      | none       => { s with targetReading := false }
      | some event =>
        let r := s.targetMessage ratios counter reads event
        { r.1 with targetReading := r.2 && !writeFails }

def flush (reads : BalanceReads) (usage : RealtimeUsage) (s : RealtimeState) : RealtimeState :=
  if usage.totalTokens ≠ 0 then (s.preConsumeUsage ratios reads usage).1 else s

def step (s : RealtimeState) : RealtimeInput → RealtimeState
  | .received message      => s.receive ratios counter message
  | .flushUsage reads      => s.flush ratios reads s.usage
  | .flushLocalUsage reads => s.flush ratios reads s.localUsage

end RealtimeState

/-- The steps of a whole session: any messages, then what is left of both counts. -/
def sessionInputs (messages : List RealtimeMessage) (reads localReads : BalanceReads) :
    List RealtimeInput :=
  messages.map .received ++ [.flushUsage reads, .flushLocalUsage localReads]

def openaiRealtimeHandler (ratios : RatioSetting) (counter : TokenCounter)
    (messages : List RealtimeMessage) (reads localReads : BalanceReads) (s : RealtimeState) :
    RealtimeState :=
  run (RealtimeState.step ratios counter) s (sessionInputs messages reads localReads)

/-- What a request ends with: the quota that was computed for it, and the database. -/
structure WssOutcome where
  quota : Int
  db : DB

def wssHelper (ratios : RatioSetting) (counter : TokenCounter) (messages : List RealtimeMessage)
    (reads localReads : BalanceReads) (tiered : Option Int) (s : RealtimeState) : WssOutcome :=
  let served := openaiRealtimeHandler ratios counter messages reads localReads s
  { quota := postWssQuota ratios served.wss served.sumUsage tiered
    db := (postWssConsumeQuota ratios {} served.wss served.sumUsage tiered served.billing
      served.db).2.1 }

/-! ### Parts of the usage -/

namespace RealtimeState

variable (ratios : RatioSetting) (counter : TokenCounter) (s : RealtimeState)

/-- The part of the usage that a step hands over to be charged, with the balances as they are read
then. -/
def handed (s : RealtimeState) : RealtimeInput → Option (RealtimeUsage × BalanceReads)
  | .received (.target (some event) reads _) =>
    if s.targetReading = true ∧ event.type = .responseDone then
      match event.response with
      | none          => none
      | some response =>
        match response.usage with
        | some realtimeUsage => some (s.usage.add realtimeUsage, reads)
        | none               =>
          (countTokenRealtime counter s.wss event s.wss.upstreamModelName).map fun c =>
            (s.localUsage.addInput c.1 c.2, reads)
    else none
  | .received _ => none
  | .flushUsage reads => if s.usage.totalTokens ≠ 0 then some (s.usage, reads) else none
  | .flushLocalUsage reads =>
    if s.localUsage.totalTokens ≠ 0 then some (s.localUsage, reads) else none

/-- What a step takes from the wallet and from the token. -/
def charge (s : RealtimeState) (input : RealtimeInput) : Int :=
  match s.handed counter input with
  | some (usage, reads) => wssCharge ratios reads s.wss usage s.billing.relayInfo
  | none                => 0

/-- The step hands nothing over, or only a part that costs less than half a unit or is not covered
by the balances. -/
def Uncharged (s : RealtimeState) (input : RealtimeInput) : Prop :=
  match s.handed counter input with
  | some (usage, reads) => ¬ WssCharged ratios reads s.wss usage s.billing.relayInfo
  | none                => True

instance Uncharged.decidable (s : RealtimeState) (input : RealtimeInput) :
    Decidable (s.Uncharged ratios counter input) := by
  unfold Uncharged
  split <;> infer_instance

lemma charge_nonneg (input : RealtimeInput) : 0 ≤ s.charge ratios counter input := by
  unfold charge
  split
  · exact wssCharge_nonneg _ _ _ _ _
  · exact le_refl 0

lemma charge_eq_zero_iff (input : RealtimeInput) :
    s.charge ratios counter input = 0 ↔ s.Uncharged ratios counter input := by
  unfold charge Uncharged
  split
  · exact wssCharge_eq_zero_iff _ _ _ _ _
  · exact ⟨fun _ => trivial, fun _ => rfl⟩

/-! ### What the steps take -/

/-- The accounts after a step that hands nothing over, or hands a part over to be charged. -/
inductive Accounts (s s' : RealtimeState) : Option (RealtimeUsage × BalanceReads) → Prop where
  | kept (hbilling : s'.billing = s.billing) (hdb : s'.db = s.db) : Accounts s s' none
  | charged {usage : RealtimeUsage} {reads : BalanceReads}
      (hbilling : s'.billing = s.billing.withRelayInfo
        (preWssConsumeQuota ratios {} reads s.wss usage s.billing.relayInfo s.db).1)
      (hdb : s'.db =
        (preWssConsumeQuota ratios {} reads s.wss usage s.billing.relayInfo s.db).2.1) :
      Accounts s s' (some (usage, reads))

section

variable (s : RealtimeState) (reads : BalanceReads) (event : RealtimeEvent)

lemma flush_accounts (usage : RealtimeUsage) :
    Accounts ratios s (s.flush ratios reads usage)
      (if usage.totalTokens ≠ 0 then some (usage, reads) else none) := by
  unfold flush
  split_ifs
  · exact .charged rfl rfl
  · exact .kept rfl rfl

lemma clientMessage_accounts : Accounts ratios s (s.clientMessage counter event).1 none := by
  simp only [clientMessage]
  generalize countTokenRealtime counter _ event _ = count
  cases count <;> exact .kept rfl rfl

lemma responseDone_accounts {event : RealtimeEvent} (writeFails : Bool)
    (hreading : s.targetReading = true) (htype : event.type = .responseDone) :
    Accounts ratios s (s.responseDone ratios counter reads event).1
      (s.handed counter (.received (.target (some event) reads writeFails))) := by
  simp only [handed, hreading, htype, responseDone]
  cases hresponse : event.response with
  | none => exact .kept rfl rfl
  | some response =>
    cases husage : response.usage with
    | some realtimeUsage =>
      simp only [husage]
      split
      · rename_i heq
        obtain ⟨rfl, -⟩ := Prod.mk.inj heq
        exact .charged rfl rfl
      · rename_i heq
        obtain ⟨rfl, -⟩ := Prod.mk.inj heq
        exact .charged rfl rfl
    | none =>
      simp only [husage]
      cases countTokenRealtime counter s.wss event s.wss.upstreamModelName with
      | none => exact .kept rfl rfl
      | some c =>
        simp only [Option.map_some]
        split
        · rename_i heq
          obtain ⟨rfl, -⟩ := Prod.mk.inj heq
          exact .charged rfl rfl
        · rename_i heq
          obtain ⟨rfl, -⟩ := Prod.mk.inj heq
          exact .charged rfl rfl

lemma sessionChanged_accounts : Accounts ratios s (s.sessionChanged event) none := by
  unfold sessionChanged
  split <;> exact .kept rfl rfl

lemma targetMessage_accounts (writeFails : Bool) (hreading : s.targetReading = true) :
    Accounts ratios s (s.targetMessage ratios counter reads event).1
      (s.handed counter (.received (.target (some event) reads writeFails))) := by
  by_cases htype : event.type = .responseDone
  · rw [targetMessage, if_pos htype]
    exact responseDone_accounts ratios counter s reads writeFails hreading htype
  · have hnone : s.handed counter (.received (.target (some event) reads writeFails)) = none :=
      if_neg fun hc => htype hc.2
    rw [hnone, targetMessage]
    split_ifs
    · exact sessionChanged_accounts ratios s event
    · split <;> exact .kept rfl rfl

/-- Every step of a session leaves the accounts alone or charges the part it hands over. -/
lemma step_accounts (input : RealtimeInput) :
    Accounts ratios s (s.step ratios counter input) (s.handed counter input) := by
  cases input with
  | received message =>
    cases message with
    | client received writeFails =>
      simp only [step, receive]
      split_ifs
      · exact .kept rfl rfl
      · cases received with
        | none => exact .kept rfl rfl
        | some event =>
          cases clientMessage_accounts ratios counter s event with
          | kept hbilling hdb => exact .kept hbilling hdb
    | target received reads writeFails =>
      simp only [step, receive]
      cases hreading : s.targetReading with
      | false =>
        have hnone : s.handed counter (.received (.target received reads writeFails)) = none := by
          cases received <;> simp [handed, hreading]
        rw [hnone]
        exact .kept rfl rfl
      | true =>
        cases received with
        | none => exact .kept rfl rfl
        | some event =>
          have hmessage := targetMessage_accounts ratios counter s reads event writeFails hreading
          revert hmessage
          generalize s.handed counter (.received (.target (some event) reads writeFails)) = part
          intro hmessage
          cases hmessage with
          | kept hbilling hdb => exact .kept hbilling hdb
          | charged hbilling hdb => exact .charged hbilling hdb
  | flushUsage reads => exact flush_accounts ratios s reads s.usage
  | flushLocalUsage reads => exact flush_accounts ratios s reads s.localUsage

end

/-- The session is paid by a wallet and a token that exist. -/
structure PaidBy (userId tokenId : Int) (s : RealtimeState) : Prop where
  billing : s.billing.PaidBy userId tokenId
  user : s.db.HasUser userId
  token : s.db.HasToken tokenId

/-- From one state to the next the wallet and the token have paid an amount, and the advance is
untouched. -/
structure Pays (userId tokenId amount : Int) (s s' : RealtimeState) : Prop where
  paid : DB.Paid userId tokenId amount s.db s'.db
  advance : s'.billing.preConsumed = s.billing.preConsumed

variable {ratios counter} {userId tokenId : Int} {s : RealtimeState}

lemma Pays.trans {x y : Int} {s₁ s₂ : RealtimeState} (h₁ : Pays userId tokenId x s s₁)
    (h₂ : Pays userId tokenId y s₁ s₂) : Pays userId tokenId (x + y) s s₂ :=
  ⟨h₁.paid.trans h₂.paid, h₂.advance.trans h₁.advance⟩

lemma PaidBy.step (h : s.PaidBy userId tokenId) (input : RealtimeInput) :
    (s.step ratios counter input).PaidBy userId tokenId ∧
      Pays userId tokenId (s.charge ratios counter input) s (s.step ratios counter input) := by
  have haccounts := step_accounts ratios counter s input
  unfold charge
  generalize s.handed counter input = part at haccounts
  cases haccounts with
  | kept hbilling hdb =>
    refine ⟨⟨?_, ?_, ?_⟩, ?_, ?_⟩
    · rw [hbilling]
      exact h.billing
    · rw [hdb]
      exact h.user
    · rw [hdb]
      exact h.token
    · rw [hdb]
      exact .refl h.user h.token
    · rw [hbilling]
  | charged hbilling hdb =>
    rename_i usage reads
    obtain ⟨⟨group, hinfo⟩, hpaid⟩ := @preWssConsumeQuota_paid ratios reads s.wss usage
      s.billing.relayInfo userId tokenId s.db h.billing.info h.user h.token
    obtain ⟨hpaidBy, hadvance⟩ := h.billing.regroup group
    rw [hinfo] at hbilling
    rw [← hdb] at hpaid
    rw [← hbilling] at hpaidBy hadvance
    exact ⟨⟨hpaidBy, hpaid.user, hpaid.token⟩, hpaid, hadvance⟩

/-- A whole session is paid for the parts it has handed over. -/
lemma PaidBy.run (h : s.PaidBy userId tokenId) (inputs : List RealtimeInput) :
    (Machine.run (RealtimeState.step ratios counter) s inputs).PaidBy userId tokenId ∧
      Pays userId tokenId
        (total (RealtimeState.step ratios counter) (charge ratios counter) s inputs) s
        (Machine.run (RealtimeState.step ratios counter) s inputs) :=
  run_total (I := PaidBy userId tokenId) (fun _ hs => ⟨.refl hs.user hs.token, rfl⟩)
    (fun _ _ _ _ _ h₁ h₂ => h₁.trans h₂) (fun _ input hs => hs.step input) h inputs

end RealtimeState

/-! ### A session is charged for its parts and for their sum -/

/-- A session that the wallet pays ends with the wallet and the token charged for its usage once if
and only if no part of the usage is charged on the way: each costs less than half a unit, or the
balances do not cover it. -/
theorem realtime_charged_once_iff (ratios : RatioSetting) (counter : TokenCounter)
    (env : SessionEnv) (info : RelayInfo) (wss : WssInfo) (clamp : Option QuotaClamp)
    (before db : DB) (billing : Billing) (hclean : env.Clean info before)
    (hopen : openBilling env info wss.priceData clamp before = (db, .ok billing))
    (hwallet : billing.relayInfo.billingSource ≠ "subscription")
    (messages : List RealtimeMessage) (reads localReads : BalanceReads) (tiered : Option Int) :
    let start : RealtimeState := { wss := wss, billing := billing, db := db }
    let outcome := wssHelper ratios counter messages reads localReads tiered start
    (before.userQuota info.userId - outcome.db.userQuota info.userId = outcome.quota ∧
      before.tokenRemain info.tokenId - outcome.db.tokenRemain info.tokenId = outcome.quota) ↔
    Along (RealtimeState.step ratios counter) (RealtimeState.Uncharged ratios counter) start
      (sessionInputs messages reads localReads) := by
  intro start outcome
  obtain ⟨hbilling, hopened⟩ := openBilling_paid hclean hopen hwallet
  have hstart : start.PaidBy info.userId info.tokenId := ⟨hbilling, hopened.user, hopened.token⟩
  obtain ⟨hserved, hrun⟩ := @RealtimeState.PaidBy.run ratios counter _ _ start hstart
    (sessionInputs messages reads localReads)
  have hsettled := settleBilling_paid hserved.billing hserved.user hserved.token outcome.quota
  have hall := (hopened.trans hrun.paid).trans hsettled
  have hquota : outcome.db.userQuota info.userId = before.userQuota info.userId - _ := hall.quota
  have hremain : outcome.db.tokenRemain info.tokenId = before.tokenRemain info.tokenId - _ :=
    hall.remain
  have hadvance : _ = billing.preConsumed := hrun.advance
  rw [← total_eq_zero_iff_along (RealtimeState.charge_nonneg ratios counter)
    (RealtimeState.charge_eq_zero_iff ratios counter)]
  omega

/-! ### Two sessions -/

/-- Ratios that are all one but for the ratio of every model. -/
def flatRatios (modelRatio : ℚ) : RatioSetting where
  completionRatio _ := 1
  audioRatio _ := 1
  audioCompletionRatio _ := 1
  modelRatio _ := modelRatio
  groupRatio _ := 1
  groupGroupRatio _ _ := none
  quotaPerUnit := 500000

/-- A counter for streams without text and audio of their own. -/
def silentCounter : TokenCounter where
  countTextToken _ _ := 0
  countAudioTokenInput _ _ := some 0
  countAudioTokenOutput _ _ := some 0
  countTokenInput _ _ := 0

/-- The balances once an advance of 100 has been taken. -/
def advancedReads : BalanceReads where
  userQuota := some 900
  token := some
    { id := 1, key := "sk", remainQuota := 900, usedQuota := 100, unlimitedQuota := false }

def realtimeWss (modelRatio : ℚ) : WssInfo where
  originModelName := "gpt-4o-realtime-preview"
  upstreamModelName := "gpt-4o-realtime-preview"
  priceData := { modelRatio := modelRatio, groupRatio := 1, quotaToPreConsume := 100 }

/-- A report of input tokens only. -/
def textUsage (tokens : Int) : RealtimeUsage where
  totalTokens := tokens
  inputTokens := tokens
  inputTokenDetails := { textTokens := tokens }

def responseDoneMessage (usage : RealtimeUsage) : RealtimeMessage :=
  .target (some { type := .responseDone, response := some { usage := some usage } })
    advancedReads false

/-- A session at this ratio on the wallet, in which responses with these token counts are done. -/
def textSession (modelRatio : ℚ) (tokens : List Int) : WssOutcome :=
  wssHelper (flatRatios modelRatio) silentCounter
    (tokens.map fun n => responseDoneMessage (textUsage n)) advancedReads advancedReads none
    { wss := realtimeWss modelRatio, billing := .session walletSession, db := walletStart.db }

lemma walletEnv_clean : walletEnv.Clean walletInfo walletDB where
  playground := rfl
  advance := rfl
  user := by decide
  token := by decide
  wallet := rfl
  subscription := rfl

/-- Two responses cost 0.4 units each, so that neither is charged; their sum costs one unit. -/
theorem realtime_charged_once_rounded :
    (textSession (1 / 10) [4, 4]).quota = 1 ∧
      walletDB.userQuota 1 - (textSession (1 / 10) [4, 4]).db.userQuota 1 =
        (textSession (1 / 10) [4, 4]).quota ∧
      walletDB.tokenRemain 1 - (textSession (1 / 10) [4, 4]).db.tokenRemain 1 =
        (textSession (1 / 10) [4, 4]).quota := by
  refine ⟨by decide +kernel, ?_⟩
  exact (realtime_charged_once_iff (flatRatios (1 / 10)) silentCounter walletEnv walletInfo
    (realtimeWss (1 / 10)) none walletDB walletStart.db (.session walletSession) walletEnv_clean
    rfl (by decide) ([4, 4].map fun n => responseDoneMessage (textUsage n)) advancedReads
    advancedReads none).mpr (by decide +kernel)

/-- One response of ten units is charged when it is done and again at the end of the session. -/
theorem realtime_charged_twice :
    openBilling walletEnv walletInfo (realtimeWss 1).priceData none walletDB =
        (walletStart.db, .ok (.session walletSession)) ∧
      (textSession 1 [10]).quota = 10 ∧
      walletDB.userQuota 1 - (textSession 1 [10]).db.userQuota 1 = 20 ∧
      walletDB.tokenRemain 1 - (textSession 1 [10]).db.tokenRemain 1 = 20 := by
  refine ⟨rfl, by decide +kernel, by decide +kernel, by decide +kernel⟩

end XinghaiApi
