import XinghaiApi.Service.FundingSource

/-!
# Billing sessions

One request is billed through one session. The session takes an estimate from the token and from a
funding source in advance, may reserve more, and ends by settling the actual amount or by a refund.
Every update of the database may fail, and the refund runs later, one update at a time; which update
fails is an input of each call.
-/

namespace XinghaiApi

open Civil Text

/-! ### Requests -/

/-- The part of the relay information that billing reads and writes. -/
structure RelayInfo where
  requestId : String
  userId : Int
  tokenId : Int
  tokenUnlimited : Bool := false
  isPlayground : Bool := false
  forcePreConsume : Bool := false
  usingGroup : String := ""
  billingPreference : String := ""
  userQuota : Int := 0
  finalPreConsumedQuota : Int := 0
  billingSource : String := ""
  subscriptionId : Int := 0
  subscriptionPreConsumed : Int := 0
  subscriptionPostDelta : Int := 0
  subscriptionAmountTotal : Int := 0
  subscriptionAmountUsedAfterPreConsume : Int := 0
deriving DecidableEq

inductive ErrorCode where
  | preConsumeTokenQuotaFailed
  | insufficientUserQuota
  | updateDataError
  | queryDataError
  | modelPriceError
deriving DecidableEq

structure APIError where
  code : ErrorCode
  statusCode : ℕ
  text : String
deriving DecidableEq

/-- Which updates of a call the database fails. -/
structure Faults where
  funding : Bool := false
  token : Bool := false
  rollback : Bool := false
deriving DecidableEq

/-- The database after an update whose error is only logged. -/
def DB.orKeep (db : DB) (r : Except Error DB) : DB :=
  match r with
  | .ok db'  => db'
  | .error _ => db

/-- `tokenRemain` is the quota of the token as it is read, possibly from a stale cache; nothing if
the token cannot be read. -/
def preConsumeTokenQuota (fails : Bool) (tokenRemain : Option Int) (info : RelayInfo) (quota : Int)
    (db : DB) : Except Error DB :=
  if quota < 0 then .error .negativeQuota
  else if info.isPlayground then .ok db
  else
    match tokenRemain with
    | none        => .error .recordNotFound
    | some remain =>
      if !info.tokenUnlimited ∧ remain < quota then .error (.tokenQuotaNotEnough remain quota)
      else attempt fails (decreaseTokenQuota info.tokenId quota db)

/-! ### Sessions -/

structure BillingSession where
  relayInfo : RelayInfo
  funding : FundingSource
  preConsumedQuota : Int := 0
  tokenConsumed : Int := 0
  extraReserved : Int := 0
  trusted : Bool := false
  fundingSettled : Bool := false
  settled : Bool := false
  refunded : Bool := false
deriving DecidableEq

open BillingSession

variable {remain : Option Int} {info : RelayInfo}

inductive RefundUpdate where
  | funding (source : FundingSource)
  | extra (subscriptionId amount : Int)
  | token (tokenId amount : Int)
deriving DecidableEq

def RefundUpdate.exec (fails : Bool) (db : DB) : RefundUpdate → Except Error DB
  | .funding source              => source.refund fails db
  | .extra subscriptionId amount =>
    attempt fails (postConsumeUserSubscriptionDelta subscriptionId (-amount) db)
  | .token tokenId amount        => attempt fails (increaseTokenQuota tokenId amount db)

/-- What one attempt to take an advance meets: the clock, the rounds its resets may take, the quota
of the token as it is read, and the updates that fail. -/
structure AttemptEnv where
  now : Int
  fuel : ℕ
  tokenRemain : Option Int
  faults : Faults := {}
deriving DecidableEq

namespace BillingSession

def syncRelayInfo (s : BillingSession) : BillingSession :=
  let info := { s.relayInfo with
    finalPreConsumedQuota := s.preConsumedQuota
    billingSource := s.funding.source }
  match s.funding with
  | .subscription sub =>
    { s with relayInfo := { info with
        subscriptionId := sub.subscriptionId
        subscriptionPreConsumed := sub.preConsumed + s.extraReserved
        subscriptionPostDelta := 0
        subscriptionAmountTotal := sub.amountTotal
        subscriptionAmountUsedAfterPreConsume := sub.amountUsedAfter + s.extraReserved } }
  | .wallet _ =>
    { s with relayInfo := { info with subscriptionId := 0, subscriptionPreConsumed := 0 } }

section

variable (s : BillingSession)

@[simp] lemma syncRelayInfo_amounts :
    s.syncRelayInfo.funding = s.funding ∧ s.syncRelayInfo.preConsumedQuota = s.preConsumedQuota ∧
      s.syncRelayInfo.tokenConsumed = s.tokenConsumed ∧
      s.syncRelayInfo.extraReserved = s.extraReserved := by
  unfold syncRelayInfo
  split <;> exact ⟨rfl, rfl, rfl, rfl⟩

@[simp] lemma syncRelayInfo_flags :
    s.syncRelayInfo.settled = s.settled ∧ s.syncRelayInfo.refunded = s.refunded ∧
      s.syncRelayInfo.fundingSettled = s.fundingSettled := by
  unfold syncRelayInfo
  split <;> exact ⟨rfl, rfl, rfl⟩

@[simp] lemma syncRelayInfo_relayInfo :
    s.syncRelayInfo.relayInfo.userId = s.relayInfo.userId ∧
      s.syncRelayInfo.relayInfo.tokenId = s.relayInfo.tokenId ∧
      s.syncRelayInfo.relayInfo.isPlayground = s.relayInfo.isPlayground ∧
      s.syncRelayInfo.relayInfo.billingSource = s.funding.source := by
  unfold syncRelayInfo
  split <;> exact ⟨rfl, rfl, rfl, rfl⟩

lemma syncRelayInfo_subscriptionId {sub : SubscriptionFunding} (h : s.funding = .subscription sub) :
    s.syncRelayInfo.relayInfo.subscriptionId = sub.subscriptionId := by
  unfold syncRelayInfo
  simp only [h]

end

/-- The session after its funding source was adjusted by `delta`. -/
def markSettled (delta : Int) (s : BillingSession) : BillingSession :=
  let postDelta := if s.funding.source = "subscription"
    then s.relayInfo.subscriptionPostDelta + delta else s.relayInfo.subscriptionPostDelta
  { s with
    relayInfo := { s.relayInfo with subscriptionPostDelta := postDelta }
    fundingSettled := true
    settled := true }

/-- A settlement: the funding source first, then the token. When the token fails, the session is
settled all the same and the error is returned. -/
def settle (faults : Faults) (actualQuota : Int) (s : BillingSession) (db : DB) :
    BillingSession × DB × Option Error :=
  let delta := actualQuota - s.preConsumedQuota
  if s.settled then (s, db, none)
  else if delta = 0 then ({ s with settled := true }, db, none)
  else
    match if s.fundingSettled then .ok db else s.funding.settle faults.funding delta db with
    | .error e => (s, db, some e)
    | .ok db₁  =>
      let token := if s.relayInfo.isPlayground then .ok db₁
        else attempt faults.token (takeTokenQuota s.relayInfo.tokenId delta db₁)
      match token with
      | .ok db₂  => (s.markSettled delta, db₂, none)
      | .error e => (s.markSettled delta, db₁, some e)

section

variable (s : BillingSession)

def needsRefundLocked : Bool :=
  if s.settled || s.refunded || s.fundingSettled then false
  else if 0 < s.tokenConsumed then true
  else
    match s.funding with
    | .subscription sub => decide (0 < sub.preConsumed)
    | .wallet _         => false

/-- The updates of the refund job after the one of the funding source. -/
def laterUpdates : List RefundUpdate :=
  let extra := if 0 < s.extraReserved ∧ s.funding.source = "subscription" ∧
      0 < s.relayInfo.subscriptionId
    then [.extra s.relayInfo.subscriptionId s.extraReserved] else []
  let token := if 0 < s.tokenConsumed ∧ s.relayInfo.isPlayground = false
    then [.token s.relayInfo.tokenId s.tokenConsumed] else []
  extra ++ token

/-- The updates of the refund job, with the values it copies from the session. -/
def refundUpdates : List RefundUpdate :=
  .funding s.funding :: s.laterUpdates

/-- A refund marks the session and leaves its updates to a job. -/
def refund : BillingSession × List RefundUpdate :=
  if s.settled || s.refunded || !s.needsRefundLocked then (s, [])
  else ({ s with refunded := true }, s.refundUpdates)

end

def reserveFunding (fails : Bool) (delta : Int) (s : BillingSession) (db : DB) :
    Except APIError (FundingSource × DB) :=
  match s.funding with
  | .wallet w =>
    match attempt fails (decreaseUserQuota w.userId delta db) with
    | .error e => .error ⟨.updateDataError, 500, e.text⟩
    | .ok db'  => .ok (.wallet { w with consumed := w.consumed + delta }, db')
  | .subscription sub =>
    match attempt fails (postConsumeUserSubscriptionDelta sub.subscriptionId delta db) with
    | .error e => .error ⟨.insufficientUserQuota, 403, "订阅额度不足或未配置订阅: " ++ e.text⟩
    | .ok db'  => .ok (.subscription sub, db')

def rollbackFundingReserve (fails : Bool) (delta : Int) (funding : FundingSource) (db : DB) :
    FundingSource × DB :=
  match funding with
  | .wallet w =>
    match attempt fails (increaseUserQuota w.userId delta db) with
    | .error _ => (.wallet w, db)
    | .ok db'  => (.wallet { w with consumed := w.consumed - delta }, db')
  | .subscription sub =>
    (.subscription sub, db.orKeep
      (attempt fails (postConsumeUserSubscriptionDelta sub.subscriptionId (-delta) db)))

def reserveToken (fails : Bool) (tokenRemain : Option Int) (delta : Int) (s : BillingSession)
    (db : DB) : Except APIError DB :=
  if delta ≤ 0 ∨ s.relayInfo.isPlayground then .ok db
  else
    match preConsumeTokenQuota fails tokenRemain s.relayInfo delta db with
    | .error e => .error ⟨.preConsumeTokenQuotaFailed, 403, e.text⟩
    | .ok db'  => .ok db'

/-- Raise the amount taken in advance to a target. -/
def reserve (faults : Faults) (tokenRemain : Option Int) (targetQuota : Int) (s : BillingSession)
    (db : DB) : BillingSession × DB × Option APIError :=
  let delta := targetQuota - s.preConsumedQuota
  if s.settled || s.refunded || s.trusted || decide (targetQuota ≤ s.preConsumedQuota) then
    (s, db, none)
  else
    match s.reserveFunding faults.funding delta db with
    | .error e            => (s, db, some e)
    | .ok (funding, db₁) =>
      match s.reserveToken faults.token tokenRemain delta db₁ with
      | .error e =>
        let (funding', db₂) := rollbackFundingReserve faults.rollback delta funding db₁
        ({ s with funding := funding' }, db₂, some e)
      | .ok db₂  =>
        (syncRelayInfo { s with
          funding := funding
          preConsumedQuota := s.preConsumedQuota + delta
          tokenConsumed := s.tokenConsumed + delta
          extraReserved := s.extraReserved + delta }, db₂, none)

/-! ### Creation -/

/-- Whether an advance is waived. Only a wallet can be trusted: a subscription always takes the
amount it was made with. -/
def shouldTrust (trustQuota tokenQuota : Int) (s : BillingSession) : Bool :=
  if s.relayInfo.forcePreConsume then false
  else if trustQuota ≤ 0 then false
  else if !(s.relayInfo.tokenUnlimited || decide (trustQuota < tokenQuota)) then false
  else
    match s.funding with
    | .wallet _       => decide (trustQuota < s.relayInfo.userQuota)
    | .subscription _ => false

/-- The error of an advance that the funding source refused. -/
def fundingError (e : Error) : APIError :=
  match e with
  | .noActiveSubscription | .quotaInsufficient _ =>
    ⟨.insufficientUserQuota, 403, "订阅额度不足或未配置订阅: " ++ e.text⟩
  | _ => ⟨.updateDataError, 500, e.text⟩

/-- Take the advance: from the token first, then from the funding source. A token that has paid is
paid back when the source refuses, and the database is returned with the error as well. -/
def preConsume (loc : Location) (trustQuota tokenQuota : Int) (env : AttemptEnv) (quota : Int)
    (s : BillingSession) (db : DB) : DB × Except APIError BillingSession :=
  let trusted := s.shouldTrust trustQuota tokenQuota
  let effectiveQuota := if trusted then 0 else quota
  let tokenPart := if 0 < effectiveQuota
    then preConsumeTokenQuota env.faults.token env.tokenRemain s.relayInfo effectiveQuota db
    else .ok db
  match tokenPart with
  | .error e => (db, .error ⟨.preConsumeTokenQuotaFailed, 403, e.text⟩)
  | .ok db₁  =>
    let tokenConsumed := if 0 < effectiveQuota then effectiveQuota else 0
    match s.funding.preConsume loc env.fuel env.now env.faults.funding effectiveQuota db₁ with
    | .error e =>
      let db₂ := if 0 < tokenConsumed ∧ s.relayInfo.isPlayground = false
        then db₁.orKeep (attempt env.faults.rollback
          (increaseTokenQuota s.relayInfo.tokenId tokenConsumed db₁))
        else db₁
      (db₂, .error (fundingError e))
    | .ok (funding, db₂) =>
      (db₂, .ok (syncRelayInfo { s with
        funding := funding
        tokenConsumed := tokenConsumed
        preConsumedQuota := effectiveQuota
        trusted := trusted }))

end BillingSession

inductive BillingPreference where
  | subscriptionFirst
  | walletFirst
  | subscriptionOnly
  | walletOnly
deriving DecidableEq

def normalizeBillingPreference (pref : String) : BillingPreference :=
  if trimSpace pref = "wallet_first" then .walletFirst
  else if trimSpace pref = "subscription_only" then .subscriptionOnly
  else if trimSpace pref = "wallet_only" then .walletOnly
  else .subscriptionFirst

def hasActiveUserSubscriptionForGroup (now userId : Int) (usingGroup : String) (db : DB) :
    Except Error Bool :=
  if userId ≤ 0 then .error .invalidUserId
  else .ok (db.subscriptions.rows.any fun r =>
    r.userId == userId && r.status == .active && decide (now < r.endTime) &&
      subscriptionMatchesUsingGroup r usingGroup)

def userActiveSubscriptionsAllowWalletOverflow (now userId : Int) (db : DB) : Except Error Bool :=
  if userId ≤ 0 then .error .invalidUserId
  else .ok (!db.subscriptions.rows.any fun r =>
    r.userId == userId && r.status == .active && decide (now < r.endTime) && !r.allowWalletOverflow)

/-- What the creation of a session meets. No path tries the wallet or a subscription twice. -/
structure SessionEnv where
  loc : Location
  trustQuota : Int
  /-- the quota of the token in the context of the request -/
  tokenQuota : Int
  /-- the quota of the user as it is read, possibly from a stale cache -/
  userQuota : Option Int
  /-- when the subscriptions of the group are looked up, and whether that fails -/
  groupNow : Int
  groupFails : Bool := false
  overflowNow : Int
  overflowFails : Bool := false
  wallet : AttemptEnv
  subscription : AttemptEnv

section

variable (env : SessionEnv) (info : RelayInfo) (preConsumedQuota : Int)

def tryWallet (db : DB) : DB × Except APIError BillingSession :=
  match env.userQuota with
  | none           => (db, .error ⟨.queryDataError, 500, Error.database.text⟩)
  | some userQuota =>
    if userQuota ≤ 0 then
      (db, .error ⟨.insufficientUserQuota, 403, s!"用户额度不足, 剩余额度: {userQuota}"⟩)
    else if userQuota - preConsumedQuota < 0 then
      (db, .error ⟨.insufficientUserQuota, 403,
        s!"预扣费额度失败, 用户剩余额度: {userQuota}, 需要预扣费额度: {preConsumedQuota}"⟩)
    else
      preConsume env.loc env.trustQuota env.tokenQuota env.wallet preConsumedQuota
        { relayInfo := { info with userQuota := userQuota }
          funding := .wallet { userId := info.userId } } db

/-- A subscription takes at least one unit. -/
def trySubscription (db : DB) : DB × Except APIError BillingSession :=
  let subConsume := if preConsumedQuota ≤ 0 then 1 else preConsumedQuota
  preConsume env.loc env.trustQuota env.tokenQuota env.subscription subConsume
    { relayInfo := info
      funding := .subscription
        { requestId := info.requestId, userId := info.userId, usingGroup := info.usingGroup,
          amount := subConsume } } db

def hasSubscriptionForGroup (db : DB) : Except APIError Bool :=
  match attempt env.groupFails
      (hasActiveUserSubscriptionForGroup env.groupNow info.userId info.usingGroup db) with
  | .error e => .error ⟨.queryDataError, 500, e.text⟩
  | .ok b    => .ok b

def newBillingSession (db : DB) : DB × Except APIError BillingSession :=
  match normalizeBillingPreference info.billingPreference with
  | .subscriptionOnly =>
    match hasSubscriptionForGroup env info db with
    | .error e  => (db, .error e)
    | .ok false =>
      (db, .error ⟨.insufficientUserQuota, 403, "当前分组 " ++ info.usingGroup ++ " 未配置可用订阅"⟩)
    | .ok true  => trySubscription env info preConsumedQuota db
  | .walletOnly => tryWallet env info preConsumedQuota db
  | .walletFirst =>
    match tryWallet env info preConsumedQuota db with
    | (db₁, .ok session) => (db₁, .ok session)
    | (db₁, .error e)    =>
      if e.code ≠ .insufficientUserQuota then (db₁, .error e)
      else
        match hasSubscriptionForGroup env info db₁ with
        | .error e' => (db₁, .error e')
        | .ok false => (db₁, .error e)
        | .ok true  => trySubscription env info preConsumedQuota db₁
  | .subscriptionFirst =>
    match hasSubscriptionForGroup env info db with
    | .error e  => (db, .error e)
    | .ok false => tryWallet env info preConsumedQuota db
    | .ok true  =>
      match trySubscription env info preConsumedQuota db with
      | (db₁, .ok session) => (db₁, .ok session)
      | (db₁, .error e)    =>
        if e.code ≠ .insufficientUserQuota then (db₁, .error e)
        else
          match attempt env.overflowFails
              (userActiveSubscriptionsAllowWalletOverflow env.overflowNow info.userId db₁) with
          | .error e' => (db₁, .error ⟨.queryDataError, 500, e'.text⟩)
          | .ok true  => tryWallet env info preConsumedQuota db₁
          | .ok false => (db₁, .error e)

/-- `PreConsumeBilling`: an estimate that was clamped or is negative is refused. -/
def preConsumeBilling (clamp : Option QuotaClamp) (db : DB) : DB × Except APIError BillingSession :=
  match clamp with
  | some c => (db, .error ⟨.modelPriceError, 400, c.error⟩)
  | none   =>
    if preConsumedQuota < 0 then
      (db, .error ⟨.modelPriceError, 400,
        s!"pre-consume quota cannot be negative: {preConsumedQuota}"⟩)
    else newBillingSession env info preConsumedQuota db

end

/-! ### What a creation does -/

lemma preConsumeTokenQuota_eq_ok {fails : Bool} {quota : Int} {db db' : DB}
    (hplay : info.isPlayground = false)
    (h : preConsumeTokenQuota fails remain info quota db = .ok db') :
    0 ≤ quota ∧ db' = db.addTokenQuota info.tokenId (-quota) := by
  unfold preConsumeTokenQuota at h
  split at h
  · cases h
  rename_i hquota
  rw [if_neg (by simp [hplay])] at h
  split at h
  · cases h
  split at h
  · cases h
  rw [attempt_eq_ok, decreaseTokenQuota_eq_ok (not_lt.mp hquota)] at h
  exact ⟨not_lt.mp hquota, (Except.ok.inj h.2).symm⟩

lemma preConsumeTokenQuota_playground {fails : Bool} {quota : Int} {db db' : DB}
    (hplay : info.isPlayground = true)
    (h : preConsumeTokenQuota fails remain info quota db = .ok db') : db' = db := by
  simp only [preConsumeTokenQuota, hplay, if_true] at h
  split_ifs at h
  exact (Except.ok.inj h).symm

section

variable {loc : Location} {trustQuota tokenQuota quota : Int} {attemptEnv : AttemptEnv}
  {s s' : BillingSession} {db db' : DB} {e : APIError}

/-- The amount a session takes in advance: nothing when it is trusted. -/
def BillingSession.effectiveQuota (trustQuota tokenQuota quota : Int) (s : BillingSession) : Int :=
  if s.shouldTrust trustQuota tokenQuota then 0 else quota

/-- An advance that is refused leaves the database as it was, if the token can be paid back. -/
lemma BillingSession.preConsume_error (hrollback : attemptEnv.faults.rollback = false)
    (h : s.preConsume loc trustQuota tokenQuota attemptEnv quota db = (db', .error e)) :
    db' = db := by
  unfold preConsume at h
  simp only [← effectiveQuota.eq_def] at h
  by_cases hpos : 0 < s.effectiveQuota trustQuota tokenQuota quota
  · simp only [hpos, if_true] at h
    split at h
    · exact (Prod.mk.inj h).1.symm
    · rename_i db₁ htoken
      split at h
      · obtain rfl := (Prod.mk.inj h).1
        cases hplay : s.relayInfo.isPlayground with
        | true => simp [preConsumeTokenQuota_playground hplay htoken]
        | false =>
          obtain ⟨hquota, rfl⟩ := preConsumeTokenQuota_eq_ok hplay htoken
          simp [hrollback, attempt, increaseTokenQuota_eq_ok hquota, DB.orKeep,
            addTokenQuota_cancel]
      · cases h
  · simp only [hpos, if_false] at h
    split at h
    · simpa using (Prod.mk.inj h).1.symm
    · cases h

section

variable (h : s.preConsume loc trustQuota tokenQuota attemptEnv quota db = (db', .ok s'))

include h

/-- A session that is created has neither been settled nor refunded. -/
lemma BillingSession.preConsume_flags :
    s'.settled = s.settled ∧ s'.refunded = s.refunded ∧ s'.fundingSettled = s.fundingSettled := by
  unfold preConsume at h
  simp only at h
  split at h
  · cases h
  split at h
  · cases h
  · obtain rfl := Except.ok.inj (Prod.mk.inj h).2
    exact syncRelayInfo_flags _

/-- A session that is created belongs to its request, and its source is the one it was made with. -/
lemma BillingSession.preConsume_relayInfo :
    s'.relayInfo.userId = s.relayInfo.userId ∧ s'.relayInfo.tokenId = s.relayInfo.tokenId ∧
      s'.relayInfo.isPlayground = s.relayInfo.isPlayground ∧
      s'.relayInfo.billingSource = s.funding.source ∧ s'.funding.payer = s.funding.payer := by
  unfold preConsume at h
  simp only at h
  split at h
  · cases h
  split at h
  · cases h
  · rename_i funding db₂ hpre
    obtain rfl := Except.ok.inj (Prod.mk.inj h).2
    obtain ⟨hsource, hpayer⟩ := FundingSource.preConsume_source hpre
    simp [hsource, hpayer]

end

end

section

variable {env : SessionEnv} {info : RelayInfo} {quota : Int} {db db' : DB} {s : BillingSession}
  {e : APIError}

lemma tryWallet_error (hrollback : env.wallet.faults.rollback = false)
    (h : tryWallet env info quota db = (db', .error e)) : db' = db := by
  unfold tryWallet at h
  split at h
  · exact (Prod.mk.inj h).1.symm
  split at h
  · exact (Prod.mk.inj h).1.symm
  split at h
  · exact (Prod.mk.inj h).1.symm
  · exact preConsume_error hrollback h

/-- A session on the wallet comes from a pre-consumption, whatever quota was read. -/
lemma tryWallet_eq_ok (h : tryWallet env info quota db = (db', .ok s)) :
    ∃ userQuota, preConsume env.loc env.trustQuota env.tokenQuota env.wallet quota
      { relayInfo := { info with userQuota := userQuota }
        funding := .wallet { userId := info.userId } } db = (db', .ok s) := by
  unfold tryWallet at h
  split at h
  · cases h
  split at h
  · cases h
  split at h
  · cases h
  · exact ⟨_, h⟩

/-- A session comes from one attempt, and the database before that attempt is the first one if
tokens can be paid back: an attempt that was refused earlier then has left no trace. -/
lemma newBillingSession_cases (h : newBillingSession env info quota db = (db', .ok s)) :
    ∃ db₀, (env.wallet.faults.rollback = false → env.subscription.faults.rollback = false →
        db₀ = db) ∧
      (tryWallet env info quota db₀ = (db', .ok s) ∨
        trySubscription env info quota db₀ = (db', .ok s)) := by
  unfold newBillingSession at h
  split at h
  · split at h
    · cases h
    · cases h
    · exact ⟨db, fun _ _ => rfl, Or.inr h⟩
  · exact ⟨db, fun _ _ => rfl, Or.inl h⟩
  · split at h
    · rename_i db₁ session htry
      exact ⟨db, fun _ _ => rfl, Or.inl (htry.trans h)⟩
    · rename_i db₁ e₁ htry
      split at h
      · cases h
      split at h
      · cases h
      · cases h
      · exact ⟨db₁, fun hw _ => tryWallet_error hw htry, Or.inr h⟩
  · split at h
    · cases h
    · exact ⟨db, fun _ _ => rfl, Or.inl h⟩
    · split at h
      · rename_i db₁ session htry
        exact ⟨db, fun _ _ => rfl, Or.inr (htry.trans h)⟩
      · rename_i db₁ e₁ htry
        split at h
        · cases h
        split at h
        · cases h
        · exact ⟨db₁, fun _ hs => preConsume_error hs htry, Or.inl h⟩
        · cases h

lemma newBillingSession_flags (h : newBillingSession env info quota db = (db', .ok s)) :
    s.settled = false ∧ s.refunded = false ∧ s.fundingSettled = false := by
  obtain ⟨db₀, -, htry | htry⟩ := newBillingSession_cases h
  · obtain ⟨_, hpre⟩ := tryWallet_eq_ok htry
    exact preConsume_flags hpre
  · exact preConsume_flags htry

end

end XinghaiApi
