import XinghaiApi.Service.BillingConservation

/-!
# Charges for realtime and audio usage

A usage report is priced from its text and audio tokens by the ratios of the model and the group.
During a realtime session every part of the usage is charged at once, against balances that are
read before; at the end the whole usage is priced again and settled through the billing session of
the request, or directly when the request has none.
-/

namespace XinghaiApi

open FundingSource

/-! ### Prices -/

/-- The ratios in force, as functions of the model and of the groups. -/
structure RatioSetting where
  completionRatio : String → ℚ
  audioRatio : String → ℚ
  audioCompletionRatio : String → ℚ
  modelRatio : String → ℚ
  groupRatio : String → ℚ
  /-- the ratio of a user group in a using group, where one is set -/
  groupGroupRatio : String → String → Option ℚ
  quotaPerUnit : ℚ

structure TokenDetails where
  textTokens : Int
  audioTokens : Int
deriving DecidableEq

structure QuotaInfo where
  inputDetails : TokenDetails
  outputDetails : TokenDetails
  modelName : String
  usePrice : Bool
  modelPrice : ℚ := 0
  modelRatio : ℚ
  groupRatio : ℚ
deriving DecidableEq

/-- The exact price of `calculateAudioQuota`, before it becomes an integer. With a ratio that is
not zero it is at least one unit when the tokens would give nothing or less. -/
def audioPrice (ratios : RatioSetting) (info : QuotaInfo) : ℚ :=
  if info.usePrice then info.modelPrice * ratios.quotaPerUnit * info.groupRatio
  else
    let completionRatio := ratios.completionRatio info.modelName
    let audioRatio := ratios.audioRatio info.modelName
    let audioCompletionRatio := ratios.audioCompletionRatio info.modelName
    let ratio := info.groupRatio * info.modelRatio
    let quota := (info.inputDetails.textTokens + info.outputDetails.textTokens * completionRatio +
      info.inputDetails.audioTokens * audioRatio +
      info.outputDetails.audioTokens * audioRatio * audioCompletionRatio) * ratio
    if ratio ≠ 0 ∧ quota ≤ 0 then 1 else quota

def calculateAudioQuota (ratios : RatioSetting) (info : QuotaInfo) : Int × Option QuotaClamp :=
  quotaFromDecimalChecked (audioPrice ratios info)

/-- A price per token is never negative, whatever the ratios and the counts are. -/
lemma audioPrice_nonneg (ratios : RatioSetting) {info : QuotaInfo} (h : info.usePrice = false) :
    0 ≤ audioPrice ratios info := by
  simp only [audioPrice, h, Bool.false_eq_true, if_false]
  split_ifs with hlow
  · exact zero_le_one
  · by_cases hratio : info.groupRatio * info.modelRatio = 0
    · rw [hratio, mul_zero]
    · exact (not_le.mp fun hle => hlow ⟨hratio, hle⟩).le

/-! ### Usage of a realtime session -/

structure InputTokenDetails where
  cachedTokens : Int := 0
  textTokens : Int := 0
  audioTokens : Int := 0
deriving DecidableEq

structure OutputTokenDetails where
  textTokens : Int := 0
  audioTokens : Int := 0
deriving DecidableEq

structure RealtimeUsage where
  totalTokens : Int := 0
  inputTokens : Int := 0
  outputTokens : Int := 0
  inputTokenDetails : InputTokenDetails := {}
  outputTokenDetails : OutputTokenDetails := {}
deriving DecidableEq

def RealtimeUsage.add (u v : RealtimeUsage) : RealtimeUsage where
  totalTokens := u.totalTokens + v.totalTokens
  inputTokens := u.inputTokens + v.inputTokens
  outputTokens := u.outputTokens + v.outputTokens
  inputTokenDetails :=
    { cachedTokens := u.inputTokenDetails.cachedTokens + v.inputTokenDetails.cachedTokens
      textTokens := u.inputTokenDetails.textTokens + v.inputTokenDetails.textTokens
      audioTokens := u.inputTokenDetails.audioTokens + v.inputTokenDetails.audioTokens }
  outputTokenDetails :=
    { textTokens := u.outputTokenDetails.textTokens + v.outputTokenDetails.textTokens
      audioTokens := u.outputTokenDetails.audioTokens + v.outputTokenDetails.audioTokens }

structure RealTimeTool where
  type : String
  name : String
  description : String
  parameters : String
deriving DecidableEq

/-- What the price helper has decided when the request begins. -/
structure PriceData where
  freeModel : Bool := false
  modelRatio : ℚ
  groupRatio : ℚ
  usePrice : Bool := false
  quotaToPreConsume : Int := 0
deriving DecidableEq

/-- The rest of the relay information that a realtime session reads and writes. -/
structure WssInfo where
  originModelName : String
  upstreamModelName : String
  userGroup : String := ""
  /-- the group that automatic selection has put into the context -/
  autoGroup : Option String := none
  usePrice : Bool := false
  priceData : PriceData
  realtimeTools : List RealTimeTool := []
  isFirstRequest : Bool := true
  inputAudioFormat : String := "pcm16"
  outputAudioFormat : String := "pcm16"
deriving DecidableEq

/-! ### Charges -/

/-- Charge an amount outside of a session, or give it back when it is negative. -/
def postConsumeQuota (faults : Faults) (quota : Int) (info : RelayInfo) (db : DB) :
    RelayInfo × DB × Option Error :=
  let funded : Except Error (RelayInfo × DB) :=
    if info.billingSource = "subscription" then
      if info.subscriptionId = 0 then .error .subscriptionIdMissing
      else if quota = 0 then .ok (info, db)
      else (attempt faults.funding
          (postConsumeUserSubscriptionDelta info.subscriptionId quota db)).map fun db' =>
        ({ info with subscriptionPostDelta := info.subscriptionPostDelta + quota }, db')
    else (attempt faults.funding (takeUserQuota info.userId quota db)).map fun db' => (info, db')
  match funded with
  | .error e          => (info, db, some e)
  | .ok (info', db₁) =>
    if info.isPlayground then (info', db₁, none)
    else
      match attempt faults.token (takeTokenQuota info.tokenId quota db₁) with
      | .error e => (info', db₁, some e)
      | .ok db₂  => (info', db₂, none)

/-- The balances as they are read, possibly from a stale cache; nothing if a read fails. -/
structure BalanceReads where
  userQuota : Option Int
  token : Option Token
deriving DecidableEq

/-- The usage as `PreWssConsumeQuota` prices it: by the ratios in force now. -/
def preWssQuotaInfo (ratios : RatioSetting) (wss : WssInfo) (info : RelayInfo)
    (usage : RealtimeUsage) : QuotaInfo :=
  let usingGroup := wss.autoGroup.getD info.usingGroup
  { inputDetails := ⟨usage.inputTokenDetails.textTokens, usage.inputTokenDetails.audioTokens⟩
    outputDetails := ⟨usage.outputTokenDetails.textTokens, usage.outputTokenDetails.audioTokens⟩
    modelName := wss.originModelName
    usePrice := wss.usePrice
    modelRatio := ratios.modelRatio wss.originModelName
    groupRatio := (ratios.groupGroupRatio wss.userGroup usingGroup).getD
      (ratios.groupRatio usingGroup) }

def preWssConsumeQuota (ratios : RatioSetting) (faults : Faults) (reads : BalanceReads)
    (wss : WssInfo) (usage : RealtimeUsage) (info : RelayInfo) (db : DB) :
    RelayInfo × DB × Option Error :=
  if wss.usePrice then (info, db, none)
  else
    match reads.userQuota, reads.token with
    | none, _                    => (info, db, some .database)
    | some _, none               => (info, db, some .recordNotFound)
    | some userQuota, some token =>
      let info' := { info with usingGroup := wss.autoGroup.getD info.usingGroup }
      let quota := (calculateAudioQuota ratios (preWssQuotaInfo ratios wss info usage)).1
      if userQuota < quota then (info', db, some (.userQuotaNotEnough userQuota quota))
      else if token.unlimitedQuota = false ∧ token.remainQuota < quota then
        (info', db, some (.tokenQuotaNotEnough token.remainQuota quota))
      else postConsumeQuota faults quota info' db

/-! ### Settlement -/

/-- How a request is billed: through a session, or without one when the model is free. -/
inductive Billing where
  | session (session : BillingSession)
  | skipped (info : RelayInfo)
deriving DecidableEq

namespace Billing

/-- The relay information of the request; a session shares it. -/
def relayInfo : Billing → RelayInfo
  | .session s    => s.relayInfo
  | .skipped info => info

def withRelayInfo (info : RelayInfo) : Billing → Billing
  | .session s => .session { s with relayInfo := info }
  | .skipped _ => .skipped info

/-- The amount the request has taken in advance. -/
def preConsumed : Billing → Int
  | .session s    => s.preConsumedQuota
  | .skipped info => info.finalPreConsumedQuota

end Billing

/-- The part of `Relay` that decides how a request is billed. -/
def openBilling (env : SessionEnv) (info : RelayInfo) (price : PriceData)
    (clamp : Option QuotaClamp) (db : DB) : DB × Except APIError Billing :=
  if price.freeModel then (db, .ok (.skipped info))
  else
    match preConsumeBilling env info price.quotaToPreConsume clamp db with
    | (db', .ok s)    => (db', .ok (.session s))
    | (db', .error e) => (db', .error e)

def settleBilling (faults : Faults) (actualQuota : Int) (billing : Billing) (db : DB) :
    Billing × DB × Option Error :=
  match billing with
  | .session s =>
    let r := s.settle faults actualQuota db
    (.session r.1, r.2.1, r.2.2)
  | .skipped info =>
    let quotaDelta := actualQuota - info.finalPreConsumedQuota
    if quotaDelta ≠ 0 then
      let r := postConsumeQuota faults quotaDelta info db
      (.skipped r.1, r.2.1, r.2.2)
    else (billing, db, none)

/-- The quota that `PostWssConsumeQuota` computes, by the ratios of the price data. A tiered
expression, where the model has one, replaces it; `tiered` is what it gives. The price of a call is
not passed on, so a model with a fixed price costs nothing here. -/
def postWssQuota (ratios : RatioSetting) (wss : WssInfo) (usage : RealtimeUsage)
    (tiered : Option Int) : Int :=
  let quotaInfo : QuotaInfo :=
    { inputDetails := ⟨usage.inputTokenDetails.textTokens, usage.inputTokenDetails.audioTokens⟩
      outputDetails := ⟨usage.outputTokenDetails.textTokens, usage.outputTokenDetails.audioTokens⟩
      modelName := wss.upstreamModelName
      usePrice := wss.priceData.usePrice
      modelRatio := wss.priceData.modelRatio
      groupRatio := wss.priceData.groupRatio }
  let quota := tiered.getD (calculateAudioQuota ratios quotaInfo).1
  if usage.totalTokens = 0 then 0 else quota

def postWssConsumeQuota (ratios : RatioSetting) (faults : Faults) (wss : WssInfo)
    (usage : RealtimeUsage) (tiered : Option Int) (billing : Billing) (db : DB) :
    Billing × DB × Option Error :=
  settleBilling faults (postWssQuota ratios wss usage tiered) billing db

/-! ### What a payment takes -/

variable {userId tokenId : Int}

/-- Between two databases the user and the token have both paid an amount. -/
structure DB.Paid (userId tokenId amount : Int) (before after : DB) : Prop where
  user : after.HasUser userId
  token : after.HasToken tokenId
  quota : after.userQuota userId = before.userQuota userId - amount
  remain : after.tokenRemain tokenId = before.tokenRemain tokenId - amount

section

variable {userId tokenId : Int} {db : DB}

lemma DB.Paid.refl (huser : db.HasUser userId) (htoken : db.HasToken tokenId) :
    DB.Paid userId tokenId 0 db db :=
  ⟨huser, htoken, (Int.sub_zero _).symm, (Int.sub_zero _).symm⟩

lemma DB.Paid.trans {x y : Int} {db₁ db₂ : DB} (h₁ : DB.Paid userId tokenId x db db₁)
    (h₂ : DB.Paid userId tokenId y db₁ db₂) : DB.Paid userId tokenId (x + y) db db₂ := by
  refine ⟨h₂.user, h₂.token, ?_, ?_⟩
  · rw [h₂.quota, h₁.quota, Int.sub_sub]
  · rw [h₂.remain, h₁.remain, Int.sub_sub]

lemma DB.paid_take (huser : db.HasUser userId) (htoken : db.HasToken tokenId) (amount : Int) :
    DB.Paid userId tokenId amount db
      ((db.addUserQuota userId (-amount)).addTokenQuota tokenId (-amount)) := by
  have htoken₁ : (db.addUserQuota userId (-amount)).HasToken tokenId := htoken
  refine ⟨hasUser_addUserQuota huser, hasToken_addTokenQuota htoken₁, ?_, ?_⟩
  · exact userQuota_addUserQuota huser
  · exact tokenRemain_addTokenQuota htoken₁

end

/-- The request is paid by this wallet and this token. -/
structure RelayInfo.PaidBy (userId tokenId : Int) (info : RelayInfo) : Prop where
  user : info.userId = userId
  token : info.tokenId = tokenId
  playground : info.isPlayground = false
  wallet : info.billingSource ≠ "subscription"

lemma postConsumeQuota_wallet {info : RelayInfo} (h : info.PaidBy userId tokenId) (quota : Int)
    (db : DB) :
    postConsumeQuota {} quota info db =
      (info, (db.addUserQuota userId (-quota)).addTokenQuota tokenId (-quota), none) := by
  simp only [postConsumeQuota, h.wallet, h.user, h.token, h.playground, if_false, attempt,
    Bool.false_eq_true, takeUserQuota_eq_ok, takeTokenQuota_eq_ok, Except.map]

/-! ### Parts of a usage that are charged -/

/-- A balance covers a price once the price is rounded and clamped. -/
def Covers (balance : Int) (price : ℚ) : Prop :=
  maxQuota ≤ balance ∨ price < balance + 1 / 2

instance Covers.decidable (balance : Int) (price : ℚ) : Decidable (Covers balance price) :=
  inferInstanceAs (Decidable (_ ∨ _))

lemma covers_iff {balance : Int} {price : ℚ} (h : 0 ≤ price) :
    Covers balance price ↔ (quotaFromDecimalChecked price).1 ≤ balance := by
  rw [quotaFromDecimal_eq h, min_le_iff]
  refine or_congr_right ?_
  rw [← Int.lt_add_one_iff, Int.floor_lt]
  push_cast
  constructor <;> intro hlt <;> linarith

def BalanceReads.Cover (reads : BalanceReads) (price : ℚ) : Prop :=
  match reads.userQuota, reads.token with
  | some userQuota, some token =>
    Covers userQuota price ∧ (token.unlimitedQuota = true ∨ Covers token.remainQuota price)
  | _, _ => False

instance BalanceReads.Cover.decidable :
    ∀ (reads : BalanceReads) (price : ℚ), Decidable (reads.Cover price)
  | ⟨some userQuota, some token⟩, price =>
    inferInstanceAs (Decidable (Covers userQuota price ∧
      (token.unlimitedQuota = true ∨ Covers token.remainQuota price)))
  | ⟨some _, none⟩, _ => .isFalse id
  | ⟨none, _⟩, _      => .isFalse id

lemma BalanceReads.cover_iff {reads : BalanceReads} {userQuota : Int} {token : Token} {price : ℚ}
    (huser : reads.userQuota = some userQuota) (htoken : reads.token = some token)
    (h : 0 ≤ price) :
    reads.Cover price ↔ (quotaFromDecimalChecked price).1 ≤ userQuota ∧
      (token.unlimitedQuota = true ∨ (quotaFromDecimalChecked price).1 ≤ token.remainQuota) := by
  simp only [BalanceReads.Cover, huser, htoken, covers_iff h]

section

variable (ratios : RatioSetting) (reads : BalanceReads) (wss : WssInfo) (usage : RealtimeUsage)
  (info : RelayInfo)

/-- A part of the usage that `PreWssConsumeQuota` takes something for: it costs at least half a
unit, and the balances cover it. -/
def WssCharged : Prop :=
  wss.usePrice = false ∧ 1 / 2 ≤ audioPrice ratios (preWssQuotaInfo ratios wss info usage) ∧
    reads.Cover (audioPrice ratios (preWssQuotaInfo ratios wss info usage))

instance WssCharged.decidable : Decidable (WssCharged ratios reads wss usage info) :=
  inferInstanceAs (Decidable (_ ∧ _))

/-- What `PreWssConsumeQuota` takes for a part of the usage. -/
def wssCharge : Int :=
  if WssCharged ratios reads wss usage info
    then (calculateAudioQuota ratios (preWssQuotaInfo ratios wss info usage)).1 else 0

lemma wssCharge_nonneg : 0 ≤ wssCharge ratios reads wss usage info := by
  unfold wssCharge
  split_ifs with h
  · exact saturateQuota_nonneg _
      (by exact_mod_cast roundHalfAway_nonneg (audioPrice_nonneg ratios h.1))
  · exact le_refl 0

lemma wssCharge_eq_zero_iff :
    wssCharge ratios reads wss usage info = 0 ↔ ¬ WssCharged ratios reads wss usage info := by
  unfold wssCharge
  split_ifs with h
  · have hprice : 0 ≤ audioPrice ratios (preWssQuotaInfo ratios wss info usage) :=
      audioPrice_nonneg ratios h.1
    rw [calculateAudioQuota, quotaFromDecimal_eq_zero_iff hprice]
    exact ⟨fun hlt => absurd h.2.1 (not_le.mpr hlt), fun hn => absurd h hn⟩
  · exact ⟨fun _ => h, fun _ => rfl⟩

variable {ratios reads wss usage info} {userId tokenId : Int} {db : DB} (faults : Faults)

lemma preWssConsumeQuota_of_cover (hprice : wss.usePrice = false)
    (hpays : reads.Cover (audioPrice ratios (preWssQuotaInfo ratios wss info usage))) :
    preWssConsumeQuota ratios faults reads wss usage info db =
      postConsumeQuota faults (calculateAudioQuota ratios (preWssQuotaInfo ratios wss info usage)).1
        { info with usingGroup := wss.autoGroup.getD info.usingGroup } db := by
  have hnonneg : 0 ≤ audioPrice ratios (preWssQuotaInfo ratios wss info usage) :=
    audioPrice_nonneg ratios hprice
  cases hquota : reads.userQuota with
  | none => simp [BalanceReads.Cover, hquota] at hpays
  | some userQuota =>
    cases hread : reads.token with
    | none => simp [BalanceReads.Cover, hread] at hpays
    | some token =>
      obtain ⟨hwallet, hlimit⟩ := (BalanceReads.cover_iff hquota hread hnonneg).mp hpays
      have hremain : ¬ (token.unlimitedQuota = false ∧ token.remainQuota <
          (calculateAudioQuota ratios (preWssQuotaInfo ratios wss info usage)).1) := by
        rintro ⟨hlimited, hlow⟩
        rcases hlimit with hunlimited | henough
        · cases hlimited.symm.trans hunlimited
        · exact absurd hlow (not_lt.mpr henough)
      simp only [preWssConsumeQuota, hprice, hquota, hread, Bool.false_eq_true, if_false]
      exact (if_neg (not_lt.mpr hwallet)).trans (if_neg hremain)

/-- Otherwise nothing is taken. -/
lemma preWssConsumeQuota_of_not_cover
    (h : wss.usePrice = true ∨
      ¬ reads.Cover (audioPrice ratios (preWssQuotaInfo ratios wss info usage))) :
    ∃ group e, preWssConsumeQuota ratios faults reads wss usage info db =
      ({ info with usingGroup := group }, db, e) := by
  unfold preWssConsumeQuota
  cases hprice : wss.usePrice with
  | true => exact ⟨_, _, rfl⟩
  | false =>
    have hpays := h.resolve_left (by simp [hprice])
    have hnonneg : 0 ≤ audioPrice ratios (preWssQuotaInfo ratios wss info usage) :=
      audioPrice_nonneg ratios hprice
    cases hquota : reads.userQuota with
    | none => exact ⟨_, _, rfl⟩
    | some userQuota =>
      cases hread : reads.token with
      | none => exact ⟨_, _, rfl⟩
      | some token =>
        simp only [Bool.false_eq_true, if_false]
        split_ifs with hwallet hlimit
        · exact ⟨_, _, rfl⟩
        · exact ⟨_, _, rfl⟩
        · rw [BalanceReads.cover_iff hquota hread hnonneg] at hpays
          refine absurd ⟨not_lt.mp hwallet, ?_⟩ hpays
          cases hunlimited : token.unlimitedQuota with
          | true => exact Or.inl rfl
          | false => exact Or.inr (not_lt.mp fun hlow => hlimit ⟨hunlimited, hlow⟩)

/-- What is charged is the price of the part, also where that is rounded down to nothing. -/
lemma wssCharge_of_cover (hprice : wss.usePrice = false)
    (hpays : reads.Cover (audioPrice ratios (preWssQuotaInfo ratios wss info usage))) :
    wssCharge ratios reads wss usage info =
      (calculateAudioQuota ratios (preWssQuotaInfo ratios wss info usage)).1 := by
  by_cases hhalf : 1 / 2 ≤ audioPrice ratios (preWssQuotaInfo ratios wss info usage)
  · exact if_pos ⟨hprice, hhalf, hpays⟩
  · rw [wssCharge, if_neg fun hc => hhalf hc.2.1]
    exact ((quotaFromDecimal_eq_zero_iff (audioPrice_nonneg ratios hprice)).mpr
      (not_le.mp hhalf)).symm

/-- A part of the usage is paid by the wallet and the token alike. Of the request only the group
may change. -/
lemma preWssConsumeQuota_paid (h : info.PaidBy userId tokenId) (huser : db.HasUser userId)
    (htoken : db.HasToken tokenId) :
    (∃ group, (preWssConsumeQuota ratios {} reads wss usage info db).1 =
        { info with usingGroup := group }) ∧
      DB.Paid userId tokenId (wssCharge ratios reads wss usage info) db
        (preWssConsumeQuota ratios {} reads wss usage info db).2.1 := by
  by_cases hpays : wss.usePrice = false ∧
      reads.Cover (audioPrice ratios (preWssQuotaInfo ratios wss info usage))
  · have hgroup : RelayInfo.PaidBy userId tokenId
        { info with usingGroup := wss.autoGroup.getD info.usingGroup } :=
      ⟨h.user, h.token, h.playground, h.wallet⟩
    rw [preWssConsumeQuota_of_cover {} hpays.1 hpays.2, postConsumeQuota_wallet hgroup,
      wssCharge_of_cover hpays.1 hpays.2]
    exact ⟨⟨_, rfl⟩, DB.paid_take huser htoken _⟩
  · have hnone : wssCharge ratios reads wss usage info = 0 :=
      if_neg fun hc => hpays ⟨hc.1, hc.2.2⟩
    have hrefused : wss.usePrice = true ∨
        ¬ reads.Cover (audioPrice ratios (preWssQuotaInfo ratios wss info usage)) := by
      rw [not_and_or, Bool.not_eq_false] at hpays
      exact hpays
    obtain ⟨group, e, hsame⟩ := @preWssConsumeQuota_of_not_cover ratios reads wss usage info db
      {} hrefused
    rw [hsame, hnone]
    exact ⟨⟨group, rfl⟩, .refl huser htoken⟩

end

/-! ### Billing through a wallet -/

variable {b : Billing}

/-- The request is paid by this wallet and this token, and its session has not been settled. -/
structure Billing.PaidBy (userId tokenId : Int) (b : Billing) : Prop where
  info : b.relayInfo.PaidBy userId tokenId
  session : ∀ s, b = .session s →
    s.settled = false ∧ s.fundingSettled = false ∧ s.funding.payer = some userId

/-- The request in another group is paid as before. -/
lemma Billing.PaidBy.regroup (h : b.PaidBy userId tokenId) (group : String) :
    (b.withRelayInfo { b.relayInfo with usingGroup := group }).PaidBy userId tokenId ∧
      (b.withRelayInfo { b.relayInfo with usingGroup := group }).preConsumed = b.preConsumed := by
  have hinfo : RelayInfo.PaidBy userId tokenId { b.relayInfo with usingGroup := group } :=
    ⟨h.info.user, h.info.token, h.info.playground, h.info.wallet⟩
  cases b with
  | session s =>
    refine ⟨⟨hinfo, ?_⟩, rfl⟩
    rintro _ ⟨⟩
    exact h.session s rfl
  | skipped info =>
    refine ⟨⟨hinfo, ?_⟩, rfl⟩
    intro s hs
    cases hs

/-- A new request of an existing user and token, in whose session no update fails. -/
structure SessionEnv.Clean (env : SessionEnv) (info : RelayInfo) (before : DB) : Prop where
  playground : info.isPlayground = false
  advance : info.finalPreConsumedQuota = 0
  user : before.HasUser info.userId
  token : before.HasToken info.tokenId
  wallet : env.wallet.faults = {}
  subscription : env.subscription.faults = {}

section

variable {env : SessionEnv} {info : RelayInfo} {quota : Int} {before db : DB} {s : BillingSession}

lemma tryWallet_relayInfo (h : tryWallet env info quota before = (db, .ok s)) :
    s.relayInfo.userId = info.userId ∧ s.relayInfo.tokenId = info.tokenId ∧
      s.relayInfo.isPlayground = info.isPlayground ∧ s.relayInfo.billingSource = "wallet" ∧
      s.funding.payer = some info.userId := by
  obtain ⟨_, hpre⟩ := tryWallet_eq_ok h
  exact BillingSession.preConsume_relayInfo hpre

/-- A session on the wallet has taken its advance from the wallet and from the token. -/
lemma newBillingSession_paid (hclean : env.Clean info before) (hquota : 0 ≤ quota)
    (h : newBillingSession env info quota before = (db, .ok s))
    (hwallet : s.relayInfo.billingSource ≠ "subscription") :
    (Billing.session s).PaidBy info.userId info.tokenId ∧
      DB.Paid info.userId info.tokenId s.preConsumedQuota before db := by
  obtain ⟨hsettled, -, hfunding⟩ := newBillingSession_flags h
  obtain ⟨db₀, hsame, htry | htry⟩ := newBillingSession_cases h
  · obtain rfl := hsame (by rw [hclean.wallet]) (by rw [hclean.subscription])
    have hopen := tryWallet_isOpen hclean.playground hclean.user hclean.token hquota htry
    obtain ⟨huser, htoken, hplay, hsource, hpayer⟩ := tryWallet_relayInfo htry
    cases hf : s.funding with
    | wallet w =>
      have hid : w.userId = info.userId := by simpa [payer, hf] using hpayer
      have htaken := hopen.fundingTaken
      have hpaid := hopen.tokenTaken
      have hbacked := hopen.backed
      have hhas := hopen.token
      simp only [BillingState.fundingTaken, hf, drawn, hid] at htaken
      simp only [BillingState.tokenTaken, htoken] at hpaid
      simp only [hf, Backed, hid] at hbacked
      simp only [htoken] at hhas
      refine ⟨⟨⟨huser, htoken, hplay.trans hclean.playground, ?_⟩, ?_⟩,
        ⟨hbacked, hhas, by omega, by omega⟩⟩
      · rw [Billing.relayInfo, hsource]
        decide
      · rintro _ ⟨⟩
        exact ⟨hsettled, hfunding, hpayer⟩
    | subscription sub => simp [payer, hf] at hpayer
  · exact absurd (BillingSession.preConsume_relayInfo htry).2.2.2.1 hwallet

/-- A request that the wallet pays has taken its advance from the wallet and from the token. -/
lemma openBilling_paid {price : PriceData} {clamp : Option QuotaClamp}
    (hclean : env.Clean info before) (h : openBilling env info price clamp before = (db, .ok b))
    (hwallet : b.relayInfo.billingSource ≠ "subscription") :
    b.PaidBy info.userId info.tokenId ∧
      DB.Paid info.userId info.tokenId b.preConsumed before db := by
  unfold openBilling at h
  split_ifs at h with hfree
  · obtain ⟨rfl, hb⟩ := Prod.mk.inj h
    obtain rfl := Except.ok.inj hb
    refine ⟨⟨⟨rfl, rfl, hclean.playground, hwallet⟩, ?_⟩, ?_⟩
    · intro s hs
      cases hs
    · rw [Billing.preConsumed, hclean.advance]
      exact .refl hclean.user hclean.token
  · split at h
    · rename_i db' s hpre
      obtain ⟨rfl, hb⟩ := Prod.mk.inj h
      obtain rfl := Except.ok.inj hb
      unfold preConsumeBilling at hpre
      split at hpre
      · cases (Prod.mk.inj hpre).2
      split_ifs at hpre with hneg
      · cases (Prod.mk.inj hpre).2
      · exact newBillingSession_paid hclean (not_lt.mp hneg) hpre hwallet
    · cases h

end

/-- A settlement without failures takes what is missing from the wallet and from the token. -/
lemma settleBilling_paid {db : DB} (h : b.PaidBy userId tokenId) (huser : db.HasUser userId)
    (htoken : db.HasToken tokenId) (actual : Int) :
    DB.Paid userId tokenId (actual - b.preConsumed) db (settleBilling {} actual b db).2.1 := by
  have hinfo := h.info
  cases b with
  | skipped info =>
    simp only [settleBilling, Billing.preConsumed]
    split_ifs with hdelta
    · have hpost := postConsumeQuota_wallet hinfo (actual - info.finalPreConsumedQuota) db
      simp only [Billing.relayInfo] at hpost
      rw [hpost]
      exact DB.paid_take huser htoken _
    · rw [not_not] at hdelta
      rw [hdelta]
      exact .refl huser htoken
  | session s =>
    obtain ⟨hsettled, hfunding, hpayer⟩ := h.session s rfl
    cases hf : s.funding with
    | subscription sub => simp [payer, hf] at hpayer
    | wallet w =>
      obtain rfl : w.userId = userId := by simpa [payer, hf] using hpayer
      obtain rfl : s.relayInfo.tokenId = tokenId := hinfo.token
      by_cases hdelta : actual - s.preConsumedQuota = 0
      · simp only [settleBilling, BillingSession.settle, hsettled, hdelta, Billing.preConsumed]
        exact .refl huser htoken
      · have hplay : s.relayInfo.isPlayground = false := hinfo.playground
        simp only [settleBilling, BillingSession.settle, hsettled, hdelta, hfunding, hf,
          settle, takeUserQuota_eq_ok, takeTokenQuota_eq_ok, hplay, Billing.preConsumed]
        exact DB.paid_take huser htoken _

end XinghaiApi
