import XinghaiApi.Model.Task
import XinghaiApi.Service.BillingSession

/-!
# Billing of asynchronous tasks

A task that fails is refunded, and a task that succeeds may be settled to another quota than the one
it was charged. Both are a few statements, one after the other: the funding source, then the token,
then the quota of the task. When the funding source fails, the rest is dropped.
-/

namespace XinghaiApi

/-- The settings that the billing and the polling of tasks read. -/
structure TaskSetting where
  serverAddress : String := ""
  taskTimeoutMinutes : Int
  /-- the ratio of a model, and whether one is set -/
  modelRatio : String → ℚ × Bool
  groupRatio : String → ℚ
  groupGroupRatio : String → String → Option ℚ

def taskIsSubscription (t : Task) : Bool :=
  t.privateData.billingSource == "subscription" && decide (0 < t.privateData.subscriptionId)

/-- Take a difference from the funding source of the task, or give it back when it is negative. -/
def taskAdjustFunding (t : Task) (delta : Int) (db : DB) : Except Error DB :=
  if taskIsSubscription t
    then postConsumeUserSubscriptionDelta t.privateData.subscriptionId delta db
    else takeUserQuota t.userId delta db

/-- The key of a token, empty if the token is gone. -/
def resolveTokenKey (tokenId : Int) (db : DB) : String :=
  ((db.tokens.find tokenId).map Token.key).getD ""

/-- An error here is only logged. -/
def taskAdjustTokenQuota (fails : Bool) (t : Task) (delta : Int) (db : DB) : DB :=
  let tokenId := t.privateData.tokenId
  if tokenId ≤ 0 ∨ delta = 0 then db
  else if resolveTokenKey tokenId db = "" then db
  else db.orKeep (attempt fails (takeTokenQuota tokenId delta db))

def taskModelName (t : Task) : String :=
  match t.privateData.billingContext with
  | some bc => if bc.originModelName ≠ "" then bc.originModelName else t.originModelName
  | none    => t.originModelName

/-! ### Statements -/

/-- A statement that a call has still to make for its task. -/
inductive TaskStatement where
  | funding (delta : Int)
  | token (delta : Int)
  /-- the quota of the task, in memory and in the row -/
  | quota (actualQuota : Int)
  /-- the whole row, as it is in memory -/
  | save
deriving DecidableEq

def TaskStatement.isBilling : TaskStatement → Bool
  | .save => false
  | _     => true

def refundTaskQuota (t : Task) : List TaskStatement :=
  if t.quota = 0 then [] else [.funding (-t.quota), .token (-t.quota)]

def recalculateTaskQuota (actualQuota : Int) (t : Task) : List TaskStatement :=
  let quotaDelta := actualQuota - t.quota
  if actualQuota ≤ 0 ∨ quotaDelta = 0 then []
  else [.funding quotaDelta, .token quotaDelta, .quota actualQuota]

/-- The quota for a number of tokens, where the model has a ratio and the group is known. -/
def recalculateTaskQuotaByTokens (setting : TaskSetting) (totalTokens : Int) (db : DB) (t : Task) :
    List TaskStatement :=
  let (modelRatio, hasRatioSetting) := setting.modelRatio (taskModelName t)
  let group := if t.group = "" then ((db.users.find t.userId).map User.group).getD "" else t.group
  if totalTokens ≤ 0 ∨ hasRatioSetting = false ∨ modelRatio ≤ 0 ∨ group = "" then []
  else
    let groupRatio := (setting.groupGroupRatio group group).getD (setting.groupRatio group)
    let ratios := (t.privateData.billingContext.map TaskBillingContext.otherRatios).getD ∅
    let otherMultiplier := (OtherRatios.replaceOtherRatios ratios).1.otherRatioMultiplier
    let actual := saturateQuota (totalTokens * modelRatio * groupRatio * otherMultiplier)
      "QuotaFromFloat"
    recalculateTaskQuota actual.1 t

section

variable (setting : TaskSetting) (adjusted totalTokens : Int) (db : DB) (t : Task)

/-- `adjusted` is what the adaptor makes of the result of the task. -/
def settleTaskBillingOnComplete : List TaskStatement :=
  if (t.privateData.billingContext.map TaskBillingContext.perCallBilling).getD false then []
  else if 0 < adjusted then recalculateTaskQuota adjusted t
  else if 0 < totalTokens then recalculateTaskQuotaByTokens setting totalTokens db t
  else []

/-! ### What a billing consists of -/

/-- A settlement does nothing, or it moves the charge to a positive quota. -/
lemma settleOnComplete_cases :
    settleTaskBillingOnComplete setting adjusted totalTokens db t = [] ∨
      ∃ actual, 0 < actual ∧ settleTaskBillingOnComplete setting adjusted totalTokens db t =
        [.funding (actual - t.quota), .token (actual - t.quota), .quota actual] := by
  have hrecalculate : ∀ actual, recalculateTaskQuota actual t = [] ∨ 0 < actual ∧
      recalculateTaskQuota actual t =
        [.funding (actual - t.quota), .token (actual - t.quota), .quota actual] := by
    intro actual
    by_cases hskip : actual ≤ 0 ∨ actual - t.quota = 0
    · exact Or.inl (if_pos hskip)
    · exact Or.inr ⟨by omega, if_neg hskip⟩
  have hpick : ∀ actual, recalculateTaskQuota actual t = [] ∨
      ∃ actual', 0 < actual' ∧ recalculateTaskQuota actual t =
        [.funding (actual' - t.quota), .token (actual' - t.quota), .quota actual'] := by
    intro actual
    rcases hrecalculate actual with hnone | ⟨hpos, heq⟩
    · exact Or.inl hnone
    · exact Or.inr ⟨actual, hpos, heq⟩
  unfold settleTaskBillingOnComplete
  split_ifs
  · exact Or.inl rfl
  · exact hpick adjusted
  · unfold recalculateTaskQuotaByTokens
    simp only
    split_ifs
    · exact Or.inl rfl
    · exact hpick _
    · exact Or.inl rfl
    · exact hpick _
  · exact Or.inl rfl

end

/-- A refund leaves the row of the task alone. -/
lemma notMem_refundTaskQuota (t : Task) :
    .save ∉ refundTaskQuota t ∧ ∀ actual, .quota actual ∉ refundTaskQuota t := by
  unfold refundTaskQuota
  split_ifs <;> simp

lemma save_notMem_settleOnComplete (setting : TaskSetting)
    (adjusted totalTokens : Int) (db : DB) (t : Task) :
    .save ∉ settleTaskBillingOnComplete setting adjusted totalTokens db t := by
  rcases settleOnComplete_cases setting adjusted totalTokens db t with
    hnone | ⟨actual, -, heq⟩
  · simp [hnone]
  · simp [heq]

end XinghaiApi
