import XinghaiApi.Common.QuotaMath
import XinghaiApi.Lib.Except
import XinghaiApi.Lib.Table
import XinghaiApi.Lib.Text

/-!
# Rows of the main database

The columns that the modelled functions read or write, and the database as one table a row type.
Amounts are quota units; times are Unix seconds; money and ratios are exact rationals.
-/

namespace XinghaiApi

open Text

/-! ### Users and tokens -/

structure User where
  id : Int
  group : String
  quota : Int
  username : String := ""
  password : String := ""
  displayName : String := ""
  remark : String := ""
  usedQuota : Int := 0
  requestCount : Int := 0
  affCount : Int := 0
  affQuota : Int := 0
  affHistoryQuota : Int := 0
deriving DecidableEq

inductive TokenStatus where
  | enabled
  | disabled
  | expired
  | exhausted
deriving DecidableEq

structure Token where
  id : Int
  key : String
  remainQuota : Int
  usedQuota : Int
  unlimitedQuota : Bool
  status : TokenStatus := .enabled
deriving DecidableEq

/-! ### Subscriptions -/

structure SubscriptionPlan where
  id : Int
  priceAmount : ℚ := 0
  durationUnit : String := "month"
  durationValue : Int := 1
  customSeconds : Int := 0
  enabled : Bool := true
  allowBalancePay : Option Bool := none
  allowWalletOverflow : Option Bool := none
  maxPurchasePerUser : Int := 0
  upgradeGroup : String := ""
  downgradeGroup : String := ""
  totalAmount : Int := 0
  quotaResetPeriod : String := "never"
  quotaResetCustomSeconds : Int := 0
deriving DecidableEq

inductive SubscriptionStatus where
  | active
  | expired
  | cancelled
deriving DecidableEq

structure UserSubscription where
  id : Int
  userId : Int
  planId : Int
  priceAmount : ℚ := 0
  amountTotal : Int
  amountUsed : Int
  startTime : Int
  endTime : Int
  status : SubscriptionStatus
  source : String := "order"
  lastResetTime : Int := 0
  nextResetTime : Int := 0
  upgradeGroup : String := ""
  prevUserGroup : String := ""
  downgradeGroup : String := ""
  allowWalletOverflow : Bool := true
deriving DecidableEq

inductive PreConsumeStatus where
  | consumed
  | refunded
deriving DecidableEq

/-- An idempotent pre-consume operation, one a request. -/
structure SubscriptionPreConsumeRecord where
  id : Int
  requestId : String
  userId : Int
  userSubscriptionId : Int
  preConsumed : Int
  status : PreConsumeStatus
deriving DecidableEq

/-! ### Orders -/

/-- Status of a payment order, shared by top-ups and subscription orders. -/
inductive TopUpStatus where
  | pending
  | success
  | failed
  | expired
deriving DecidableEq

structure SubscriptionOrder where
  id : Int
  userId : Int
  planId : Int
  money : ℚ
  upgradeSubscriptionId : Int := 0
  tradeNo : String
  paymentMethod : String
  paymentProvider : String
  status : TopUpStatus
  createTime : Int := 0
  completeTime : Int := 0
  providerPayload : String := ""
deriving DecidableEq

structure TopUp where
  id : Int
  userId : Int
  amount : Int
  money : ℚ
  tradeNo : String
  paymentMethod : String
  paymentProvider : String := ""
  createTime : Int := 0
  completeTime : Int := 0
  status : TopUpStatus
deriving DecidableEq

/-! ### Tables -/

instance : Row User where
  key r := r.id
  withKey k r := { r with id := k }
  key_withKey _ _ := rfl
  withKey_key _ := rfl

instance : Row Token where
  key r := r.id
  withKey k r := { r with id := k }
  key_withKey _ _ := rfl
  withKey_key _ := rfl

instance : Row SubscriptionPlan where
  key r := r.id
  withKey k r := { r with id := k }
  key_withKey _ _ := rfl
  withKey_key _ := rfl

instance : Row UserSubscription where
  key r := r.id
  withKey k r := { r with id := k }
  key_withKey _ _ := rfl
  withKey_key _ := rfl

instance : Row SubscriptionPreConsumeRecord where
  key r := r.id
  withKey k r := { r with id := k }
  key_withKey _ _ := rfl
  withKey_key _ := rfl

instance : Row SubscriptionOrder where
  key r := r.id
  withKey k r := { r with id := k }
  key_withKey _ _ := rfl
  withKey_key _ := rfl

instance : Row TopUp where
  key r := r.id
  withKey k r := { r with id := k }
  key_withKey _ _ := rfl
  withKey_key _ := rfl

structure DB where
  users : Table User
  tokens : Table Token
  plans : Table SubscriptionPlan
  subscriptions : Table UserSubscription
  records : Table SubscriptionPreConsumeRecord
  orders : Table SubscriptionOrder
  topUps : Table TopUp

def DB.empty : DB where
  users := .empty
  tokens := .empty
  plans := .empty
  subscriptions := .empty
  records := .empty
  orders := .empty
  topUps := .empty

/-! ### Errors -/

/-- What a transaction of the model layer can fail with. -/
inductive Error where
  | invalidUserId
  | invalidUser
  | invalidUserSubscriptionId
  | invalidPlanId
  | invalidPlanArg
  | invalidUserIdOrPlanId
  | invalidPlan
  | requestIdEmpty
  | amountNotPositive
  | noActiveSubscription
  | quotaInsufficient (need : Int)
  | alreadyRefunded
  | usedExceedsTotal (used total : Int)
  | recordNotFound
  | purchaseLimitReached
  | planDisabled
  | negativePrice
  | balancePayNotAllowed
  | balanceInsufficient
  | durationValueNotPositive
  | customSecondsNotPositive
  | invalidDurationUnit (unit : String)
  | startEndNotPositive
  | endNotAfterStart
  | noActivePlanSubscription
  | sourceSubscriptionEnded
  | tradeNoEmpty
  | orderNotFound
  | orderStatusInvalid
  | paymentMethodMismatch
  | topUpStatusInvalid
  | rechargeStatusInvalid
  | rechargeQuotaInvalid
  | rechargeFailed
  | completeStatusInvalid
  | quotaUnitInvalid
  | negativeQuota
  | userQuotaNotEnough (quota need : Int)
  | tokenQuotaNotEnough (remain need : Int)
  | subscriptionIdMissing
  | quotaConversion (clamp : QuotaClamp)
  /-- a statement or the commit failed in the database -/
  | database
  /-- the catch-up loop of a reset has not ended yet -/
  | stillRunning
deriving DecidableEq

/-- The text of an error, where the source gives one. Quotas that the source formats for display
are written as numbers. -/
def Error.text : Error → String
  | .invalidUserId             => "invalid userId"
  | .invalidUser               => "invalid user id"
  | .invalidUserSubscriptionId => "invalid userSubscriptionId"
  | .invalidPlanId             => "invalid plan id"
  | .invalidPlanArg            => "invalid planId"
  | .invalidUserIdOrPlanId     => "invalid userId or planId"
  | .invalidPlan               => "invalid plan"
  | .requestIdEmpty            => "requestId is empty"
  | .amountNotPositive         => "amount must be > 0"
  | .noActiveSubscription      => "no active subscription"
  | .quotaInsufficient need    => s!"subscription quota insufficient, need={need}"
  | .alreadyRefunded           => "subscription pre-consume already refunded"
  | .usedExceedsTotal u t      => s!"subscription used exceeds total, used={u} total={t}"
  | .recordNotFound            => "record not found"
  | .purchaseLimitReached      => "已达到该套餐购买上限"
  | .planDisabled              => "套餐未启用"
  | .negativePrice             => "套餐价格不能为负数"
  | .balancePayNotAllowed      => "该套餐不允许使用余额兑换"
  | .balanceInsufficient       => "余额不足"
  | .durationValueNotPositive  => "duration_value must be > 0"
  | .customSecondsNotPositive  => "custom_seconds must be > 0"
  | .invalidDurationUnit u     => s!"invalid duration_unit: {u}"
  | .startEndNotPositive       => "start_time and end_time must be greater than 0"
  | .endNotAfterStart          => "end_time must be greater than start_time"
  | .noActivePlanSubscription  => "该用户没有有效的此套餐订阅"
  | .sourceSubscriptionEnded   => "原订阅已失效"
  | .tradeNoEmpty              => "tradeNo is empty"
  | .orderNotFound             => "subscription order not found"
  | .orderStatusInvalid        => "subscription order status invalid"
  | .paymentMethodMismatch     => "payment method mismatch"
  | .topUpStatusInvalid        => "topup status invalid"
  | .rechargeStatusInvalid     => "充值订单状态错误"
  | .rechargeQuotaInvalid      => "无效的充值额度"
  | .rechargeFailed            => "充值失败，请稍后重试"
  | .completeStatusInvalid     => "订单状态不是待支付，无法补单"
  | .quotaUnitInvalid          => "额度单位配置错误"
  | .negativeQuota             => "quota 不能为负数！"
  | .userQuotaNotEnough q n    =>
    s!"user quota is not enough, user quota: {q}, need quota: {n}"
  | .subscriptionIdMissing     => "subscription id is missing"
  | .tokenQuotaNotEnough r n   =>
    s!"token quota is not enough, token remain quota: {r}, need quota: {n}"
  | .quotaConversion clamp     => clamp.error
  | .database                  => ""
  | .stillRunning              => ""

end XinghaiApi
