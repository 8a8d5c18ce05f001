import XinghaiApi.Lib.Transaction
import XinghaiApi.Model.Redemption
import XinghaiApi.Model.Subscription.Order

/-!
# The purchase limit of a plan

A plan may limit how many subscriptions of it a user can have. Every transaction that creates one
counts first and inserts later, so the limit depends on what others insert in between. The four
kinds of transactions are modelled statement by statement: purchases from the balance, completed
payment orders, bindings by an administrator and redemptions of a code.
-/

namespace XinghaiApi

open Civil Machine Text Transaction RedeemDB State

/-! ### The statements -/

/-- The rows that are locked by `SELECT ... FOR UPDATE` or by a write. -/
inductive PurchaseRow where
  | user (id : Int)
  | order (id : Int)
  | code (id : Int)
  | subscription (id : Int)
deriving DecidableEq

inductive PurchaseError where
  | model (e : Error)
  | redeem (e : RedeemError)
deriving DecidableEq

inductive PurchaseRequest where
  | balance (userId planId : Int)
  | order (tradeNo providerPayload expectedPaymentProvider actualPaymentMethod : String)
  | admin (userId planId : Int)
  | redemption (key : String) (userId : Int)
deriving DecidableEq

/-- What the environment decides at a statement: the clock, random texts, and whether it fails. -/
structure PurchaseInput where
  now : Int
  random : String := ""
  nanos : Int := 0
  fails : Bool := false
deriving DecidableEq

/-- What a transaction writes once the subscription is inserted. -/
inductive PurchaseTail where
  | none
  | balanceOrder (requiredQuota : Int)
  | completeOrder (order : SubscriptionOrder) (providerPayload actualPaymentMethod : String)
deriving DecidableEq

/-- A subscription to be created. -/
structure Purchase where
  userId : Int
  plan : SubscriptionPlan
  source : String
  tail : PurchaseTail
deriving DecidableEq

/-- The statement that a transaction makes next. -/
inductive PurchasePhase where
  | balance (userId planId : Int)
  | balanceUser (p : Purchase) (requiredQuota : Int)
  | balanceCharge (p : Purchase) (requiredQuota : Int)
  | order (tradeNo providerPayload expectedPaymentProvider actualPaymentMethod : String)
  | upgradeSource (p : Purchase) (sourceId now : Int)
  | upgradeRevert (p : Purchase) (source : UserSubscription) (now : Int)
  | upgradeCancel (p : Purchase) (sourceId now : Int)
  | admin (userId planId : Int)
  | redeem (key : String) (userId : Int)
  | redeemPlan (redemption : Redemption) (userId : Int)
  | redeemMark (redemption : Redemption) (userId : Int)
  | redeemQuota (redemption : Redemption) (userId : Int)
  | redeemReread (redemption : Redemption) (userId : Int)
  | count (p : Purchase)
  | readGroup (p : Purchase) (now endUnix : Int)
  | writeGroup (p : Purchase) (now endUnix : Int) (currentGroup : String)
  | insert (p : Purchase) (now endUnix : Int) (prevGroup : String)
  | tail (p : Purchase)
  | saveOrder (p : Purchase) (order : SubscriptionOrder)
    (providerPayload actualPaymentMethod : String)
  | commit (p : Purchase)

open PurchasePhase

variable (loc : Location)

def PurchaseRequest.start : PurchaseRequest → PurchasePhase
  | .balance userId planId                 => .balance userId planId
  | .order tradeNo payload provider method => .order tradeNo payload provider method
  | .admin userId planId                   => .admin userId planId
  | .redemption key userId                 => .redeem key userId

/-- The call of `Redeem` that a statement belongs to, at the statement's clock. -/
def PurchaseInput.redeemCall (input : PurchaseInput) (key : String) (userId : Int) :
    RedeemCall where
  key := key
  userId := userId
  clock := ⟨input.now, input.now, input.now⟩

namespace RedeemDB

/-- A write of the main database. -/
def onDB (f : DB → DB) (s : RedeemDB) : RedeemDB := { s with db := f s.db }

def markCode (call : RedeemCall) (redemption : Redemption) (s : RedeemDB) : RedeemDB :=
  { s with redemptions := s.redemptions.modifyWhere redemption.isOpen (Redemption.usedBy call) }

/-- How many subscriptions the user has from the plan. -/
def bought (userId planId : Int) (s : RedeemDB) : ℕ :=
  s.db.subscriptions.rows.countP fun r => r.userId == userId && r.planId == planId

end RedeemDB

abbrev PurchaseOutcome := Outcome RedeemDB PurchasePhase (Except PurchaseError Unit)

/-- Go on with a result, or roll back with its error. -/
def orAbort {α : Type} (r : Except Error α) (f : α → PurchaseOutcome) : PurchaseOutcome :=
  match r with
  | .error e => .abort (.error (.model e))
  | .ok a    => f a

def orAbortRedeem {α : Type} (r : Except RedeemError α) (f : α → PurchaseOutcome) :
    PurchaseOutcome :=
  match r with
  | .error e => .abort (.error (.redeem e))
  | .ok a    => f a

namespace PurchasePhase

variable (quotaPerUnit : ℚ)

/-- The rows that the next statement locks. -/
def needs (view : RedeemDB) : PurchasePhase → List PurchaseRow
  | .balanceUser p _            => [.user p.userId]
  | .balanceCharge p _          => [.user p.userId]
  | .order tradeNo _ _ _        =>
    (view.db.findOrder tradeNo).toList.map fun o => PurchaseRow.order o.id
  | .upgradeSource _ id _       => [.subscription id]
  | .upgradeRevert _ source now =>
    match downgradeUserGroupForSubscription source now view.db with
    | .error _        => []
    | .ok (_, target) => if target = "" then [] else [.user source.userId]
  | .upgradeCancel _ id _       => [.subscription id]
  | .redeem key _               => (view.findCode key).toList.map fun r => PurchaseRow.code r.id
  | .redeemMark redemption _    => [.code redemption.id]
  | .redeemQuota _ userId       => [.user userId]
  | .writeGroup p _ _ _         => [.user p.userId]
  | .saveOrder _ o _ _          => [.order o.id]
  | _                           => []

/-- The checks of `PurchaseSubscriptionWithBalance`. -/
def execBalance (view : RedeemDB) (userId planId : Int) : PurchaseOutcome :=
  if userId ≤ 0 ∨ planId ≤ 0 then .abort (.error (.model .invalidUserIdOrPlanId))
  else orAbort (getSubscriptionPlanById view.db planId) fun plan =>
    if !plan.enabled then .abort (.error (.model .planDisabled))
    else if plan.priceAmount < 0 then .abort (.error (.model .negativePrice))
    else if plan.allowBalancePay = some false then .abort (.error (.model .balancePayNotAllowed))
    else orAbort (calcSubscriptionBalanceQuota quotaPerUnit plan.priceAmount) fun requiredQuota =>
      .go id (.balanceUser ⟨userId, plan, "balance", .balanceOrder requiredQuota⟩ requiredQuota)

/-- The lock of the user and the check of their balance. -/
def execBalanceUser (view : RedeemDB) (p : Purchase) (requiredQuota : Int) : PurchaseOutcome :=
  match view.db.users.find p.userId with
  | none      => .abort (.error (.model .recordNotFound))
  | some user =>
    if 0 < requiredQuota ∧ user.quota < requiredQuota then
      .abort (.error (.model .balanceInsufficient))
    else if 0 < requiredQuota then .go id (.balanceCharge p requiredQuota)
    else .go id (.count p)

/-- The lock of the order and the checks of `CompleteSubscriptionOrder`. -/
def execOrder (now : Int) (view : RedeemDB)
    (tradeNo providerPayload expectedPaymentProvider actualPaymentMethod : String) :
    PurchaseOutcome :=
  if tradeNo = "" then .abort (.error (.model .tradeNoEmpty))
  else
    match view.db.findOrder tradeNo with
    | none   => .abort (.error (.model .orderNotFound))
    | some o =>
      if expectedPaymentProvider ≠ "" ∧ o.paymentProvider ≠ expectedPaymentProvider then
        .abort (.error (.model .paymentMethodMismatch))
      else if o.status = .success then .done id (.ok ())
      else if o.status ≠ .pending then .abort (.error (.model .orderStatusInvalid))
      else orAbort (getSubscriptionPlanById view.db o.planId) fun plan =>
        let completed := PurchaseTail.completeOrder o providerPayload actualPaymentMethod
        if 0 < o.upgradeSubscriptionId then
          .go id (.upgradeSource ⟨o.userId, plan, "upgrade", completed⟩ o.upgradeSubscriptionId now)
        else .go id (.count ⟨o.userId, plan, "order", completed⟩)

/-- The lock of the source and the checks of `upgradeUserSubscriptionTx`. -/
def execUpgradeSource (view : RedeemDB) (p : Purchase) (sourceId now : Int) : PurchaseOutcome :=
  match view.db.subscriptions.find sourceId with
  | none        => .abort (.error (.model .recordNotFound))
  | some source =>
    if source.userId ≠ p.userId then .abort (.error (.model .recordNotFound))
    else if source.status ≠ .active ∨ source.endTime ≤ now then
      .abort (.error (.model .sourceSubscriptionEnded))
    else .go id (.upgradeRevert p source now)

/-- What is written when the groups of the user fall back to the target, if any. -/
def revertWrite (source : UserSubscription) (target : String) (db : DB) : DB :=
  if target = "" then db else db.setUserGroup source.userId target

/-- `downgradeUserGroupForSubscriptionTx` within the upgrade. -/
def execUpgradeRevert (view : RedeemDB) (p : Purchase) (source : UserSubscription) (now : Int) :
    PurchaseOutcome :=
  orAbort (downgradeUserGroupForSubscription source now view.db) fun reverted =>
    .go (onDB (revertWrite source reverted.2)) (.upgradeCancel p source.id now)

def cancelSource (sourceId now : Int) (db : DB) : DB :=
  let cancelled := db.subscriptions.modify sourceId
    fun r => { r with status := .cancelled, endTime := now }
  { db with subscriptions := cancelled }

def execAdmin (view : RedeemDB) (userId planId : Int) : PurchaseOutcome :=
  if userId ≤ 0 ∨ planId ≤ 0 then .abort (.error (.model .invalidUserIdOrPlanId))
  else orAbort (getSubscriptionPlanById view.db planId) fun plan =>
    -- the plan is read before the transaction, when nothing is written or locked yet
    .go id (.count ⟨userId, plan, "admin", .none⟩)

/-- The lock of the code and the checks of `Redeem`. -/
def execRedeem (input : PurchaseInput) (view : RedeemDB) (key : String) (userId : Int) :
    PurchaseOutcome :=
  if key = "" then .abort (.error (.redeem .keyEmpty))
  else if userId = 0 then .abort (.error (.redeem .userIdInvalid))
  else orAbortRedeem (view.readCode (input.redeemCall key userId)) fun redemption =>
    .go id (.redeemPlan redemption userId)

def execRedeemMark (input : PurchaseInput) (view : RedeemDB) (redemption : Redemption)
    (userId : Int) : PurchaseOutcome :=
  if view.redemptions.rows.any redemption.isOpen then
    .go (markCode (input.redeemCall redemption.key userId) redemption)
      (if 0 < redemption.quota then .redeemQuota redemption userId
        else .redeemReread redemption userId)
  else .abort (.error (.redeem .codeUsed))

/-- A code without a plan is done once its quota is given. -/
def execRedeemReread (view : RedeemDB) (redemption : Redemption) (userId : Int) : PurchaseOutcome :=
  if redemption.subscriptionPlanId ≤ 0 then .done id (.ok ())
  else orAbort (getSubscriptionPlanById view.db redemption.subscriptionPlanId) fun plan =>
    .go id (.count ⟨userId, plan, "redemption", .none⟩)

/-- `CreateUserSubscriptionFromPlanTx` begins with its count, and computes the period after it. -/
def execCount (now : Int) (view : RedeemDB) (p : Purchase) : PurchaseOutcome :=
  if p.plan.id = 0 then .abort (.error (.model .invalidPlan))
  else if p.userId ≤ 0 then .abort (.error (.model .invalidUser))
  else if 0 < p.plan.maxPurchasePerUser ∧
      p.plan.maxPurchasePerUser ≤ view.bought p.userId p.plan.id then
    .abort (.error (.model .purchaseLimitReached))
  else orAbort (calcPlanEndTime loc now p.plan) fun endUnix =>
    if trimSpace p.plan.upgradeGroup = "" then .go id (.insert p now endUnix "")
    else .go id (.readGroup p now endUnix)

def execReadGroup (view : RedeemDB) (p : Purchase) (now endUnix : Int) : PurchaseOutcome :=
  orAbort (getUserGroupById view.db p.userId) fun currentGroup =>
    if view.db.gainsGroup p.userId (trimSpace p.plan.upgradeGroup) then
      .go id (.writeGroup p now endUnix currentGroup)
    else .go id (.insert p now endUnix "")

def insertSubscription (p : Purchase) (now endUnix : Int) (prevGroup : String) (db : DB) : DB :=
  let sub := UserSubscription.fromPlan loc p.userId p.plan p.source now endUnix prevGroup
  { db with subscriptions := db.subscriptions.insert sub }

def balanceOrder (input : PurchaseInput) (p : Purchase) (requiredQuota : Int) :
    SubscriptionOrder where
  id := 0
  userId := p.userId
  planId := p.plan.id
  money := p.plan.priceAmount
  tradeNo := balanceTradeNo p.userId input.random input.nanos
  paymentMethod := "balance"
  paymentProvider := "balance"
  status := .success
  createTime := input.now
  completeTime := input.now
  providerPayload := s!"charged_quota={requiredQuota}"

/-- The write that lists a completed order among the top-ups. -/
def listTopUp (now : Int) (o : SubscriptionOrder) (db : DB) : DB :=
  match upsertSubscriptionTopUp now o db with
  | .error _ => db
  | .ok db'  => db'

/-- The rest of the transaction, once the subscription is inserted. -/
def execTail (input : PurchaseInput) (view : RedeemDB) (p : Purchase) : PurchaseOutcome :=
  match p.tail with
  | .none => .done id (.ok ())
  | .balanceOrder requiredQuota =>
    let write (db : DB) : DB :=
      { db with orders := db.orders.insert (balanceOrder input p requiredQuota) }
    .go (onDB write) (.commit p)
  | .completeOrder o providerPayload actualPaymentMethod =>
    orAbort (upsertSubscriptionTopUp input.now o view.db) fun _ =>
      .go (onDB (listTopUp input.now o)) (.saveOrder p o providerPayload actualPaymentMethod)

/-- The next statement of a transaction. -/
def exec (phase : PurchasePhase) (input : PurchaseInput) (view : RedeemDB) : PurchaseOutcome :=
  if input.fails then .abort (.error (.model .database))
  else
    match phase with
    | .balance userId planId => execBalance quotaPerUnit view userId planId
    | .balanceUser p requiredQuota => execBalanceUser view p requiredQuota
    | .balanceCharge p requiredQuota =>
      .go (onDB fun db => db.addUserQuota p.userId (-requiredQuota)) (.count p)
    | .order tradeNo payload provider method =>
      execOrder input.now view tradeNo payload provider method
    | .upgradeSource p sourceId now => execUpgradeSource view p sourceId now
    | .upgradeRevert p source now => execUpgradeRevert view p source now
    | .upgradeCancel p sourceId now => .go (onDB (cancelSource sourceId now)) (.count p)
    | .admin userId planId => execAdmin view userId planId
    | .redeem key userId => execRedeem input view key userId
    | .redeemPlan redemption userId =>
      orAbortRedeem (view.checkPlan (input.redeemCall redemption.key userId) redemption) fun _ =>
        .go id (.redeemMark redemption userId)
    | .redeemMark redemption userId => execRedeemMark input view redemption userId
    | .redeemQuota redemption userId =>
      .go (onDB fun db => db.addUserQuota userId redemption.quota) (.redeemReread redemption userId)
    | .redeemReread redemption userId => execRedeemReread view redemption userId
    | .count p => execCount loc input.now view p
    | .readGroup p now endUnix => execReadGroup view p now endUnix
    | .writeGroup p now endUnix currentGroup =>
      .go (onDB fun db =>
          db.setUserGroup p.userId (addGroup currentGroup (trimSpace p.plan.upgradeGroup)))
        (.insert p now endUnix currentGroup)
    | .insert p now endUnix prevGroup =>
      .go (onDB (insertSubscription loc p now endUnix prevGroup)) (.tail p)
    | .tail p => execTail input view p
    | .saveOrder p o providerPayload actualPaymentMethod =>
      .go (onDB fun db =>
          db.saveOrder (o.complete input.now providerPayload actualPaymentMethod)) (.commit p)
    | .commit _ => .done id (.ok ())

end PurchasePhase

/-- The four kinds of transactions. -/
def purchaseProgram (loc : Location) (quotaPerUnit : ℚ) :
    Program RedeemDB PurchaseRow PurchasePhase PurchaseRequest PurchaseInput
      (Except PurchaseError Unit) where
  start := PurchaseRequest.start
  needs phase view := phase.needs view
  exec := exec loc quotaPerUnit

@[simp] lemma start_purchaseProgram (quotaPerUnit : ℚ) (r : PurchaseRequest) :
    (purchaseProgram loc quotaPerUnit).start r = r.start := rfl

/-! ### What a statement can do -/

variable (now : Int)

/-- The count lets the purchase through. -/
def Purchase.Passes (p : Purchase) (view : RedeemDB) : Prop :=
  0 < p.plan.maxPurchasePerUser → view.bought p.userId p.plan.id < p.plan.maxPurchasePerUser

namespace PurchasePhase

variable (quotaPerUnit : ℚ) (view : RedeemDB)

/-- The statements with what they find and what they lead to. -/
inductive PurchaseMove : PurchasePhase → PurchaseOutcome → Prop
  | abort {phase : PurchasePhase} (r : Except PurchaseError Unit) : PurchaseMove phase (.abort r)
  | balance (userId planId requiredQuota : Int) (p : Purchase)
      (hplan : view.db.plans.find p.plan.id = some p.plan) :
      PurchaseMove (.balance userId planId) (.go id (.balanceUser p requiredQuota))
  | balanceUser (p : Purchase) (requiredQuota : Int) :
      PurchaseMove (.balanceUser p requiredQuota) (.go id (.balanceCharge p requiredQuota))
  | balanceFree (p : Purchase) (requiredQuota : Int) :
      PurchaseMove (.balanceUser p requiredQuota) (.go id (.count p))
  | balanceCharge (p : Purchase) (requiredQuota : Int) :
      PurchaseMove (.balanceCharge p requiredQuota)
        (.go (onDB fun db => db.addUserQuota p.userId (-requiredQuota)) (.count p))
  | order (tradeNo payload provider method : String) (p : Purchase)
      (hplan : view.db.plans.find p.plan.id = some p.plan) :
      PurchaseMove (.order tradeNo payload provider method) (.go id (.count p))
  | orderUpgrade (tradeNo payload provider method : String) (p : Purchase) (sourceId now : Int)
      (hplan : view.db.plans.find p.plan.id = some p.plan) :
      PurchaseMove (.order tradeNo payload provider method) (.go id (.upgradeSource p sourceId now))
  | orderDone (tradeNo payload provider method : String) :
      PurchaseMove (.order tradeNo payload provider method) (.done id (.ok ()))
  | upgradeSource (p : Purchase) (sourceId now : Int) (source : UserSubscription) :
      PurchaseMove (.upgradeSource p sourceId now) (.go id (.upgradeRevert p source now))
  | upgradeRevert (p : Purchase) (source : UserSubscription) (now : Int) (target : String)
      (hneeds : target ≠ "" → .user source.userId ∈ (upgradeRevert p source now).needs view) :
      PurchaseMove (.upgradeRevert p source now)
        (.go (onDB (revertWrite source target)) (.upgradeCancel p source.id now))
  | upgradeCancel (p : Purchase) (sourceId now : Int) :
      PurchaseMove (.upgradeCancel p sourceId now)
        (.go (onDB (cancelSource sourceId now)) (.count p))
  | admin (userId planId : Int) (p : Purchase)
      (hplan : view.db.plans.find p.plan.id = some p.plan) :
      PurchaseMove (.admin userId planId) (.go id (.count p))
  | redeem (key : String) (userId : Int) (redemption : Redemption) :
      PurchaseMove (.redeem key userId) (.go id (.redeemPlan redemption userId))
  | redeemPlan (redemption : Redemption) (userId : Int) :
      PurchaseMove (.redeemPlan redemption userId) (.go id (.redeemMark redemption userId))
  | redeemMark (call : RedeemCall) (redemption : Redemption) (userId : Int) :
      PurchaseMove (.redeemMark redemption userId)
        (.go (markCode call redemption) (.redeemQuota redemption userId))
  | redeemMarkOnly (call : RedeemCall) (redemption : Redemption) (userId : Int) :
      PurchaseMove (.redeemMark redemption userId)
        (.go (markCode call redemption) (.redeemReread redemption userId))
  | redeemQuota (redemption : Redemption) (userId : Int) :
      PurchaseMove (.redeemQuota redemption userId)
        (.go (onDB fun db => db.addUserQuota userId redemption.quota)
          (.redeemReread redemption userId))
  | redeemReread (redemption : Redemption) (userId : Int) (p : Purchase)
      (hplan : view.db.plans.find p.plan.id = some p.plan) :
      PurchaseMove (.redeemReread redemption userId) (.go id (.count p))
  | redeemDone (redemption : Redemption) (userId : Int) :
      PurchaseMove (.redeemReread redemption userId) (.done id (.ok ()))
  | count (p : Purchase) (now endUnix : Int) (hpasses : p.Passes view) :
      PurchaseMove (.count p) (.go id (.insert p now endUnix ""))
  | countGroup (p : Purchase) (now endUnix : Int) (hpasses : p.Passes view) :
      PurchaseMove (.count p) (.go id (.readGroup p now endUnix))
  | readGroup (p : Purchase) (now endUnix : Int) (currentGroup : String) :
      PurchaseMove (.readGroup p now endUnix) (.go id (.writeGroup p now endUnix currentGroup))
  | groupHeld (p : Purchase) (now endUnix : Int) :
      PurchaseMove (.readGroup p now endUnix) (.go id (.insert p now endUnix ""))
  | writeGroup (p : Purchase) (now endUnix : Int) (currentGroup group : String) :
      PurchaseMove (.writeGroup p now endUnix currentGroup)
        (.go (onDB fun db => db.setUserGroup p.userId group) (.insert p now endUnix currentGroup))
  | insert (p : Purchase) (now endUnix : Int) (prevGroup : String) :
      PurchaseMove (.insert p now endUnix prevGroup)
        (.go (onDB (insertSubscription loc p now endUnix prevGroup)) (.tail p))
  | balanceOrder (p : Purchase) (o : SubscriptionOrder) :
      PurchaseMove (.tail p)
        (.go (onDB fun db => { db with orders := db.orders.insert o }) (.commit p))
  | completeOrder (p : Purchase) (now : Int) (o : SubscriptionOrder) (payload method : String) :
      PurchaseMove (.tail p) (.go (onDB (listTopUp now o)) (.saveOrder p o payload method))
  | tailDone (p : Purchase) : PurchaseMove (.tail p) (.done id (.ok ()))
  | saveOrder (p : Purchase) (o o' : SubscriptionOrder) (payload method : String) :
      PurchaseMove (.saveOrder p o payload method)
        (.go (onDB fun db => db.saveOrder o') (.commit p))
  | commit (p : Purchase) : PurchaseMove (.commit p) (.done id (.ok ()))

variable {loc quotaPerUnit view} {phase : PurchasePhase} (input : PurchaseInput)

lemma move_orAbort {α : Type} {r : Except Error α} {f : α → PurchaseOutcome}
    (h : ∀ a, r = .ok a → PurchaseMove loc view phase (f a)) :
    PurchaseMove loc view phase (orAbort r f) := by
  cases r with
  | error e => exact .abort _
  | ok a => exact h a rfl

lemma move_orAbortRedeem {α : Type} {r : Except RedeemError α} {f : α → PurchaseOutcome}
    (h : ∀ a, r = .ok a → PurchaseMove loc view phase (f a)) :
    PurchaseMove loc view phase (orAbortRedeem r f) := by
  cases r with
  | error e => exact .abort _
  | ok a => exact h a rfl

lemma find_of_getPlanById {db : DB} {id : Int} {plan : SubscriptionPlan}
    (h : getSubscriptionPlanById db id = .ok plan) : db.plans.find plan.id = some plan := by
  rw [getPlanById_id h]
  unfold getSubscriptionPlanById at h
  split at h
  · cases h
  split at h
  · cases h
  next found hfind =>
    obtain rfl := Except.ok.inj h
    exact hfind

lemma move_execBalance (u pl : Int) :
    PurchaseMove loc view (.balance u pl) (execBalance quotaPerUnit view u pl) := by
  unfold execBalance
  split
  · exact .abort _
  apply move_orAbort
  intro plan hplan
  split
  · exact .abort _
  split
  · exact .abort _
  split
  · exact .abort _
  apply move_orAbort
  intro requiredQuota _
  exact .balance _ _ _ _ (find_of_getPlanById hplan)

lemma move_execBalanceUser (p : Purchase) (requiredQuota : Int) :
    PurchaseMove loc view (.balanceUser p requiredQuota)
      (execBalanceUser view p requiredQuota) := by
  unfold execBalanceUser
  split
  · exact .abort _
  split
  · exact .abort _
  split
  · exact .balanceUser _ _
  · exact .balanceFree _ _

lemma move_execOrder (tradeNo payload provider method : String) :
    PurchaseMove loc view (.order tradeNo payload provider method)
      (execOrder now view tradeNo payload provider method) := by
  unfold execOrder
  split
  · exact .abort _
  split
  · exact .abort _
  split
  · exact .abort _
  split
  · exact .orderDone _ _ _ _
  split
  · exact .abort _
  apply move_orAbort
  intro plan hplan
  split
  · exact .orderUpgrade _ _ _ _ _ _ _ (find_of_getPlanById hplan)
  · exact .order _ _ _ _ _ (find_of_getPlanById hplan)

lemma move_execUpgradeSource (p : Purchase) (sourceId now : Int) :
    PurchaseMove loc view (.upgradeSource p sourceId now)
      (execUpgradeSource view p sourceId now) := by
  unfold execUpgradeSource
  split
  · exact .abort _
  split
  · exact .abort _
  split
  · exact .abort _
  · exact .upgradeSource _ _ _ _

lemma move_execUpgradeRevert (p : Purchase) (source : UserSubscription) (now : Int) :
    PurchaseMove loc view (.upgradeRevert p source now) (execUpgradeRevert view p source now) := by
  apply move_orAbort
  intro reverted hreverted
  apply PurchaseMove.upgradeRevert
  intro hne
  simp [needs, hreverted, hne]

lemma move_execAdmin (u pl : Int) : PurchaseMove loc view (.admin u pl) (execAdmin view u pl) := by
  unfold execAdmin
  split
  · exact .abort _
  apply move_orAbort
  intro plan hplan
  exact .admin _ _ _ (find_of_getPlanById hplan)

lemma move_execRedeem (key : String) (u : Int) :
    PurchaseMove loc view (.redeem key u) (execRedeem input view key u) := by
  unfold execRedeem
  split
  · exact .abort _
  split
  · exact .abort _
  apply move_orAbortRedeem
  intro redemption _
  exact .redeem _ _ _

lemma move_execRedeemMark (redemption : Redemption) (u : Int) :
    PurchaseMove loc view (.redeemMark redemption u) (execRedeemMark input view redemption u) := by
  unfold execRedeemMark
  split
  · split
    · exact .redeemMark _ _ _
    · exact .redeemMarkOnly _ _ _
  · exact .abort _

lemma move_execRedeemReread (redemption : Redemption) (u : Int) :
    PurchaseMove loc view (.redeemReread redemption u) (execRedeemReread view redemption u) := by
  unfold execRedeemReread
  split
  · exact .redeemDone _ _
  apply move_orAbort
  intro plan hplan
  exact .redeemReread _ _ _ (find_of_getPlanById hplan)

/-- The count is where a purchase may pass. -/
lemma move_execCount (p : Purchase) :
    PurchaseMove loc view (.count p) (execCount loc now view p) := by
  unfold execCount
  split
  · exact .abort _
  split
  · exact .abort _
  split
  · exact .abort _
  rename_i hlimit
  have hpasses : p.Passes view := fun hpos => not_le.mp fun hle => hlimit ⟨hpos, hle⟩
  apply move_orAbort
  intro endUnix _
  split
  · exact .count _ _ _ hpasses
  · exact .countGroup _ _ _ hpasses

lemma move_execReadGroup (p : Purchase) (now endUnix : Int) :
    PurchaseMove loc view (.readGroup p now endUnix) (execReadGroup view p now endUnix) := by
  apply move_orAbort
  intro currentGroup _
  split
  · exact .readGroup _ _ _ _
  · exact .groupHeld _ _ _

lemma move_execTail (p : Purchase) : PurchaseMove loc view (.tail p) (execTail input view p) := by
  unfold execTail
  split
  · exact .tailDone _
  · exact .balanceOrder _ _
  · apply move_orAbort
    intro _ _
    exact .completeOrder _ _ _ _ _

/-- Everything that a statement can do. -/
lemma move_exec : PurchaseMove loc view phase (phase.exec loc quotaPerUnit input view) := by
  unfold exec
  split
  · exact .abort _
  cases phase with
  | balance u pl => exact move_execBalance u pl
  | balanceUser p requiredQuota => exact move_execBalanceUser p requiredQuota
  | balanceCharge p requiredQuota => exact .balanceCharge _ _
  | order tradeNo payload provider method => exact move_execOrder _ _ _ _ _
  | upgradeSource p sourceId now => exact move_execUpgradeSource p sourceId now
  | upgradeRevert p source now => exact move_execUpgradeRevert p source now
  | upgradeCancel p sourceId now => exact .upgradeCancel _ _ _
  | admin u pl => exact move_execAdmin u pl
  | redeem key u => exact move_execRedeem input key u
  | redeemPlan redemption u =>
    apply move_orAbortRedeem
    intro _ _
    exact .redeemPlan _ _
  | redeemMark redemption u => exact move_execRedeemMark input redemption u
  | redeemQuota redemption u => exact .redeemQuota _ _
  | redeemReread redemption u => exact move_execRedeemReread redemption u
  | count p => exact move_execCount input.now p
  | readGroup p now endUnix => exact move_execReadGroup p now endUnix
  | writeGroup p now endUnix currentGroup => exact .writeGroup _ _ _ _ _
  | insert p now endUnix prevGroup => exact .insert _ _ _ _
  | tail p => exact move_execTail input p
  | saveOrder p o payload method => exact .saveOrder _ _ _ _ _
  | commit p => exact .commit _

end PurchasePhase

/-! ### What the writes add -/

/-- The write adds `k` subscriptions of the user from the plan, and leaves the plans. -/
def Adds (userId planId : Int) (k : ℕ) (w : RedeemDB → RedeemDB) : Prop :=
  ∀ s, (w s).bought userId planId = s.bought userId planId + k ∧ (w s).db.plans = s.db.plans

section

variable {userId planId : Int} {k k' : ℕ} {w w' : RedeemDB → RedeemDB}

lemma adds_id : Adds userId planId 0 id := fun _ => ⟨rfl, rfl⟩

lemma Adds.comp (h : Adds userId planId k w) (h' : Adds userId planId k' w') :
    Adds userId planId (k + k') (w' ∘ w) := by
  intro s
  obtain ⟨hbought, hplans⟩ := h s
  obtain ⟨hbought', hplans'⟩ := h' (w s)
  exact ⟨by rw [Function.comp_apply, hbought', hbought, add_assoc], hplans'.trans hplans⟩

/-- A write of other tables. -/
lemma adds_onDB {f : DB → DB} (hsubs : ∀ db, (f db).subscriptions = db.subscriptions)
    (hplans : ∀ db, (f db).plans = db.plans) : Adds userId planId 0 (onDB f) := by
  intro s
  exact ⟨by simp only [bought, onDB, hsubs, add_zero], hplans s.db⟩

/-- A cancelled subscription still counts. -/
lemma adds_cancelSource (sourceId now : Int) :
    Adds userId planId 0 (onDB (cancelSource sourceId now)) := by
  intro s
  refine ⟨?_, rfl⟩
  simp only [bought, onDB, cancelSource, Table.modify, Table.modifyWhere, List.countP_map]
  apply List.countP_congr
  intro r _
  simp only [Function.comp_apply]
  split_ifs <;> rfl

lemma listTopUp_frame (o : SubscriptionOrder) (db : DB) :
    ∃ topUps, listTopUp now o db = { db with topUps := topUps } := by
  unfold listTopUp
  split
  next => exact ⟨db.topUps, rfl⟩
  next h => exact upsertSubscriptionTopUp_frame h

lemma adds_listTopUp (o : SubscriptionOrder) : Adds userId planId 0 (onDB (listTopUp now o)) := by
  apply adds_onDB
  · intro db
    obtain ⟨topUps, h⟩ := listTopUp_frame now o db
    rw [h]
  · intro db
    obtain ⟨topUps, h⟩ := listTopUp_frame now o db
    rw [h]

def Purchase.isFor (userId planId : Int) (p : Purchase) : Bool :=
  p.userId == userId && p.plan.id == planId

lemma adds_insertSubscription (p : Purchase) (now endUnix : Int) (prevGroup : String) :
    Adds userId planId (p.isFor userId planId).toNat
      (onDB (insertSubscription loc p now endUnix prevGroup)) := by
  intro s
  simp only [bought, onDB, insertSubscription, Table.insert,
    List.countP_append, List.countP_singleton, Purchase.isFor]
  cases h : (p.userId == userId && p.plan.id == planId) <;>
    simp [UserSubscription.fromPlan, Row.withKey, h]

end

/-! ### What a statement does to the count -/

namespace PurchasePhase

variable {o : PurchaseOutcome} {userId planId : Int} {view : RedeemDB}
  {phase phase' : PurchasePhase} {plans : Table SubscriptionPlan}

/-- The purchase that the statement belongs to. -/
def purchase : PurchasePhase → Option Purchase
  | .balanceUser p _ | .balanceCharge p _ | .upgradeSource p _ _ | .upgradeRevert p _ _
  | .upgradeCancel p _ _ | .count p | .readGroup p _ _ | .writeGroup p _ _ _ | .insert p _ _ _
  | .tail p | .saveOrder p _ _ _ | .commit p => some p
  | _ => none

def counted (userId planId : Int) : PurchasePhase → Bool
  | .readGroup p _ _ | .writeGroup p _ _ _ | .insert p _ _ _ | .tail p | .saveOrder p _ _ _
  | .commit p => p.isFor userId planId
  | _ => false

def inserted (userId planId : Int) : PurchasePhase → Bool
  | .tail p | .saveOrder p _ _ _ | .commit p => p.isFor userId planId
  | _ => false

lemma inserted_le_counted (userId planId : Int) (phase : PurchasePhase) :
    (phase.inserted userId planId).toNat ≤ (phase.counted userId planId).toNat := by
  cases phase <;> simp [inserted, counted]

def Known (plans : Table SubscriptionPlan) (phase : PurchasePhase) : Prop :=
  ∀ p ∈ phase.purchase, plans.find p.plan.id = some p.plan

/-- The phase is a count for the user and the plan that lets the purchase through. -/
def Passes (userId planId : Int) (view : RedeemDB) (phase : PurchasePhase) : Prop :=
  ∃ p, phase = .count p ∧ p.isFor userId planId = true ∧ p.Passes view

/-- What the outcome of a statement does to the number of subscriptions. -/
def Fits (userId planId : Int) (view : RedeemDB) (phase : PurchasePhase) : PurchaseOutcome → Prop
  | .go w phase' =>
    (∃ k, Adds userId planId k w ∧
      (phase'.inserted userId planId).toNat = (phase.inserted userId planId).toNat + k) ∧
    phase'.Known view.db.plans ∧
    (phase'.counted userId planId = true →
      phase.counted userId planId = true ∨ phase.Passes userId planId view)
  | .commit _ _ => False
  | .done w _ => Adds userId planId 0 w
  | .abort _ => True

/-- A statement that neither counts nor inserts. -/
lemma fits_go {w : RedeemDB → RedeemDB} (hw : Adds userId planId 0 w)
    (hknown : phase'.Known view.db.plans)
    (hinserted : phase'.inserted userId planId = phase.inserted userId planId)
    (hcounted : phase'.counted userId planId = true → phase.counted userId planId = true) :
    phase.Fits userId planId view (.go w phase') :=
  ⟨⟨0, hw, by rw [hinserted, add_zero]⟩, hknown, fun h => Or.inl (hcounted h)⟩

/-- A phase of a purchase from the plan that was read. -/
lemma known_of_purchase {p : Purchase} (hplan : plans.find p.plan.id = some p.plan)
    (hpurchase : phase'.purchase = some p) : phase'.Known plans := by
  intro q hq
  rw [hpurchase, Option.mem_some_iff] at hq
  subst hq
  exact hplan

lemma known_of_none (h : phase'.purchase = none) : phase'.Known plans := by
  intro q hq
  rw [h] at hq
  cases hq

lemma Known.next (h : phase.Known plans) (hsame : phase'.purchase = phase.purchase) :
    phase'.Known plans := by
  intro q hq
  rw [hsame] at hq
  exact h q hq

/-- What any statement does to the number of subscriptions. -/
lemma PurchaseMove.fits {loc : Location} (h : PurchaseMove loc view phase o)
    (hknown : phase.Known view.db.plans) : phase.Fits userId planId view o := by
  cases h with
  | abort r => trivial
  | orderDone | redeemDone | tailDone | commit => exact adds_id
  | balance _ _ _ _ hplan | order _ _ _ _ _ hplan | orderUpgrade _ _ _ _ _ _ _ hplan
  | admin _ _ _ hplan | redeemReread _ _ _ hplan =>
    exact fits_go adds_id (known_of_purchase hplan rfl) rfl id
  | balanceUser | balanceFree | upgradeSource | readGroup | groupHeld =>
    exact fits_go adds_id (hknown.next rfl) rfl id
  | redeem | redeemPlan => exact fits_go adds_id (known_of_none rfl) rfl id
  | redeemMark call | redeemMarkOnly call =>
    exact fits_go (fun _ => ⟨rfl, rfl⟩) (known_of_none rfl) rfl id
  | redeemQuota =>
    exact fits_go (adds_onDB (fun _ => rfl) fun _ => rfl) (known_of_none rfl) rfl id
  | upgradeRevert p source now target =>
    refine fits_go ?_ (hknown.next rfl) rfl id
    unfold revertWrite
    split_ifs
    · exact adds_onDB (fun _ => rfl) fun _ => rfl
    · exact adds_onDB (fun _ => rfl) fun _ => rfl
  | upgradeCancel p sourceId now =>
    exact fits_go (adds_cancelSource sourceId now) (hknown.next rfl) rfl id
  | balanceCharge | writeGroup | balanceOrder | saveOrder =>
    exact fits_go (adds_onDB (fun _ => rfl) fun _ => rfl) (hknown.next rfl) rfl id
  | completeOrder => exact fits_go (adds_listTopUp _ _) (hknown.next rfl) rfl id
  | count p now endUnix hpasses | countGroup p now endUnix hpasses =>
    exact ⟨⟨0, adds_id, rfl⟩, hknown.next rfl, fun hfor => Or.inr ⟨p, rfl, hfor, hpasses⟩⟩
  | insert p now endUnix prevGroup =>
    exact ⟨⟨_, adds_insertSubscription loc p now endUnix prevGroup, (zero_add _).symm⟩,
      hknown.next rfl, Or.inl⟩

end PurchasePhase

/-! ### Runs -/

abbrev PurchaseState := State RedeemDB PurchaseRow PurchasePhase (Except PurchaseError Unit)

abbrev PurchaseEvent := Event PurchaseRequest PurchaseInput

abbrev PurchaseCall := Call RedeemDB PurchaseRow PurchasePhase (Except PurchaseError Unit)

/-- The call has passed its count for the user and the plan, and has not ended. -/
def PurchaseCall.counted (userId planId : Int) : PurchaseCall → Bool
  | .inProgress tx => tx.code.counted userId planId
  | .returned _    => false

@[simp] lemma PurchaseCall.counted_inProgress (userId planId : Int)
    (tx : Tx RedeemDB PurchaseRow PurchasePhase) :
    PurchaseCall.counted userId planId (.inProgress tx) = tx.code.counted userId planId := rfl

@[simp] lemma PurchaseCall.counted_returned (userId planId : Int) (r : Except PurchaseError Unit) :
    PurchaseCall.counted userId planId (.returned r) = false := rfl

namespace PurchaseState

variable {userId planId : Int} {n : ℕ} {s : PurchaseState}
  {tx : Tx RedeemDB PurchaseRow PurchasePhase}

/-- The calls that have passed their count for the user and the plan. -/
def inFlight (userId planId : Int) (s : PurchaseState) : ℕ :=
  s.calls.countP (PurchaseCall.counted userId planId)

/-- The condition of a step: a count that lets a purchase through would still do so if all purchases
in flight had ended. -/
def Keeps (s : PurchaseState) : PurchaseEvent → Prop
  | .begin _  => True
  | .next i _ =>
    match s.calls[i]? with
    | some (.inProgress ⟨.count p, _, _⟩) =>
      0 < p.plan.maxPurchasePerUser →
        (s.db.bought p.userId p.plan.id : ℤ) < p.plan.maxPurchasePerUser →
        (s.db.bought p.userId p.plan.id : ℤ) + inFlight p.userId p.plan.id s <
          p.plan.maxPurchasePerUser
    | _ => True

instance (s : PurchaseState) : ∀ e, Decidable (Keeps s e)
  | .begin _  => .isTrue trivial
  | .next _ _ => by
    unfold Keeps
    simp only
    split <;> infer_instance

/-- The limit has room for all purchases in flight. -/
structure Within (userId planId : Int) (n : ℕ) (s : PurchaseState) : Prop where
  calls : ∀ tx, Call.inProgress tx ∈ s.calls → tx.code.Known s.db.db.plans ∧
    Adds userId planId (tx.code.inserted userId planId).toNat tx.write
  plan : ∃ plan, s.db.db.plans.find planId = some plan ∧ plan.maxPurchasePerUser = n
  bound : s.db.bought userId planId + inFlight userId planId s ≤ n

lemma inFlight_setCall (userId planId : Int) {i : ℕ} {c : PurchaseCall}
    (h : s.calls[i]? = some c) (db : RedeemDB) (c' : PurchaseCall) :
    inFlight userId planId ({ s with db := db }.setCall i c') + (c.counted userId planId).toNat =
      inFlight userId planId s + (c'.counted userId planId).toNat :=
  Pool.countP_set_add h

/-- One call moves, with the database after it. -/
lemma Within.setCall (h : Within userId planId n s) {i : ℕ} {db : RedeemDB} {c : PurchaseCall}
    (hplans : db.db.plans = s.db.db.plans)
    (hnew : ∀ tx, c = .inProgress tx → tx.code.Known s.db.db.plans ∧
      Adds userId planId (tx.code.inserted userId planId).toNat tx.write)
    (hbound : db.bought userId planId + inFlight userId planId ({ s with db := db }.setCall i c) ≤
      n) : Within userId planId n ({ s with db := db }.setCall i c) where
  calls tx htx := by
    rw [db_setCall, hplans]
    rcases List.mem_or_eq_of_mem_set htx with htx | htx
    · exact h.calls tx htx
    · exact hnew tx htx.symm
  plan := by
    rw [db_setCall, hplans]
    exact h.plan
  bound := hbound

lemma Within.perform (h : Within userId planId n s) {i : ℕ}
    (htx : s.calls[i]? = some (.inProgress tx)) (rows : List PurchaseRow)
    (hfits : tx.code.Fits userId planId (tx.write s.db) o)
    (hpasses : tx.code.Passes userId planId (tx.write s.db) →
      s.db.bought userId planId + inFlight userId planId s < n) :
    Within userId planId n (s.perform i tx rows o) := by
  obtain ⟨hknown, hadds⟩ := h.calls tx (List.mem_of_getElem? htx)
  obtain ⟨hbought, hplans⟩ := hadds s.db
  have hbound := h.bound
  have hinserted := tx.code.inserted_le_counted userId planId
  cases o with
  | go w phase =>
    obtain ⟨⟨k, hw, hk⟩, hknown', hcounted⟩ := hfits
    have hflight := inFlight_setCall userId planId htx s.db
      (.inProgress ⟨phase, w ∘ tx.write, tx.locks ++ rows⟩)
    apply h.setCall rfl
    · rintro tx' heq
      obtain rfl := Call.inProgress.inj heq
      rw [hplans] at hknown'
      refine ⟨hknown', ?_⟩
      simp only [hk]
      exact hadds.comp hw
    · simp only [PurchaseCall.counted_inProgress] at hflight
      by_cases hnew : phase.counted userId planId = true
      · rcases hcounted hnew with hold | hpass
        · rw [hnew, hold] at hflight
          omega
        · have hroom := hpasses hpass
          rw [hnew] at hflight
          simp only [Bool.toNat_true] at hflight
          omega
      · rw [Bool.not_eq_true] at hnew
        rw [hnew] at hflight
        simp only [Bool.toNat_false] at hflight
        omega
  | commit w phase => exact hfits.elim
  | done w r =>
    obtain ⟨hbought', hplans'⟩ := hfits (tx.write s.db)
    have hflight := inFlight_setCall userId planId htx (w (tx.write s.db)) (.returned r)
    apply h.setCall (hplans'.trans hplans)
    · rintro tx' heq
      cases heq
    · simp only [PurchaseCall.counted_inProgress, PurchaseCall.counted_returned,
        Bool.toNat_false] at hflight
      omega
  | abort r =>
    have hflight := inFlight_setCall userId planId htx s.db (.returned r)
    apply h.setCall rfl
    · rintro tx' heq
      cases heq
    · simp only [PurchaseCall.counted_returned, Bool.toNat_false] at hflight
      omega

/-- A count that passes finds room, by the condition of the step. -/
lemma Keeps.room {i : ℕ} {input : PurchaseInput} (hkeeps : Keeps s (.next i input))
    (h : Within userId planId n s) (hpos : 0 < n)
    (htx : s.calls[i]? = some (.inProgress tx))
    (hpasses : tx.code.Passes userId planId (tx.write s.db)) :
    s.db.bought userId planId + inFlight userId planId s < n := by
  obtain ⟨p, hcode, hfor, hcount⟩ := hpasses
  obtain ⟨hknown, hadds⟩ := h.calls tx (List.mem_of_getElem? htx)
  obtain ⟨hbought, -⟩ := hadds s.db
  obtain ⟨plan, hplan, hn⟩ := h.plan
  simp only [Purchase.isFor, Bool.and_eq_true, beq_iff_eq] at hfor
  obtain ⟨rfl, rfl⟩ := hfor
  -- the plan of the purchase is the stored one, so its limit is `n`
  have hmax : p.plan.maxPurchasePerUser = n := by
    have hfind := hknown p (by rw [hcode]; rfl)
    rw [Option.some.inj (hfind.symm.trans hplan), hn]
  have hview : (tx.write s.db).bought p.userId p.plan.id = s.db.bought p.userId p.plan.id := by
    simpa [hcode, inserted] using hbought
  have hroom := hcount (by rw [hmax]; exact_mod_cast hpos)
  rw [hview] at hroom
  obtain ⟨code, write, locks⟩ := tx
  subst hcode
  simp only [Keeps, htx] at hkeeps
  have hlt := hkeeps (by rw [hmax]; exact_mod_cast hpos) hroom
  rw [hmax] at hlt
  exact_mod_cast hlt

lemma within_step (quotaPerUnit : ℚ) (hpos : 0 < n) (s : PurchaseState) (e : PurchaseEvent)
    (h : Within userId planId n s) (hkeeps : Keeps s e) :
    Within userId planId n (step (purchaseProgram loc quotaPerUnit) s e) := by
  cases e with
  | begin request =>
    have hstart : request.start.counted userId planId = false := by cases request <;> rfl
    have hnone : request.start.purchase = none := by cases request <;> rfl
    have hinserted : request.start.inserted userId planId = false := by cases request <;> rfl
    refine ⟨?_, h.plan, ?_⟩
    · intro tx htx
      rcases List.mem_append.mp htx with htx | htx
      · exact h.calls tx htx
      · obtain rfl := Call.inProgress.inj (List.mem_singleton.mp htx)
        refine ⟨known_of_none hnone, ?_⟩
        simp only [Tx.code_fresh, start_purchaseProgram, hinserted]
        exact adds_id
    · simpa [State.step, inFlight, hstart] using h.bound
  | next i input =>
    rcases step_next_cases (purchaseProgram loc quotaPerUnit) s i input with
      hsame | ⟨tx, htx, -, hnext⟩
    · rw [hsame]
      exact h
    · rw [hnext]
      obtain ⟨hknown, hadds⟩ := h.calls tx (List.mem_of_getElem? htx)
      rw [← (hadds s.db).2] at hknown
      exact h.perform htx _ ((move_exec input).fits hknown) (hkeeps.room h hpos htx)

/-- In a run whose counts leave room for the purchases in flight, no user ever has more
subscriptions from a plan than its limit. -/
theorem bought_le_limit (loc : Location) (quotaPerUnit : ℚ) (db : RedeemDB) (userId planId : Int)
    (plan : SubscriptionPlan) (n : ℕ) (hplan : db.db.plans.find planId = some plan)
    (hn : plan.maxPurchasePerUser = n) (hpos : 0 < n) (hbought : db.bought userId planId ≤ n)
    (es : List PurchaseEvent)
    (hes : Along (step (purchaseProgram loc quotaPerUnit)) Keeps ⟨db, []⟩ es) :
    ∀ t ∈ states (step (purchaseProgram loc quotaPerUnit)) ⟨db, []⟩ es,
      t.db.bought userId planId ≤ n := by
  intro t ht
  have hwithin : Within userId planId n t :=
    hes.states_invariant (within_step loc quotaPerUnit hpos)
      ⟨by simp, ⟨plan, hplan, hn⟩, by simpa [inFlight] using hbought⟩ t ht
  exact le_trans (Nat.le_add_right _ _) hwithin.bound

/-- A user, a plan that can be bought once, and two codes for it. -/
def twoCodes : RedeemDB where
  db :=
    { DB.empty with
      users := Table.empty.insert { id := 0, group := "default", quota := 0 }
      plans := Table.empty.insert { id := 0, maxPurchasePerUser := 1 } }
  redemptions :=
    (Table.empty.insert { id := 0, key := "a", quota := 0, subscriptionPlanId := 1 }).insert
      { id := 0, key := "b", quota := 0, subscriptionPlanId := 1 }

/-- The first code is redeemed before the second one is counted. -/
def oneAfterOther : List PurchaseEvent :=
  .begin (.redemption "a" 1) :: .begin (.redemption "b" 1) ::
    (List.replicate 7 (.next 0 { now := 100 }) ++ List.replicate 7 (.next 1 { now := 101 }))

theorem bought_le_limit_oneAfterOther :
    (run (step (purchaseProgram .utc 1)) ⟨twoCodes, []⟩ oneAfterOther).db.bought 1 1 ≤ 1 ∧
      (run (step (purchaseProgram .utc 1)) ⟨twoCodes, []⟩ oneAfterOther).db.bought 1 1 = 1 :=
  ⟨bought_le_limit .utc 1 twoCodes 1 1 { id := 1, maxPurchasePerUser := 1 } 1
    (by decide +kernel) rfl (by decide) (by decide +kernel) oneAfterOther (by decide +kernel) _
    (run_mem_states _ _ _), by decide +kernel⟩

/-- Both codes are counted before either subscription is committed. -/
def bothCounted : List PurchaseEvent :=
  .begin (.redemption "a" 1) :: .begin (.redemption "b" 1) ::
    (List.replicate 5 (.next 0 { now := 100 }) ++ List.replicate 7 (.next 1 { now := 101 }) ++
      List.replicate 2 (.next 0 { now := 102 }))

/-- The row locks that the code takes do not keep the two apart. -/
theorem limit_lt_bought_bothCounted :
    1 < (run (step (purchaseProgram .utc 1)) ⟨twoCodes, []⟩ bothCounted).db.bought 1 1 := by
  decide +kernel

end PurchaseState

end XinghaiApi
