import XinghaiApi.Lib.Run
import XinghaiApi.Model.Balance
import XinghaiApi.Model.Subscription.Lifecycle

/-!
# Subscription orders

An order is inserted pending by a payment endpoint and then completed or expired by the callbacks
of the payment provider, which may be duplicated, reordered or fail. A completed order leaves one
subscription and one successful top-up record behind. An order paid from the wallet balance is
inserted completed, in the transaction that creates the subscription.
-/

namespace XinghaiApi

open Civil Machine Text SubscriptionOrder Table

/-! ### Callbacks -/

def DB.findOrder (db : DB) (tradeNo : String) : Option SubscriptionOrder :=
  db.orders.findBy (·.tradeNo == tradeNo)

def DB.saveOrder (db : DB) (order : SubscriptionOrder) : DB :=
  { db with orders := db.orders.save order }

def DB.findTopUp (db : DB) (tradeNo : String) : Option TopUp :=
  db.topUps.findBy (·.tradeNo == tradeNo)

/-- The record under which a completed order is listed among the top-ups. -/
def SubscriptionOrder.topUp (order : SubscriptionOrder) (now : Int) : TopUp where
  id := 0
  userId := order.userId
  amount := 0
  money := order.money
  tradeNo := order.tradeNo
  paymentMethod := order.paymentMethod
  createTime := order.createTime
  completeTime := now
  status := .success

def upsertSubscriptionTopUp (now : Int) (order : SubscriptionOrder) (db : DB) : Except Error DB :=
  match db.findTopUp order.tradeNo with
  | none       => .ok { db with topUps := db.topUps.insert (order.topUp now) }
  | some topup =>
    if topup.paymentMethod ≠ "" ∧ topup.paymentMethod ≠ order.paymentMethod then
      .error .paymentMethodMismatch
    else
      let topup' := { topup with
        money := order.money
        paymentMethod := order.paymentMethod
        createTime := if topup.createTime = 0 then order.createTime else topup.createTime
        completeTime := now
        status := .success }
      .ok { db with topUps := db.topUps.save topup' }

/-- The readings of the clock in one completion, in the order they are made. -/
structure CompletionClock where
  now : Int
  created : Int
  topUp : Int
  completed : Int
deriving DecidableEq

/-- Give the user what the order is for: a new subscription, in the place of an old one when the
order is an upgrade. -/
def SubscriptionOrder.deliver (loc : Location) (clock : CompletionClock)
    (plan : SubscriptionPlan) (order : SubscriptionOrder) (db : DB) :
    Except Error (DB × UserSubscription) :=
  if 0 < order.upgradeSubscriptionId then
    upgradeUserSubscription loc clock.now clock.created order.userId order.upgradeSubscriptionId
      plan db
  else createUserSubscriptionFromPlan loc clock.created order.userId plan "order" db

/-- A completed order; an empty payload or payment method keeps the stored one. -/
def SubscriptionOrder.complete (completeTime : Int) (providerPayload actualPaymentMethod : String)
    (order : SubscriptionOrder) : SubscriptionOrder :=
  { order with
    status := .success
    completeTime := completeTime
    providerPayload := if providerPayload ≠ "" then providerPayload else order.providerPayload
    paymentMethod :=
      if actualPaymentMethod ≠ "" then actualPaymentMethod else order.paymentMethod }

def completeSubscriptionOrder (loc : Location) (clock : CompletionClock)
    (tradeNo providerPayload expectedPaymentProvider actualPaymentMethod : String) (db : DB) :
    Except Error DB :=
  if tradeNo = "" then .error .tradeNoEmpty
  else
    match db.findOrder tradeNo with
    | none       => .error .orderNotFound
    | some order =>
      if expectedPaymentProvider ≠ "" ∧ order.paymentProvider ≠ expectedPaymentProvider then
        .error .paymentMethodMismatch
      else if order.status = .success then .ok db
      else if order.status ≠ .pending then .error .orderStatusInvalid
      else
        -- a plan that has been disabled meanwhile is still delivered
        match getSubscriptionPlanById db order.planId with
        | .error e => .error e
        | .ok plan =>
          match order.deliver loc clock plan db with
          | .error e      => .error e
          | .ok (db₁, _) =>
            match upsertSubscriptionTopUp clock.topUp order db₁ with
            | .error e => .error e
            | .ok db₂  =>
              .ok (db₂.saveOrder
                (order.complete clock.completed providerPayload actualPaymentMethod))

def expireSubscriptionOrder (now : Int) (tradeNo expectedPaymentProvider : String) (db : DB) :
    Except Error DB :=
  if tradeNo = "" then .error .tradeNoEmpty
  else
    match db.findOrder tradeNo with
    | none       => .error .orderNotFound
    | some order =>
      if expectedPaymentProvider ≠ "" ∧ order.paymentProvider ≠ expectedPaymentProvider then
        .error .paymentMethodMismatch
      else if order.status ≠ .pending then .ok db
      else .ok (db.saveOrder { order with status := .expired, completeTime := now })

/-! ### Purchase from the balance -/

def calcSubscriptionBalanceQuota (quotaPerUnit priceAmount : ℚ) : Except Error Int :=
  if priceAmount ≤ 0 then .ok 0
  else if quotaPerUnit ≤ 0 then .error .quotaUnitInvalid
  else
    match quotaFromDecimalChecked ⌈priceAmount * quotaPerUnit⌉ with
    | (_, some clamp) => .error (.quotaConversion clamp)
    | (quota, none)   => .ok quota

/-- The trade number of a purchase from the balance, with a random text and a clock reading. -/
def balanceTradeNo (userId : Int) (random : String) (nanos : Int) : String :=
  s!"SUBBALUSR{userId}NO{random}{nanos}"

def purchaseSubscriptionWithBalance (loc : Location) (quotaPerUnit : ℚ) (created now : Int)
    (random : String) (nanos userId planId : Int) (db : DB) : Except Error DB :=
  if userId ≤ 0 ∨ planId ≤ 0 then .error .invalidUserIdOrPlanId
  else
    match getSubscriptionPlanById db planId with
    | .error e => .error e
    | .ok plan =>
      if !plan.enabled then .error .planDisabled
      else if plan.priceAmount < 0 then .error .negativePrice
      else if plan.allowBalancePay = some false then .error .balancePayNotAllowed
      else
        match calcSubscriptionBalanceQuota quotaPerUnit plan.priceAmount with
        | .error e          => .error e
        | .ok requiredQuota =>
          match db.users.find userId with
          | none      => .error .recordNotFound
          | some user =>
            if 0 < requiredQuota ∧ user.quota < requiredQuota then .error .balanceInsufficient
            else
              let paid := if 0 < requiredQuota then db.addUserQuota userId (-requiredQuota) else db
              match createUserSubscriptionFromPlan loc created userId plan "balance" paid with
              | .error e     => .error e
              | .ok (db', _) =>
                let order : SubscriptionOrder :=
                  { id := 0
                    userId := userId
                    planId := plan.id
                    money := plan.priceAmount
                    tradeNo := balanceTradeNo userId random nanos
                    paymentMethod := "balance"
                    paymentProvider := "balance"
                    status := .success
                    createTime := now
                    completeTime := now
                    providerPayload := s!"charged_quota={requiredQuota}" }
                .ok { db' with orders := db'.orders.insert order }

/-! ### What a completion does -/

variable {loc : Location} {clock : CompletionClock} {order : SubscriptionOrder} {db db' : DB}
  {tradeNo provider : String} {plan : SubscriptionPlan} {sub : UserSubscription} {now : Int}

/-- A delivery inserts one subscription of the user and the plan. It may write the groups of the
user and cancel an old subscription, but it takes no key and touches no other table. -/
lemma deliver_frame (h : order.deliver loc clock plan db = .ok (db', sub)) :
    ∃ (users : Table User) (subscriptions : Table UserSubscription) (row : UserSubscription),
      subscriptions.next = db.subscriptions.next ∧ row.userId = order.userId ∧
      row.planId = plan.id ∧
      db' = { db with users := users, subscriptions := subscriptions.insert row } := by
  unfold deliver at h
  split at h
  · unfold upgradeUserSubscription at h
    split at h
    · cases h
    split at h
    · cases h
    split at h
    · cases h
    split at h
    · cases h
    · rename_i source _ _ _ _ db₁ _ hdown
      obtain ⟨users, rfl⟩ := downgradeUserGroup_frame hdown
      obtain ⟨endUnix, prevGroup, -, rfl⟩ := createFromPlan_frame h
      refine ⟨_, _, _, ?_, ?_, ?_, rfl⟩ <;> rfl
  · obtain ⟨endUnix, prevGroup, -, rfl⟩ := createFromPlan_frame h
    refine ⟨_, _, _, ?_, ?_, ?_, rfl⟩ <;> rfl

lemma upsertSubscriptionTopUp_frame (h : upsertSubscriptionTopUp now order db = .ok db') :
    ∃ topUps, db' = { db with topUps := topUps } := by
  unfold upsertSubscriptionTopUp at h
  split at h
  · cases h
    exact ⟨_, rfl⟩
  · split at h
    · cases h
    · cases h
      exact ⟨_, rfl⟩

/-- A completion that commits finds the order completed and does nothing, or finds it pending,
delivers it, lists it among the top-ups and completes it. -/
lemma completeSubscriptionOrder_cases {payload method : String}
    (h : completeSubscriptionOrder loc clock tradeNo payload provider method db = .ok db') :
    ∃ order, db.findOrder tradeNo = some order ∧
      ((order.status = .success ∧ db' = db) ∨
       (order.status = .pending ∧ ∃ plan db₁ sub db₂,
          getSubscriptionPlanById db order.planId = .ok plan ∧
          order.deliver loc clock plan db = .ok (db₁, sub) ∧
          upsertSubscriptionTopUp clock.topUp order db₁ = .ok db₂ ∧
          db' = db₂.saveOrder (order.complete clock.completed payload method))) := by
  unfold completeSubscriptionOrder at h
  split at h
  · cases h
  split at h
  · cases h
  rename_i order hfind
  refine ⟨order, hfind, ?_⟩
  split at h
  · cases h
  split at h
  · rename_i hsuccess
    cases h
    exact Or.inl ⟨hsuccess, rfl⟩
  split at h
  · cases h
  rename_i hpending
  split at h
  · cases h
  rename_i plan hplan
  split at h
  · cases h
  rename_i db₁ sub hdeliver
  split at h
  · cases h
  rename_i db₂ htopUp
  cases h
  exact Or.inr ⟨not_not.mp hpending, plan, db₁, sub, db₂, hplan, hdeliver, htopUp, rfl⟩

lemma expireSubscriptionOrder_cases
    (h : expireSubscriptionOrder now tradeNo provider db = .ok db') :
    ∃ order, db.findOrder tradeNo = some order ∧
      ((order.status ≠ .pending ∧ db' = db) ∨
       (order.status = .pending ∧
          db' = db.saveOrder { order with status := .expired, completeTime := now })) := by
  unfold expireSubscriptionOrder at h
  split at h
  · cases h
  split at h
  · cases h
  rename_i order hfind
  refine ⟨order, hfind, ?_⟩
  split at h
  · cases h
  split at h
  · rename_i hstatus
    cases h
    exact Or.inl ⟨hstatus, rfl⟩
  · rename_i hpending
    cases h
    exact Or.inr ⟨not_not.mp hpending, rfl⟩

/-! ### Runs of callbacks -/

/-- One delivery of a callback for an order; `aborts` when the database fails it as a whole. -/
inductive OrderCallback where
  | complete (aborts : Bool) (clock : CompletionClock)
      (providerPayload expectedPaymentProvider actualPaymentMethod : String)
  | expire (aborts : Bool) (now : Int) (expectedPaymentProvider : String)
deriving DecidableEq

open OrderCallback

def OrderCallback.exec (loc : Location) (tradeNo : String) (db : DB) :
    OrderCallback → Except Error DB
  | .complete aborts clock payload provider method =>
    if aborts then .error .database
    else completeSubscriptionOrder loc clock tradeNo payload provider method db
  | .expire aborts now provider =>
    if aborts then .error .database else expireSubscriptionOrder now tradeNo provider db

/-- The database after a callback: a transaction that fails is rolled back. -/
def OrderCallback.step (loc : Location) (tradeNo : String) (db : DB) (e : OrderCallback) : DB :=
  match e.exec loc tradeNo db with
  | .ok db'  => db'
  | .error _ => db

/-- The subscriptions created since the database was `before`. -/
def DB.subscriptionsSince (before db : DB) : List UserSubscription :=
  db.subscriptions.rows.filter fun r => before.subscriptions.next ≤ r.id

def DB.topUpsOf (db : DB) (tradeNo : String) : List TopUp :=
  db.topUps.rows.filter (·.tradeNo == tradeNo)

section

variable (before db : DB) (order : SubscriptionOrder)

/-- One subscription and one successful top-up record exist for the order. -/
def SubscriptionOrder.Delivered : Prop :=
  ∃ sub topUp, before.subscriptionsSince db = [sub] ∧ sub.userId = order.userId ∧
    sub.planId = order.planId ∧ db.topUpsOf order.tradeNo = [topUp] ∧ topUp.status = .success

/-- Neither a subscription nor a top-up record exists for the order. -/
def SubscriptionOrder.Undelivered : Prop :=
  before.subscriptionsSince db = [] ∧ db.topUpsOf order.tradeNo = []

/-- The status of the order says what exists for it. -/
def SubscriptionOrder.Consistent : Prop :=
  match order.status with
  | .success => order.Delivered before db
  | .pending => order.Undelivered before db
  | .expired => order.Undelivered before db
  | .failed  => False

end

/-- The moves an order may make. -/
def TopUpStatus.MayBecome (s s' : TopUpStatus) : Prop :=
  s' = s ∨ (s = .pending ∧ (s' = .success ∨ s' = .expired))

lemma subscriptionsSince_of_next_eq {before db : DB}
    (h : db.subscriptions.next = before.subscriptions.next) :
    before.subscriptionsSince db = [] := by
  apply List.filter_eq_nil_iff.mpr
  intro r hr
  have hold : r.id < before.subscriptions.next := by
    rw [← h]
    exact db.subscriptions.fresh r hr
  simpa using hold

/-- A row inserted at the next key of the old table is the only new one. -/
lemma subscriptionsSince_insert {before : DB} {subscriptions : Table UserSubscription}
    {row : UserSubscription} (hdb : db.subscriptions = subscriptions.insert row)
    (hnext : subscriptions.next = before.subscriptions.next) :
    before.subscriptionsSince db = [{ row with id := before.subscriptions.next }] := by
  have hold : subscriptions.rows.filter (fun r => before.subscriptions.next ≤ r.id) = [] :=
    @subscriptionsSince_of_next_eq before { before with subscriptions := subscriptions } hnext
  simp only [DB.subscriptionsSince, hdb, Table.insert, List.filter_append, hold, hnext]
  simp [Row.withKey]

lemma findOrder_saveOrder {order' : SubscriptionOrder} (h : db.findOrder tradeNo = some order)
    (hid : order'.id = order.id) (htrade : order'.tradeNo = order.tradeNo) :
    (db.saveOrder order').findOrder tradeNo = some order' := by
  have hp := (findBy_eq_some h).2
  exact findBy_save_self h hid (by rw [htrade]; exact hp)

/-- A callback leaves the order as it is, or the order was pending and expires, or is completed with
what its completion did. -/
lemma step_cases (hfind : db.findOrder tradeNo = some order) (e : OrderCallback) :
    e.step loc tradeNo db = db ∨ order.status = .pending ∧
      ((∃ now, e.step loc tradeNo db =
        db.saveOrder { order with status := .expired, completeTime := now }) ∨
      (∃ clock payload method plan db₁ sub db₂,
        getSubscriptionPlanById db order.planId = .ok plan ∧
        order.deliver loc clock plan db = .ok (db₁, sub) ∧
        upsertSubscriptionTopUp clock.topUp order db₁ = .ok db₂ ∧
        e.step loc tradeNo db =
          db₂.saveOrder (order.complete clock.completed payload method))) := by
  unfold step
  cases hexec : e.exec loc tradeNo db with
  | error _ => exact Or.inl rfl
  | ok db' =>
    cases e with
    | complete aborts clock payload provider method =>
      cases aborts with
      | true => cases hexec
      | false =>
        obtain ⟨order', hfind', h⟩ := completeSubscriptionOrder_cases hexec
        obtain rfl : order = order' := Option.some.inj (hfind.symm.trans hfind')
        rcases h with ⟨-, rfl⟩ | ⟨hpending, plan, db₁, sub, db₂, hplan, hdeliver, htopUp, rfl⟩
        · exact Or.inl rfl
        · exact Or.inr ⟨hpending, Or.inr
            ⟨clock, payload, method, plan, db₁, sub, db₂, hplan, hdeliver, htopUp, rfl⟩⟩
    | expire aborts now provider =>
      cases aborts with
      | true => cases hexec
      | false =>
        obtain ⟨order', hfind', h⟩ := expireSubscriptionOrder_cases hexec
        obtain rfl : order = order' := Option.some.inj (hfind.symm.trans hfind')
        rcases h with ⟨-, rfl⟩ | ⟨hpending, rfl⟩
        · exact Or.inl rfl
        · exact Or.inr ⟨hpending, Or.inl ⟨now, rfl⟩⟩

lemma orders_of_deliver {db₁ db₂ : DB} (hdeliver : order.deliver loc clock plan db = .ok (db₁, sub))
    (htopUp : upsertSubscriptionTopUp now order db₁ = .ok db₂) : db₂.orders = db.orders := by
  obtain ⟨_, _, _, -, -, -, rfl⟩ := deliver_frame hdeliver
  obtain ⟨_, rfl⟩ := upsertSubscriptionTopUp_frame htopUp
  rfl

/-- One callback moves the status of an order, if at all, from pending. -/
lemma step_mayBecome (hfind : db.findOrder tradeNo = some order) (e : OrderCallback) :
    ∃ order', (e.step loc tradeNo db).findOrder tradeNo = some order' ∧
      order.status.MayBecome order'.status := by
  rcases step_cases hfind e with heq | ⟨hpending, ⟨now, heq⟩ |
    ⟨clock, payload, method, plan, db₁, sub, db₂, -, hdeliver, htopUp, heq⟩⟩
  · exact ⟨order, by rw [heq]; exact hfind, Or.inl rfl⟩
  · exact ⟨_, by rw [heq]; exact findOrder_saveOrder hfind rfl rfl, Or.inr ⟨hpending, Or.inr rfl⟩⟩
  · have hfind₂ : db₂.findOrder tradeNo = some order := by
      rw [DB.findOrder, orders_of_deliver hdeliver htopUp]
      exact hfind
    exact ⟨_, by rw [heq]; exact findOrder_saveOrder hfind₂ rfl rfl, Or.inr ⟨hpending, Or.inl rfl⟩⟩

lemma topUpsOf_insert (now : Int) (h : db.topUpsOf order.tradeNo = []) :
    ({ db with topUps := db.topUps.insert (order.topUp now) } : DB).topUpsOf order.tradeNo =
      [{ order.topUp now with id := db.topUps.next }] := by
  simp only [DB.topUpsOf, Table.insert, List.filter_append] at h ⊢
  rw [h]
  simp [Row.withKey, topUp]

lemma findTopUp_eq_none (h : db.topUpsOf tradeNo = []) : db.findTopUp tradeNo = none := by
  apply List.find?_eq_none.mpr
  exact List.filter_eq_nil_iff.mp h

/-- A completion of an order that nothing exists for delivers it. -/
lemma delivered_of_complete {db₁ db₂ : DB} (hnone : db.topUpsOf order.tradeNo = [])
    (hplan : getSubscriptionPlanById db order.planId = .ok plan)
    (hdeliver : order.deliver loc clock plan db = .ok (db₁, sub))
    (htopUp : upsertSubscriptionTopUp now order db₁ = .ok db₂) (completeTime : Int)
    (payload method : String) :
    (order.complete completeTime payload method).Delivered db
      (db₂.saveOrder (order.complete completeTime payload method)) := by
  obtain ⟨users, subscriptions, row, hnext, huser, hrow, rfl⟩ := deliver_frame hdeliver
  have hfind : ({ db with users := users, subscriptions := subscriptions.insert row } :
      DB).findTopUp order.tradeNo = none := findTopUp_eq_none hnone
  simp only [upsertSubscriptionTopUp, hfind] at htopUp
  obtain rfl := Except.ok.inj htopUp
  refine ⟨_, _, subscriptionsSince_insert rfl hnext, huser, ?_, topUpsOf_insert now hnone, rfl⟩
  exact hrow.trans (getPlanById_id hplan)

/-- One callback on a pending order that nothing exists for changes nothing, or leaves an order
that is no longer pending with what its status says. -/
lemma consistent_of_pending (hfind : db.findOrder tradeNo = some order)
    (hnone : db.topUpsOf tradeNo = []) (e : OrderCallback) :
    e.step loc tradeNo db = db ∨
    ∃ order', (e.step loc tradeNo db).findOrder tradeNo = some order' ∧
      order'.status ≠ .pending ∧ order'.Consistent db (e.step loc tradeNo db) := by
  have htrade : order.tradeNo = tradeNo := by simpa using (findBy_eq_some hfind).2
  subst htrade
  rcases step_cases hfind e with heq | ⟨-, ⟨now, heq⟩ |
    ⟨clock, payload, method, plan, db₁, sub, db₂, hplan, hdeliver, htopUp, heq⟩⟩
  · exact Or.inl heq
  · rw [heq]
    exact Or.inr ⟨_, findOrder_saveOrder hfind rfl rfl, nofun,
      subscriptionsSince_of_next_eq rfl, hnone⟩
  · have hfind₂ : db₂.findOrder order.tradeNo = some order := by
      rw [DB.findOrder, orders_of_deliver hdeliver htopUp]
      exact hfind
    rw [heq]
    exact Or.inr ⟨_, findOrder_saveOrder hfind₂ rfl rfl, nofun,
      delivered_of_complete hnone hplan hdeliver htopUp _ _ _⟩

/-- For every order inserted pending and every run of completions and expirations of it, each of
which may fail: in every state the order exists and its status says what exists for it, the
status only ever moves from pending to success or expired, and a callback that returns an error
changes nothing. -/
theorem order_delivered_iff_success (loc : Location) (tradeNo : String) (db : DB)
    (order : SubscriptionOrder) (hfind : db.findOrder tradeNo = some order)
    (hpending : order.status = .pending) (hnone : db.topUpsOf tradeNo = [])
    (callbacks : List OrderCallback) :
    ∀ t ∈ states (step loc tradeNo) db callbacks,
      ∃ o, t.findOrder tradeNo = some o ∧ o.Consistent db t ∧
        ∀ e : OrderCallback,
          (∃ o', (e.step loc tradeNo t).findOrder tradeNo = some o' ∧
            o.status.MayBecome o'.status) ∧
          (∀ err, e.exec loc tradeNo t = .error err → e.step loc tradeNo t = t) := by
  -- the database is still the first one, or the order has left pending for good
  let I (t : DB) : Prop := t = db ∨ ∃ o, t.findOrder tradeNo = some o ∧ o.status ≠ .pending ∧
    o.Consistent db t
  have hstep : ∀ t e, I t → I (step loc tradeNo t e) := by
    rintro t e (rfl | ⟨o, ho, hne, hcons⟩)
    · exact consistent_of_pending hfind hnone e
    · rw [(step_cases ho e).resolve_right fun h => hne h.1]
      exact Or.inr ⟨o, ho, hne, hcons⟩
  intro t ht
  have hfound : ∃ o, t.findOrder tradeNo = some o ∧ o.Consistent db t := by
    rcases states_invariant hstep (Or.inl rfl) callbacks t ht with rfl | ⟨o, ho, -, hcons⟩
    · have htrade : order.tradeNo = tradeNo := by simpa using (findBy_eq_some hfind).2
      refine ⟨order, hfind, ?_⟩
      simp only [Consistent, hpending]
      exact ⟨subscriptionsSince_of_next_eq rfl, by rw [htrade]; exact hnone⟩
    · exact ⟨o, ho, hcons⟩
  obtain ⟨o, ho, hcons⟩ := hfound
  refine ⟨o, ho, hcons, fun e => ⟨step_mayBecome ho e, ?_⟩⟩
  intro err herr
  simp only [step, herr]

/-! ### A shop with one plan -/

def shopOrder : SubscriptionOrder where
  id := 1
  userId := 1
  planId := 1
  money := 1
  tradeNo := "T1"
  paymentMethod := "stripe"
  paymentProvider := "stripe"
  status := .pending

/-- One user, one plan that costs one unit of money, and one pending order for it. -/
def shopDB : DB :=
  { DB.empty with
    users := empty.insert { id := 0, group := "default", quota := 1000 }
    plans := empty.insert { id := 0, priceAmount := 1, totalAmount := 100 }
    orders := empty.insert shopOrder }

/-- A completion that the database fails, one that commits, a late expiration and a duplicate. -/
def shopCallbacks : List OrderCallback :=
  [.complete true ⟨10, 10, 10, 10⟩ "" "stripe" "", .complete false ⟨20, 20, 20, 20⟩ "" "stripe" "",
    .expire false 30 "stripe", .complete false ⟨40, 40, 40, 40⟩ "" "stripe" ""]

theorem shopOrder_delivered_once :
    ∃ o, (run (step .utc "T1") shopDB shopCallbacks).findOrder "T1" = some o ∧
      o.status = .success ∧
      o.Delivered shopDB (run (step .utc "T1") shopDB shopCallbacks) := by
  obtain ⟨o, ho, hcons, -⟩ := order_delivered_iff_success .utc "T1" shopDB shopOrder rfl rfl rfl
    shopCallbacks _ (run_mem_states _ _ _)
  have hstatus : ((run (step .utc "T1") shopDB shopCallbacks).findOrder "T1").map
      status = some .success := by decide
  rw [ho, Option.map_some, Option.some.injEq] at hstatus
  simp only [Consistent, hstatus] at hcons
  exact ⟨o, ho, hstatus, hcons⟩

def boughtWithBalance : Except Error DB :=
  purchaseSubscriptionWithBalance .utc 500 10 10 "abcdef" 7 1 1 shopDB

/-- An order paid from the balance is completed without a top-up record. -/
theorem balance_order_not_delivered :
    ∃ db order, boughtWithBalance = .ok db ∧
      db.findOrder (balanceTradeNo 1 "abcdef" 7) = some order ∧ order.status = .success ∧
      shopDB.subscriptionsSince db ≠ [] ∧ db.topUpsOf order.tradeNo = [] ∧
      ¬ order.Consistent shopDB db := by
  have hrun : (boughtWithBalance.toOption.map fun db =>
      ((db.findOrder (balanceTradeNo 1 "abcdef" 7)).map fun o =>
        (o.status, (shopDB.subscriptionsSince db).length, (db.topUpsOf o.tradeNo).length))) =
      some (some (.success, 1, 0)) := by decide +kernel
  cases hbuy : boughtWithBalance with
  | error e => simp [hbuy, Except.toOption] at hrun
  | ok db =>
    simp only [hbuy, Except.toOption, Option.map_some, Option.some.injEq,
      Option.map_eq_some_iff, Prod.mk.injEq, List.length_eq_zero_iff] at hrun
    obtain ⟨order, hfind, hstatus, hsubs, htopUps⟩ := hrun
    refine ⟨db, order, rfl, hfind, hstatus, ?_, htopUps, ?_⟩
    · intro hnil
      simp [hnil] at hsubs
    · simp only [Consistent, hstatus]
      rintro ⟨_, _, -, -, -, htopUp, -⟩
      rw [htopUps] at htopUp
      cases htopUp

end XinghaiApi
