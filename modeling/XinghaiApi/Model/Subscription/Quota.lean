import XinghaiApi.Model.Subscription.Lifecycle
import XinghaiApi.Model.Subscription.Refund

/-!
# The used amount stays within the total

Every transaction on subscriptions, in any order and with any arguments, keeps the used amount of
a subscription with a total between zero and the total. A transaction that fails leaves the
database as it was.
-/

namespace XinghaiApi

open Civil Machine

/-! ### Transactions -/

/-- A transaction on the subscriptions, with the clock readings it makes. A refund is two
transactions: `refund` with a failing outer part is the inner one alone, and `markRecord` is the
outer one when it commits later. -/
inductive SubscriptionTx where
  | create (now userId : Int) (plan : SubscriptionPlan) (source : String)
  | upgrade (now created userId sourceId : Int) (target : SubscriptionPlan)
  | preConsume (now : Int) (fuel : ℕ) (requestId : String) (userId amount : Int)
      (usingGroup : String)
  | postConsumeDelta (userSubscriptionId delta : Int)
  | refund (fault : Option RefundStatement) (requestId : String)
  | markRecord (record : SubscriptionPreConsumeRecord)
  | resetDue (now : Int) (fuel : ℕ) (id : Int)
  | adminResetUser (now userId planId : Int) (advanceResetTime : Bool)
  | adminResetPlan (now planId : Int) (advanceResetTime : Bool)
  | expire (now userId : Int)
  | invalidate (now userSubscriptionId : Int)
  | delete (now userSubscriptionId : Int)
  | updatePeriod (userSubscriptionId startTime endTime : Int)
  | extendPlan (now planId : Int) (durationUnit : String) (durationValue customSeconds : Int)
  | editPlans (plans : Table SubscriptionPlan)

/-- The database a transaction would commit. -/
def SubscriptionTx.exec (loc : Location) (db : DB) : SubscriptionTx → Except Error DB
  | .create now userId plan source =>
    (createUserSubscriptionFromPlan loc now userId plan source db).map Prod.fst
  | .upgrade now created userId sourceId target =>
    (upgradeUserSubscription loc now created userId sourceId target db).map Prod.fst
  | .preConsume now fuel requestId userId amount usingGroup =>
    (preConsumeUserSubscription loc fuel now requestId userId amount usingGroup db).map Prod.fst
  | .postConsumeDelta id delta => postConsumeUserSubscriptionDelta id delta db
  | .refund fault requestId => .ok (refundSubscriptionPreConsume fault requestId db).db
  | .markRecord record => .ok { db with records := db.records.save record }
  | .resetDue now fuel id => resetDueSubscription loc fuel now id db
  | .adminResetUser now userId planId advance =>
    adminResetUserSubscriptionsByPlan loc now userId planId advance db
  | .adminResetPlan now planId advance => adminResetPlanSubscriptions loc now planId advance db
  | .expire now userId => .ok (expireDueSubscriptions now userId db).1
  | .invalidate now id => (adminInvalidateUserSubscription now id db).map Prod.fst
  | .delete now id => (adminDeleteUserSubscription now id db).map Prod.fst
  | .updatePeriod id startTime endTime => adminUpdateUserSubscriptionPeriod id startTime endTime db
  | .extendPlan now planId unit value seconds =>
    adminExtendPlanSubscriptions loc now planId unit value seconds db
  | .editPlans plans => .ok { db with plans := plans }

/-- The database after a transaction: what it commits, or the old one when it rolls back. -/
def SubscriptionTx.step (loc : Location) (db : DB) (tx : SubscriptionTx) : DB :=
  match tx.exec loc db with
  | .ok db'  => db'
  | .error _ => db

/-! ### Rows within their total -/

/-- The used amount is between zero and the total, where there is a total. -/
def UserSubscription.WithinTotal (sub : UserSubscription) : Prop :=
  0 < sub.amountTotal → 0 ≤ sub.amountUsed ∧ sub.amountUsed ≤ sub.amountTotal

/-- The rows created from key `k` on are within their total. -/
def UserSubscription.WithinTotalFrom (k : Int) (sub : UserSubscription) : Prop :=
  k ≤ sub.id → sub.WithinTotal

/-- All rows created from key `k` on are within their total. -/
abbrev DB.WithinTotalFrom (k : Int) (db : DB) : Prop :=
  db.subscriptions.All (UserSubscription.WithinTotalFrom k)

namespace UserSubscription

variable {k : Int} {sub sub' : UserSubscription}

/-- A row keeps its bound when its amounts are not written. -/
lemma WithinTotalFrom.of_eq (h : sub.WithinTotalFrom k) (hid : sub'.id = sub.id)
    (htotal : sub'.amountTotal = sub.amountTotal) (hused : sub'.amountUsed = sub.amountUsed) :
    sub'.WithinTotalFrom k := by
  intro hk hpos
  rw [hid] at hk
  rw [htotal] at hpos
  rw [htotal, hused]
  exact h hk hpos

lemma withinTotalFrom_of_zero (hused : sub.amountUsed = 0) : sub.WithinTotalFrom k := by
  intro _ hpos
  rw [hused]
  exact ⟨le_refl 0, hpos.le⟩

lemma WithinTotalFrom.apply (h : sub.WithinTotalFrom k) (action : ResetAction) :
    (action.apply sub).WithinTotalFrom k := by
  cases action with
  | keep => exact h
  | schedule base next => exact h.of_eq rfl rfl rfl
  | zero base next => exact withinTotalFrom_of_zero rfl

lemma WithinTotalFrom.maybeReset {loc : Location} {plan : SubscriptionPlan} {now : Int} {fuel : ℕ}
    (h : sub.WithinTotalFrom k) (hreset : sub.maybeReset loc plan now fuel = some sub') :
    sub'.WithinTotalFrom k := by
  obtain ⟨action, -, rfl⟩ := Option.map_eq_some_iff.mp hreset
  exact h.apply action

lemma WithinTotalFrom.tryConsume {amount : Int} (h : sub.WithinTotalFrom k) (hamount : 0 < amount)
    (hconsume : sub.tryConsume amount = some sub') : sub'.WithinTotalFrom k := by
  obtain ⟨rfl, hfits⟩ := tryConsume_eq_some.mp hconsume
  intro hk hpos
  have hlow := (h hk hpos).1
  exact ⟨by simp only; omega, hfits hpos⟩

lemma WithinTotalFrom.postConsumeDelta {delta : Int}
    (hdelta : sub.postConsumeDelta delta = .ok sub') : sub'.WithinTotalFrom k := by
  obtain ⟨rfl, hfits⟩ := postConsumeDelta_eq_ok.mp hdelta
  intro _ hpos
  exact ⟨le_max_left _ _, hfits hpos⟩

end UserSubscription

/-! ### Transactions keep the rows within their total -/

/-- A successful part of a transaction's result. -/
lemma map_fst_eq_ok {α : Type} {db' : DB} {x : Except Error (DB × α)}
    (h : x.map Prod.fst = .ok db') : ∃ a, x = .ok (db', a) := by
  obtain ⟨⟨_, a⟩, hx, rfl⟩ := Except.map_eq_ok.mp h
  exact ⟨a, hx⟩

section

variable {k now userId : Int} {loc : Location} {fuel : ℕ} {db db' : DB} (hdb : db.WithinTotalFrom k)

include hdb

variable {requestId usingGroup message : String} {amount id planId : Int}
  {result : SubscriptionPreConsumeResult} {plan : SubscriptionPlan} {advance : Bool}
  {sub : UserSubscription}

lemma preConsumeCandidates_withinTotal {candidates : List UserSubscription}
    (hamount : 0 < amount) (hrows : ∀ sub ∈ candidates, sub.WithinTotalFrom k)
    (h : preConsumeCandidates loc fuel now requestId userId amount usingGroup candidates db =
      .ok (db', result)) : db'.WithinTotalFrom k := by
  induction candidates generalizing db with
  | nil => cases h
  | cons candidate rest ih =>
    have hrest : ∀ sub ∈ rest, sub.WithinTotalFrom k :=
      fun sub hsub => hrows sub (List.mem_cons_of_mem _ hsub)
    rcases preConsumeCandidates_cons h with h | ⟨plan, sub, -, hreset, h⟩
    · exact ih hdb hrest h
    have hsub := (hrows candidate List.mem_cons_self).maybeReset hreset
    rcases h with ⟨-, h⟩ | ⟨sub', hconsume, rfl, -⟩
    · -- too little left: the candidate keeps its reset
      exact ih (hdb.save hsub) hrest h
    · exact hdb.save (hsub.tryConsume hamount hconsume)

lemma preConsumeSubscription_withinTotal
    (h : preConsumeUserSubscription loc fuel now requestId userId amount usingGroup db =
      .ok (db', result)) : db'.WithinTotalFrom k := by
  obtain ⟨-, hamount, ⟨-, -, -, -, -, rfl, -⟩ | ⟨-, hloop⟩⟩ := preConsumeSubscription_cases h
  · exact hdb
  · refine preConsumeCandidates_withinTotal hdb hamount ?_ hloop
    intro sub hsub
    exact hdb sub (Table.mem_select.mp hsub).1

lemma subscriptionDelta_withinTotal {delta : Int}
    (h : postConsumeUserSubscriptionDelta id delta db = .ok db') : db'.WithinTotalFrom k := by
  by_cases hdelta : delta = 0
  · simp only [postConsumeUserSubscriptionDelta, hdelta, if_true] at h
    split_ifs at h
    cases h
    exact hdb
  · obtain ⟨-, sub, sub', -, hrow, rfl⟩ := (subscriptionDelta_eq_ok hdelta).mp h
    exact hdb.save (UserSubscription.WithinTotalFrom.postConsumeDelta hrow)

lemma refundPreConsume_withinTotal {fault : Option RefundStatement} :
    (refundSubscriptionPreConsume fault requestId db).db.WithinTotalFrom k := by
  rcases subscriptions_refundPreConsume fault requestId db with
    hsame | ⟨id, delta, -, db', hok, hrows⟩
  · rwa [DB.WithinTotalFrom, hsame]
  · rw [DB.WithinTotalFrom, hrows]
    exact subscriptionDelta_withinTotal hdb hok

lemma resetDueSubscription_withinTotal (h : resetDueSubscription loc fuel now id db = .ok db') :
    db'.WithinTotalFrom k := by
  simp only [resetDueSubscription] at h
  split at h
  · cases h
    exact hdb
  · rename_i sub hfind
    by_cases hdue : 0 < sub.nextResetTime ∧ sub.nextResetTime ≤ now
    · rw [if_pos hdue] at h
      split at h
      · cases h
        exact hdb
      · split at h
        · cases h
        · rename_i sub' hreset
          cases h
          exact hdb.save ((hdb.of_find hfind).maybeReset hreset)
    · rw [if_neg hdue] at h
      cases h
      exact hdb

/-- The resets of an administrator zero every row they match. -/
lemma adminReset_withinTotal {p : UserSubscription → Bool} :
    (db.subscriptions.modifyWhere p
      (UserSubscription.resetUserSubscription loc plan now advance)).All
        (UserSubscription.WithinTotalFrom k) := by
  apply hdb.modifyWhere
  intro r _ _
  have hzero : (r.resetUserSubscription loc plan now advance).WithinTotalFrom k := by
    apply UserSubscription.withinTotalFrom_of_zero
    cases advance <;> rfl
  exact hzero.of_eq (by cases advance <;> rfl) rfl rfl

lemma adminResetByPlan_withinTotal
    (h : adminResetUserSubscriptionsByPlan loc now userId planId advance db = .ok db') :
    db'.WithinTotalFrom k := by
  unfold adminResetUserSubscriptionsByPlan at h
  split at h
  · cases h
  split at h
  · cases h
  simp only at h
  split at h
  · cases h
  · cases h
    exact adminReset_withinTotal hdb

lemma adminResetPlan_withinTotal
    (h : adminResetPlanSubscriptions loc now planId advance db = .ok db') :
    db'.WithinTotalFrom k := by
  unfold adminResetPlanSubscriptions at h
  split at h
  · cases h
  split at h
  · cases h
  · cases h
    exact adminReset_withinTotal hdb

lemma createFromPlan_withinTotal {source : String}
    (h : createUserSubscriptionFromPlan loc now userId plan source db = .ok (db', sub)) :
    db'.WithinTotalFrom k := by
  obtain ⟨endUnix, prevGroup, -, rfl⟩ := createFromPlan_frame h
  exact hdb.insert (UserSubscription.withinTotalFrom_of_zero rfl)

lemma upgradeUserSubscription_withinTotal {created sourceId : Int} {target : SubscriptionPlan}
    (h : upgradeUserSubscription loc now created userId sourceId target db = .ok (db', sub)) :
    db'.WithinTotalFrom k := by
  unfold upgradeUserSubscription at h
  split at h
  · cases h
  rename_i source hfind
  split at h
  · cases h
  split at h
  · cases h
  split at h
  · cases h
  · rename_i db₁ _ hdown
    obtain ⟨users, rfl⟩ := downgradeUserGroup_frame hdown
    refine createFromPlan_withinTotal ?_ h
    exact hdb.save ((hdb.of_find hfind).of_eq rfl rfl rfl)

lemma expireDueSubscriptions_withinTotal :
    (expireDueSubscriptions now userId db).1.WithinTotalFrom k := by
  have hexpired : (db.markExpired userId now).WithinTotalFrom k :=
    hdb.modifyWhere fun r hr _ => hr.of_eq rfl rfl rfl
  unfold expireDueSubscriptions
  simp only
  split
  · exact hexpired
  · split
    · exact hexpired
    · rename_i last _
      obtain ⟨users, hframe⟩ := revertUserGroup_frame (db.markExpired userId now) last
        ((db.markExpired userId now).userGroup userId)
      rw [hframe]
      exact hexpired

lemma adminInvalidate_withinTotal
    (h : adminInvalidateUserSubscription now id db = .ok (db', message)) :
    db'.WithinTotalFrom k := by
  unfold adminInvalidateUserSubscription at h
  split at h
  · cases h
  split at h
  · cases h
  rename_i sub hfind
  simp only at h
  split at h
  · cases h
  · rename_i db₁ target hdown
    obtain ⟨users, rfl⟩ := downgradeUserGroup_frame hdown
    cases h
    exact hdb.save ((hdb.of_find hfind).of_eq rfl rfl rfl)

lemma adminDelete_withinTotal
    (h : adminDeleteUserSubscription now id db = .ok (db', message)) : db'.WithinTotalFrom k := by
  unfold adminDeleteUserSubscription at h
  split at h
  · cases h
  split at h
  · cases h
  split at h
  · cases h
  · rename_i db₁ target hdown
    obtain ⟨users, rfl⟩ := downgradeUserGroup_frame hdown
    cases h
    exact hdb.delete

lemma adminUpdatePeriod_withinTotal {startTime endTime : Int}
    (h : adminUpdateUserSubscriptionPeriod id startTime endTime db = .ok db') :
    db'.WithinTotalFrom k := by
  unfold adminUpdateUserSubscriptionPeriod at h
  split at h
  · cases h
  split at h
  · cases h
  split at h
  · cases h
  split at h
  · cases h
  · rename_i sub hfind
    cases h
    exact hdb.save ((hdb.of_find hfind).of_eq rfl rfl rfl)

lemma adminExtendPlan_withinTotal {unit : String} {value seconds : Int}
    (h : adminExtendPlanSubscriptions loc now planId unit value seconds db = .ok db') :
    db'.WithinTotalFrom k := by
  unfold adminExtendPlanSubscriptions at h
  simp only at h
  split at h
  · cases h
  split at h
  · cases h
  split at h
  · cases h
  · cases h
    apply hdb.modifyWhere
    intro r hr _
    split
    · exact hr.of_eq rfl rfl rfl
    · exact hr.of_eq rfl rfl rfl

/-- One transaction, whichever it is. -/
lemma SubscriptionTx.step_withinTotal (tx : SubscriptionTx) :
    (tx.step loc db).WithinTotalFrom k := by
  unfold SubscriptionTx.step
  split
  · rename_i db' h
    cases tx with
    | create now userId plan source =>
      obtain ⟨_, h⟩ := map_fst_eq_ok h
      exact createFromPlan_withinTotal hdb h
    | upgrade now created userId sourceId target =>
      obtain ⟨_, h⟩ := map_fst_eq_ok h
      exact upgradeUserSubscription_withinTotal hdb h
    | preConsume now fuel requestId userId amount usingGroup =>
      obtain ⟨_, h⟩ := map_fst_eq_ok h
      exact preConsumeSubscription_withinTotal hdb h
    | postConsumeDelta id delta => exact subscriptionDelta_withinTotal hdb h
    | refund fault requestId =>
      obtain rfl := Except.ok.inj h
      exact refundPreConsume_withinTotal hdb
    | markRecord record =>
      cases h
      exact hdb
    | resetDue now fuel id => exact resetDueSubscription_withinTotal hdb h
    | adminResetUser now userId planId advance =>
      exact adminResetByPlan_withinTotal hdb h
    | adminResetPlan now planId advance => exact adminResetPlan_withinTotal hdb h
    | expire now userId =>
      cases h
      exact expireDueSubscriptions_withinTotal hdb
    | invalidate now id =>
      obtain ⟨_, h⟩ := map_fst_eq_ok h
      exact adminInvalidate_withinTotal hdb h
    | delete now id =>
      obtain ⟨_, h⟩ := map_fst_eq_ok h
      exact adminDelete_withinTotal hdb h
    | updatePeriod id startTime endTime =>
      exact adminUpdatePeriod_withinTotal hdb h
    | extendPlan now planId unit value seconds =>
      exact adminExtendPlan_withinTotal hdb h
    | editPlans plans =>
      cases h
      exact hdb
  · exact hdb

end

/-- After every transaction of any run, the used amount of every subscription created in the run
with a total is between zero and its total. -/
theorem amountUsed_withinTotal (loc : Location) (db : DB) (txs : List SubscriptionTx) :
    ∀ t ∈ states (SubscriptionTx.step loc) db txs, ∀ sub ∈ t.subscriptions,
      db.subscriptions.next ≤ sub.id → 0 < sub.amountTotal →
        0 ≤ sub.amountUsed ∧ sub.amountUsed ≤ sub.amountTotal := by
  have hstart : db.WithinTotalFrom db.subscriptions.next := by
    -- no row of the first database has the next key
    intro sub hsub hk
    exact absurd (db.subscriptions.fresh sub hsub) (not_lt.mpr hk)
  exact states_invariant (fun t tx ht => tx.step_withinTotal ht) hstart txs

/-- A plan of 1000 units for 1000 seconds. -/
def thousandPlan : SubscriptionPlan :=
  { id := 1, durationUnit := "custom", customSeconds := 1000, totalAmount := 1000 }

/-- A subscription of the plan is bought and 300 units are pre-consumed from it. -/
def preConsumedRun : List SubscriptionTx :=
  [.editPlans (Table.empty.insert thousandPlan), .create 1000 7 thousandPlan "order",
    .preConsume 1010 0 "req" 7 300 ""]

def preConsumedRow : UserSubscription :=
  { UserSubscription.fromPlan Location.utc 7 thousandPlan "order" 1000 2000 "" with
    id := 1, amountUsed := 300 }

theorem amountUsed_withinTotal_preConsumed :
    preConsumedRow ∈
        (run (SubscriptionTx.step Location.utc) DB.empty preConsumedRun).subscriptions ∧
      0 ≤ preConsumedRow.amountUsed ∧ preConsumedRow.amountUsed ≤ preConsumedRow.amountTotal := by
  have hrow : preConsumedRow ∈
      (run (SubscriptionTx.step Location.utc) DB.empty preConsumedRun).subscriptions := by decide
  exact ⟨hrow, amountUsed_withinTotal Location.utc DB.empty preConsumedRun _
    (run_mem_states _ _ _) preConsumedRow hrow (by decide) (by decide)⟩

end XinghaiApi
