import XinghaiApi.Model.Subscription.Reset

/-!
# Consuming the quota of a subscription

The transactions that move the used amount of a subscription: the pre-consumption of a request,
which picks the first matching subscription with enough quota left and resets it lazily on the
way, the later correction by a signed delta, and the resets of the background task and of an
administrator. Every transaction gives the database it commits, or the error it rolls back with.
-/

namespace XinghaiApi

open Civil Text

/-- `getSubscriptionPlanByIdTx`. -/
def getSubscriptionPlanById (db : DB) (id : Int) : Except Error SubscriptionPlan :=
  if id ≤ 0 then .error .invalidPlanId
  else
    match db.plans.find id with
    | none      => .error .recordNotFound
    | some plan => .ok plan

lemma getPlanById_id {db : DB} {id : Int} {plan : SubscriptionPlan}
    (h : getSubscriptionPlanById db id = .ok plan) : plan.id = id := by
  unfold getSubscriptionPlanById at h
  split at h
  · cases h
  split at h
  · cases h
  · rename_i hfind
    cases h
    exact (Table.find_eq_some_iff.mp hfind).2

/-! ### One row -/

variable {sub sub' : UserSubscription}

/-- A subscription without an upgrade group serves every group, another one only its own. -/
def subscriptionMatchesUsingGroup (sub : UserSubscription) (usingGroup : String) : Bool :=
  let usingGroup := trimSpace usingGroup
  let upgradeGroup := trimSpace sub.upgradeGroup
  if upgradeGroup = "" then true
  else if usingGroup = "" ∨ usingGroup = "auto" then false
  else upgradeGroup == usingGroup

/-- The row after `amount` is pre-consumed from it, if that much is left. -/
def UserSubscription.tryConsume (amount : Int) (sub : UserSubscription) : Option UserSubscription :=
  if 0 < sub.amountTotal ∧ sub.amountTotal - sub.amountUsed < amount then none
  else some { sub with amountUsed := sub.amountUsed + amount }

/-- The row after its used amount is corrected by `delta`; giving back stops at zero. -/
def UserSubscription.postConsumeDelta (delta : Int) (sub : UserSubscription) :
    Except Error UserSubscription :=
  let newUsed := if sub.amountUsed + delta < 0 then 0 else sub.amountUsed + delta
  if 0 < sub.amountTotal ∧ sub.amountTotal < newUsed then
    .error (.usedExceedsTotal newUsed sub.amountTotal)
  else .ok { sub with amountUsed := newUsed }

lemma UserSubscription.tryConsume_eq_some {amount : Int} :
    sub.tryConsume amount = some sub' ↔
      sub' = { sub with amountUsed := sub.amountUsed + amount } ∧
        (0 < sub.amountTotal → sub.amountUsed + amount ≤ sub.amountTotal) := by
  simp only [tryConsume]
  split_ifs with hlow
  · constructor
    · intro h
      cases h
    · omega
  · constructor
    · intro h
      cases h
      exact ⟨rfl, fun hpos => by omega⟩
    · rintro ⟨rfl, -⟩
      rfl

lemma UserSubscription.postConsumeDelta_eq_ok {delta : Int} :
    sub.postConsumeDelta delta = .ok sub' ↔
      sub' = { sub with amountUsed := max 0 (sub.amountUsed + delta) } ∧
        (0 < sub.amountTotal → max 0 (sub.amountUsed + delta) ≤ sub.amountTotal) := by
  have hmax : (if sub.amountUsed + delta < 0 then 0 else sub.amountUsed + delta)
      = max 0 (sub.amountUsed + delta) := by
    split_ifs <;> omega
  simp only [postConsumeDelta, hmax]
  split_ifs with hover
  · constructor
    · intro h
      cases h
    · rintro ⟨-, hfits⟩
      exact absurd (hfits hover.1) (by omega)
  · constructor
    · intro h
      cases h
      exact ⟨rfl, fun hpos => by omega⟩
    · rintro ⟨rfl, -⟩
      rfl

/-! ### Pre-consumption -/

structure SubscriptionPreConsumeResult where
  userSubscriptionId : Int
  preConsumed : Int
  amountTotal : Int
  amountUsedBefore : Int
  amountUsedAfter : Int
deriving DecidableEq

/-- `ORDER BY end_time asc, id asc`. -/
def endTimeAsc (a b : UserSubscription) : Prop :=
  a.endTime < b.endTime ∨ (a.endTime = b.endTime ∧ a.id ≤ b.id)

instance : DecidableRel endTimeAsc := fun _ _ => inferInstanceAs (Decidable (_ ∨ _))

def DB.findRecord (db : DB) (requestId : String) : Option SubscriptionPreConsumeRecord :=
  db.records.findBy fun r => r.requestId == requestId

def DB.saveSubscription (db : DB) (sub : UserSubscription) : DB :=
  { db with subscriptions := db.subscriptions.save sub }

section

variable (loc : Location) (fuel : ℕ) (now : Int) (requestId : String) (userId amount : Int)
  (usingGroup : String)

/-- The loop of `PreConsumeUserSubscription` over the candidates. A candidate that is reset but
has too little quota left keeps the reset when a later candidate serves the request. -/
def preConsumeCandidates : List UserSubscription → DB →
    Except Error (DB × SubscriptionPreConsumeResult)
  | [], _ => .error (.quotaInsufficient amount)
  | candidate :: rest, db =>
    if subscriptionMatchesUsingGroup candidate usingGroup = false then
      preConsumeCandidates rest db
    else
      match getSubscriptionPlanById db candidate.planId with
      | .error e => .error e
      | .ok plan =>
        match candidate.maybeReset loc plan now fuel with
        | none     => .error .stillRunning
        | some sub =>
          match sub.tryConsume amount with
          | none      => preConsumeCandidates rest (db.saveSubscription sub)
          | some sub' =>
            -- the request id is unique: a request that has a record does not get here
            let record : SubscriptionPreConsumeRecord :=
              { id := 0, requestId := requestId, userId := userId, userSubscriptionId := sub.id,
                preConsumed := amount, status := .consumed }
            .ok ({ db.saveSubscription sub' with records := db.records.insert record },
              { userSubscriptionId := sub.id, preConsumed := amount,
                amountTotal := sub.amountTotal, amountUsedBefore := sub.amountUsed,
                amountUsedAfter := sub'.amountUsed })

/-- The subscriptions a request of the user may consume from, in the order they are tried. -/
def DB.candidates (db : DB) : List UserSubscription :=
  db.subscriptions.select
    (fun r => r.userId == userId && r.status == .active && decide (now < r.endTime)) endTimeAsc

def preConsumeUserSubscription (db : DB) : Except Error (DB × SubscriptionPreConsumeResult) :=
  if userId ≤ 0 then .error .invalidUserId
  else if trimSpace requestId = "" then .error .requestIdEmpty
  else if amount ≤ 0 then .error .amountNotPositive
  else
    match db.findRecord requestId with
    | some existing =>
      if existing.status = .refunded then .error .alreadyRefunded
      else
        match db.subscriptions.find existing.userSubscriptionId with
        | none     => .error .recordNotFound
        | some sub =>
          .ok (db,
            { userSubscriptionId := sub.id, preConsumed := existing.preConsumed,
              amountTotal := sub.amountTotal, amountUsedBefore := sub.amountUsed,
              amountUsedAfter := sub.amountUsed })
    | none =>
      if db.candidates now userId = [] then .error .noActiveSubscription
      else
        preConsumeCandidates loc fuel now requestId userId amount (trimSpace usingGroup)
          (db.candidates now userId) db

variable {loc fuel now requestId userId amount usingGroup} {db db' : DB}
  {result : SubscriptionPreConsumeResult}

/-- The loop passes over its first candidate, with or without a reset of it, or ends with it. -/
lemma preConsumeCandidates_cons {candidate : UserSubscription} {rest : List UserSubscription}
    (h : preConsumeCandidates loc fuel now requestId userId amount usingGroup (candidate :: rest)
      db = .ok (db', result)) :
    preConsumeCandidates loc fuel now requestId userId amount usingGroup rest db =
        .ok (db', result) ∨
      ∃ plan sub, getSubscriptionPlanById db candidate.planId = .ok plan ∧
        candidate.maybeReset loc plan now fuel = some sub ∧
        (sub.tryConsume amount = none ∧ preConsumeCandidates loc fuel now requestId userId amount
            usingGroup rest (db.saveSubscription sub) = .ok (db', result) ∨
          ∃ sub', sub.tryConsume amount = some sub' ∧
            db' = { db.saveSubscription sub' with
              records := db.records.insert
                { id := 0, requestId := requestId, userId := userId, userSubscriptionId := sub.id
                  preConsumed := amount, status := .consumed } } ∧
            result.userSubscriptionId = sub.id ∧ result.preConsumed = amount) := by
  rw [preConsumeCandidates] at h
  split at h
  · exact Or.inl h
  split at h
  · cases h
  rename_i plan hplan
  split at h
  · cases h
  rename_i sub hreset
  refine Or.inr ⟨plan, sub, hplan, hreset, ?_⟩
  split at h
  · rename_i htake
    exact Or.inl ⟨htake, h⟩
  · rename_i sub' htake
    cases h
    exact Or.inr ⟨sub', htake, rfl, rfl, rfl⟩

/-- A pre-consumption returns what the record of the request says, or runs over the candidates
of a request without a record. -/
lemma preConsumeSubscription_cases
    (h : preConsumeUserSubscription loc fuel now requestId userId amount usingGroup db =
      .ok (db', result)) :
    0 < userId ∧ 0 < amount ∧
      ((∃ existing sub, db.findRecord requestId = some existing ∧
          existing.status ≠ .refunded ∧
          db.subscriptions.find existing.userSubscriptionId = some sub ∧ db' = db ∧
          result = { userSubscriptionId := sub.id, preConsumed := existing.preConsumed,
                     amountTotal := sub.amountTotal, amountUsedBefore := sub.amountUsed,
                     amountUsedAfter := sub.amountUsed }) ∨
        (db.findRecord requestId = none ∧
          preConsumeCandidates loc fuel now requestId userId amount (trimSpace usingGroup)
            (db.candidates now userId) db = .ok (db', result))) := by
  unfold preConsumeUserSubscription at h
  split at h
  · cases h
  split at h
  · cases h
  split at h
  · cases h
  rename_i huser _ hamount
  refine ⟨not_le.mp huser, not_le.mp hamount, ?_⟩
  cases hr : db.findRecord requestId with
  | none =>
    simp only [hr] at h
    split at h
    · cases h
    · exact Or.inr ⟨rfl, h⟩
  | some existing =>
    simp only [hr] at h
    split at h
    · cases h
    · rename_i hopen
      cases hfind : db.subscriptions.find existing.userSubscriptionId with
      | none =>
        simp only [hfind] at h
        cases h
      | some sub =>
        simp only [hfind] at h
        cases h
        exact Or.inl ⟨existing, sub, rfl, hopen, hfind, rfl, rfl⟩

end

/-! ### Corrections and resets -/

def postConsumeUserSubscriptionDelta (userSubscriptionId delta : Int) (db : DB) : Except Error DB :=
  if userSubscriptionId ≤ 0 then .error .invalidUserSubscriptionId
  else if delta = 0 then .ok db
  else
    match db.subscriptions.find userSubscriptionId with
    | none     => .error .recordNotFound
    | some sub =>
      match sub.postConsumeDelta delta with
      | .error e => .error e
      | .ok sub' => .ok (db.saveSubscription sub')

/-- When the correction commits, and the one row it writes. -/
lemma subscriptionDelta_eq_ok {id delta : Int} {db db' : DB} (hdelta : delta ≠ 0) :
    postConsumeUserSubscriptionDelta id delta db = .ok db' ↔
      0 < id ∧ ∃ sub sub', db.subscriptions.find id = some sub ∧
        sub.postConsumeDelta delta = .ok sub' ∧ db' = db.saveSubscription sub' := by
  simp only [postConsumeUserSubscriptionDelta, hdelta, if_false]
  split_ifs with hid
  · constructor
    · intro h
      cases h
    · omega
  · cases hf : db.subscriptions.find id with
    | none => simp
    | some sub =>
      cases hd : sub.postConsumeDelta delta with
      | error e => simp [hd]
      | ok sub' =>
        have hpos : 0 < id := by omega
        simp [hpos, hd, eq_comm]

/-- The transaction of `ResetDueSubscriptions` for one subscription it has listed. The row is
read again under the lock, so nothing happens when the listed state is stale. -/
def resetDueSubscription (loc : Location) (fuel : ℕ) (now : Int) (id : Int) (db : DB) :
    Except Error DB :=
  match db.subscriptions.find id with
  | none     => .ok db
  | some sub =>
    if 0 < sub.nextResetTime ∧ sub.nextResetTime ≤ now then
      match getSubscriptionPlanById db sub.planId with
      | .error _ => .ok db
      | .ok plan =>
        match sub.maybeReset loc plan now fuel with
        | none      => .error .stillRunning
        | some sub' => .ok (db.saveSubscription sub')
    else .ok db

/-- The rows an administrator's reset of a plan applies to. -/
def UserSubscription.activeOfPlan (plan : SubscriptionPlan) (now : Int)
    (r : UserSubscription) : Bool :=
  r.planId == plan.id && r.status == .active && decide (now < r.endTime)

def adminResetUserSubscriptionsByPlan (loc : Location) (now userId planId : Int)
    (advanceResetTime : Bool) (db : DB) : Except Error DB :=
  if userId ≤ 0 ∨ planId ≤ 0 then .error .invalidUserIdOrPlanId
  else
    match getSubscriptionPlanById db planId with
    | .error e => .error e
    | .ok plan =>
      let matched (r : UserSubscription) : Bool := r.userId == userId && r.activeOfPlan plan now
      let reset := UserSubscription.resetUserSubscription loc plan now advanceResetTime
      if db.subscriptions.rows.any matched = false then .error .noActivePlanSubscription
      else .ok { db with subscriptions := db.subscriptions.modifyWhere matched reset }

def adminResetPlanSubscriptions (loc : Location) (now planId : Int) (advanceResetTime : Bool)
    (db : DB) : Except Error DB :=
  if planId ≤ 0 then .error .invalidPlanArg
  else
    match getSubscriptionPlanById db planId with
    | .error e => .error e
    | .ok plan =>
      let matched (r : UserSubscription) : Bool := r.activeOfPlan plan now
      let reset := UserSubscription.resetUserSubscription loc plan now advanceResetTime
      .ok { db with subscriptions := db.subscriptions.modifyWhere matched reset }

end XinghaiApi
