import XinghaiApi.Model.Subscription.Quota

/-!
# The transactions seen from one subscription

What a transaction does to a single row: a pre-consumption that tries the row, a due reset, the
reset of an administrator and a correction. `SubscriptionTx.step_row` shows that a transaction on
the whole database is, for each row, one of these or nothing, so what holds along every run of a
row holds for that row in every run of the database.
-/

namespace XinghaiApi

open Civil Text UserSubscription Table SubscriptionTx List

inductive RowTx where
  /-- a pre-consumption tries the row; `elsewhere` if a later candidate serves the request -/
  | preConsume (now : Int) (fuel : ℕ) (amount : Int) (elsewhere : Bool)
  | resetDue (now : Int) (fuel : ℕ)
  | adminReset (now : Int) (advanceResetTime : Bool)
  | postConsumeDelta (delta : Int)
deriving DecidableEq

def UserSubscription.isOpen (now : Int) (sub : UserSubscription) : Bool :=
  sub.status == .active && decide (now < sub.endTime)

section

variable (loc : Location) (plan : SubscriptionPlan)

/-- The row after a transaction. A catch-up loop that does not end leaves it as it is. -/
def RowTx.step (sub : UserSubscription) : RowTx → UserSubscription
  | .preConsume now fuel amount elsewhere =>
    if sub.isOpen now then
      match sub.maybeReset loc plan now fuel with
      | none       => sub
      | some reset =>
        match reset.tryConsume amount with
        | some taken => taken
        | none       => if elsewhere then reset else sub
    else sub
  | .resetDue now fuel =>
    if 0 < sub.nextResetTime ∧ sub.nextResetTime ≤ now then
      (sub.maybeReset loc plan now fuel).getD sub
    else sub
  | .adminReset now advance =>
    if sub.isOpen now then sub.resetUserSubscription loc plan now advance else sub
  | .postConsumeDelta delta =>
    match sub.postConsumeDelta delta with
    | .ok sub'  => sub'
    | .error _  => sub

end

/-! ### Rows keep their key -/

section

variable {loc : Location} {plan : SubscriptionPlan} {now : Int} {fuel : ℕ}
  {sub sub' : UserSubscription}

lemma UserSubscription.maybeReset_id (h : sub.maybeReset loc plan now fuel = some sub') :
    sub'.id = sub.id := by
  obtain ⟨action, -, rfl⟩ := Option.map_eq_some_iff.mp h
  cases action <;> rfl

lemma UserSubscription.tryConsume_id {amount : Int} (h : sub.tryConsume amount = some sub') :
    sub'.id = sub.id := by
  obtain ⟨rfl, -⟩ := tryConsume_eq_some.mp h
  rfl

lemma UserSubscription.resetUserSubscription_id {advance : Bool} :
    (sub.resetUserSubscription loc plan now advance).id = sub.id := by
  cases advance with
  | true => simp [resetUserSubscription]
  | false => simp [resetUserSubscription]

end

lemma find_saveSubscription_self {db : DB} {sub row : UserSubscription} {id : Int}
    (hfind : db.subscriptions.find id = some sub) (hid : row.id = id) :
    (db.saveSubscription row).subscriptions.find id = some row := by
  subst hid
  exact find_save_self hfind

lemma find_saveSubscription_of_ne {db : DB} {row : UserSubscription} {id : Int}
    (hid : row.id ≠ id) :
    (db.saveSubscription row).subscriptions.find id = db.subscriptions.find id :=
  find_save_of_ne (Ne.symm hid)

/-! ### A pre-consumption seen from one row -/

section

variable {loc : Location} {plan : SubscriptionPlan} {now userId amount id : Int} {fuel : ℕ}
  {requestId usingGroup : String} {db db' : DB} {sub : UserSubscription}
  {candidates : List UserSubscription} {result : SubscriptionPreConsumeResult}

/-- The loop leaves a row alone that is not among the candidates. -/
lemma preConsumeCandidates_other (hother : ∀ c ∈ candidates, c.id ≠ id)
    (h : preConsumeCandidates loc fuel now requestId userId amount usingGroup candidates db =
      .ok (db', result)) :
    db'.subscriptions.find id = db.subscriptions.find id := by
  induction candidates generalizing db with
  | nil => cases h
  | cons c rest ih =>
    have hc : c.id ≠ id := hother c mem_cons_self
    have hrest : ∀ x ∈ rest, x.id ≠ id := fun x hx => hother x (mem_cons_of_mem _ hx)
    rcases preConsumeCandidates_cons h with h | ⟨plan, reset, -, hreset, h⟩
    · exact ih hrest h
    have hid : reset.id ≠ id := by rw [maybeReset_id hreset]; exact hc
    rcases h with ⟨-, h⟩ | ⟨taken, htake, rfl, -⟩
    · rw [ih hrest h, find_saveSubscription_of_ne hid]
    · apply find_saveSubscription_of_ne
      rw [tryConsume_id htake]
      exact hid

/-- The loop does to a candidate what one pre-consumption does to its row, or nothing. -/
lemma preConsumeCandidates_row (hnodup : (candidates.map UserSubscription.id).Nodup)
    (hfind : db.subscriptions.find id = some sub)
    (hplan : getSubscriptionPlanById db sub.planId = .ok plan)
    (hcand : ∀ c ∈ candidates, c.id = id → c = sub ∧ sub.isOpen now = true)
    (h : preConsumeCandidates loc fuel now requestId userId amount usingGroup candidates db =
      .ok (db', result)) :
    db'.subscriptions.find id = some sub ∨
      ∃ elsewhere, db'.subscriptions.find id =
        some (RowTx.step loc plan sub (.preConsume now fuel amount elsewhere)) := by
  induction candidates generalizing db with
  | nil => cases h
  | cons c rest ih =>
    rw [map_cons, nodup_cons] at hnodup
    have hrest : ∀ x ∈ rest, x.id = id → x = sub ∧ sub.isOpen now = true :=
      fun x hx => hcand x (mem_cons_of_mem _ hx)
    rcases preConsumeCandidates_cons h with h | ⟨plan', reset, hplan', hreset, h⟩
    · exact ih hnodup.2 hfind hplan hrest h
    have hresetId := maybeReset_id hreset
    by_cases hid : c.id = id
    · -- the row itself: the rest of the list does not hold it again
      obtain ⟨rfl, hopen⟩ := hcand c mem_cons_self hid
      have hlater : ∀ x ∈ rest, x.id ≠ id := by
        intro x hx hxid
        apply hnodup.1
        rw [hid, ← hxid]
        exact mem_map_of_mem hx
      obtain rfl := Except.ok.inj (hplan'.symm.trans hplan)
      refine Or.inr ⟨true, ?_⟩
      rcases h with ⟨htake, h⟩ | ⟨taken, htake, rfl, -⟩
      · rw [preConsumeCandidates_other hlater h,
          find_saveSubscription_self hfind (hresetId.trans hid)]
        simp [RowTx.step, hopen, hreset, htake]
      · have htakenId := (tryConsume_id htake).trans (hresetId.trans hid)
        have hsaved := find_saveSubscription_self hfind htakenId
        simpa [RowTx.step, hopen, hreset, htake] using hsaved
    · rw [← hresetId] at hid
      rcases h with ⟨-, h⟩ | ⟨taken, htake, rfl, -⟩
      · exact ih hnodup.2 ((find_saveSubscription_of_ne hid).trans hfind) hplan hrest h
      · left
        rw [← tryConsume_id htake] at hid
        exact (@find_saveSubscription_of_ne db taken id hid).trans hfind

lemma preConsumeSubscription_row (hfind : db.subscriptions.find id = some sub)
    (hplan : getSubscriptionPlanById db sub.planId = .ok plan)
    (h : preConsumeUserSubscription loc fuel now requestId userId amount usingGroup db =
      .ok (db', result)) :
    db'.subscriptions.find id = some sub ∨
      ∃ elsewhere, db'.subscriptions.find id =
        some (RowTx.step loc plan sub (.preConsume now fuel amount elsewhere)) := by
  obtain ⟨-, -, ⟨-, -, -, -, -, rfl, -⟩ | ⟨-, hloop⟩⟩ := preConsumeSubscription_cases h
  · exact Or.inl hfind
  · refine preConsumeCandidates_row nodup_key_select hfind hplan ?_ hloop
    intro c hc hid
    obtain ⟨hmem, hp⟩ := mem_select.mp hc
    obtain ⟨hsub, hsubId⟩ := find_eq_some_iff.mp hfind
    obtain rfl : c = sub := eq_of_key_eq hmem hsub (hid.trans hsubId.symm)
    refine ⟨rfl, ?_⟩
    simp only [Bool.and_eq_true] at hp
    simp only [UserSubscription.isOpen, Bool.and_eq_true]
    exact ⟨hp.1.2, hp.2⟩

/-- What a pre-consumption that serves a request leaves behind: the amount on the row of `sub`, as
its lazy reset left it, and an open record of the request. -/
structure ServedBy (loc : Location) (fuel : ℕ) (now : Int) (requestId : String)
    (userId amount : Int) (db db' : DB) (result : SubscriptionPreConsumeResult)
    (sub : UserSubscription) : Prop where
  id : result.userSubscriptionId = sub.id
  preConsumed : result.preConsumed = amount
  row : ∃ plan reset, getSubscriptionPlanById db sub.planId = .ok plan ∧
    sub.maybeReset loc plan now fuel = some reset ∧
    db'.subscriptions.find sub.id = some { reset with amountUsed := reset.amountUsed + amount }
  records : ∃ key, db'.records = db.records.insert
    { id := key, requestId := requestId, userId := userId, userSubscriptionId := sub.id,
      preConsumed := amount, status := .consumed }
  users : db'.users = db.users
  tokens : db'.tokens = db.tokens

/-- The loop serves the request from one of the candidates. -/
lemma preConsumeCandidates_served (hnodup : (candidates.map UserSubscription.id).Nodup)
    (hrows : ∀ c ∈ candidates, db.subscriptions.find c.id = some c)
    (h : preConsumeCandidates loc fuel now requestId userId amount usingGroup candidates db =
      .ok (db', result)) :
    ∃ c ∈ candidates, ServedBy loc fuel now requestId userId amount db db' result c := by
  induction candidates generalizing db with
  | nil => cases h
  | cons c rest ih =>
    rw [map_cons, nodup_cons] at hnodup
    have hrest : ∀ x ∈ rest, db.subscriptions.find x.id = some x :=
      fun x hx => hrows x (mem_cons_of_mem _ hx)
    rcases preConsumeCandidates_cons h with h | ⟨plan, reset, hplan, hreset, h⟩
    · obtain ⟨x, hx, hserved⟩ := ih hnodup.2 hrest h
      exact ⟨x, mem_cons_of_mem _ hx, hserved⟩
    have hresetId := maybeReset_id hreset
    rcases h with ⟨-, h⟩ | ⟨taken, htake, rfl, hresultId, hamount⟩
    · -- too little is left: the rows of the other candidates are still as they were
      have hrest' : ∀ x ∈ rest, (db.saveSubscription reset).subscriptions.find x.id = some x := by
        intro x hx
        rw [find_saveSubscription_of_ne, hrest x hx]
        rw [hresetId]
        rintro heq
        exact hnodup.1 (heq ▸ mem_map_of_mem hx)
      obtain ⟨x, hx, hserved⟩ := ih hnodup.2 hrest' h
      exact ⟨x, mem_cons_of_mem _ hx, { hserved with }⟩
    · obtain ⟨rfl, -⟩ := tryConsume_eq_some.mp htake
      have hsaved := @find_saveSubscription_self db c
        { reset with amountUsed := reset.amountUsed + amount } c.id
        (hrows c mem_cons_self) hresetId
      refine ⟨c, mem_cons_self, hresultId.trans hresetId, hamount,
        ⟨plan, reset, hplan, hreset, hsaved⟩, ?_, rfl, rfl⟩
      exact ⟨0, by simp only [hresetId]⟩

lemma preConsumeSubscription_served (hnone : db.findRecord requestId = none)
    (h : preConsumeUserSubscription loc fuel now requestId userId amount usingGroup db =
      .ok (db', result)) :
    ∃ sub, db.subscriptions.find sub.id = some sub ∧ sub.userId = userId ∧
      ServedBy loc fuel now requestId userId amount db db' result sub := by
  obtain ⟨-, -, ⟨existing, -, hsome, -⟩ | ⟨-, hloop⟩⟩ := preConsumeSubscription_cases h
  · rw [hnone] at hsome
    cases hsome
  · have hrows : ∀ c ∈ db.candidates now userId, db.subscriptions.find c.id = some c := by
      intro c hc
      exact find_eq_some_iff.mpr ⟨(mem_select.mp hc).1, rfl⟩
    obtain ⟨c, hc, hserved⟩ := preConsumeCandidates_served nodup_key_select hrows hloop
    have hp := (mem_select.mp hc).2
    simp only [Bool.and_eq_true, beq_iff_eq] at hp
    exact ⟨c, hrows c hc, hp.1.1, hserved⟩

lemma ServedBy.findRecord (hnone : db.findRecord requestId = none)
    (h : ServedBy loc fuel now requestId userId amount db db' result sub) :
    ∃ record, db'.findRecord requestId = some record ∧ record.status = .consumed ∧
      record.userSubscriptionId = sub.id ∧ record.preConsumed = amount := by
  obtain ⟨key, hrecords⟩ := h.records
  simp only [DB.findRecord, Table.findBy] at hnone ⊢
  rw [hrecords, Table.insert, List.find?_append, hnone]
  simp [Row.withKey]

end

/-! ### Every transaction seen from one row -/

section

variable {loc : Location} {plan plan' : SubscriptionPlan} {now id : Int} {fuel : ℕ} {db db' : DB}
  {sub : UserSubscription}

lemma subscriptionDelta_row {target delta : Int} (hfind : db.subscriptions.find id = some sub)
    (h : postConsumeUserSubscriptionDelta target delta db = .ok db') :
    db'.subscriptions.find id = some sub ∨
      db'.subscriptions.find id = some (RowTx.step loc plan sub (.postConsumeDelta delta)) := by
  by_cases hdelta : delta = 0
  · simp only [postConsumeUserSubscriptionDelta, hdelta, if_true] at h
    split_ifs at h
    cases h
    exact Or.inl hfind
  · obtain ⟨-, old, new, hold, hrow, rfl⟩ := (subscriptionDelta_eq_ok hdelta).mp h
    have hnewId : new.id = target := by
      obtain ⟨rfl, -⟩ := postConsumeDelta_eq_ok.mp hrow
      exact (find_eq_some_iff.mp hold).2
    by_cases hid : target = id
    · subst hid
      obtain rfl : old = sub := Option.some.inj (hold.symm.trans hfind)
      rw [find_saveSubscription_self hfind hnewId]
      simp [RowTx.step, hrow]
    · left
      rw [find_saveSubscription_of_ne (by rw [hnewId]; exact hid), hfind]

lemma refundPreConsume_row (fault : Option RefundStatement) (requestId : String)
    (hfind : db.subscriptions.find id = some sub) :
    (refundSubscriptionPreConsume fault requestId db).db.subscriptions.find id = some sub ∨
      ∃ delta < 0, (refundSubscriptionPreConsume fault requestId db).db.subscriptions.find id =
        some (RowTx.step loc plan sub (.postConsumeDelta delta)) := by
  rcases subscriptions_refundPreConsume fault requestId db with
    hsame | ⟨_, delta, hneg, db', hok, hrows⟩
  · exact Or.inl (hsame ▸ hfind)
  · rw [hrows]
    exact (subscriptionDelta_row hfind hok).imp_right fun h => ⟨delta, hneg, h⟩

lemma resetDueSubscription_row {target : Int} (hfind : db.subscriptions.find id = some sub)
    (hplan : getSubscriptionPlanById db sub.planId = .ok plan)
    (h : resetDueSubscription loc fuel now target db = .ok db') :
    db'.subscriptions.find id = some sub ∨
      db'.subscriptions.find id = some (RowTx.step loc plan sub (.resetDue now fuel)) := by
  unfold resetDueSubscription at h
  cases hold : db.subscriptions.find target with
  | none =>
    simp only [hold] at h
    cases h
    exact Or.inl hfind
  | some old =>
    simp only [hold] at h
    by_cases hdue : 0 < old.nextResetTime ∧ old.nextResetTime ≤ now
    · rw [if_pos hdue] at h
      split at h
      · cases h
        exact Or.inl hfind
      · rename_i plan' hplan'
        split at h
        · cases h
        · rename_i new hreset
          cases h
          have hnewId : new.id = target := by
            rw [maybeReset_id hreset]
            exact (find_eq_some_iff.mp hold).2
          by_cases hid : target = id
          · subst hid
            obtain rfl : old = sub := Option.some.inj (hold.symm.trans hfind)
            obtain rfl : plan' = plan := Except.ok.inj (hplan'.symm.trans hplan)
            rw [find_saveSubscription_self hfind hnewId]
            simp [RowTx.step, hdue, hreset]
          · left
            rw [find_saveSubscription_of_ne (by rw [hnewId]; exact hid), hfind]
    · rw [if_neg hdue] at h
      cases h
      exact Or.inl hfind

/-- The reset of an administrator on the matched rows, seen from one of them. -/
lemma adminReset_row {matched : UserSubscription → Bool} {advance : Bool}
    (hfind : db.subscriptions.find id = some sub)
    (hmatched : matched sub = true → sub.isOpen now = true ∧ plan' = plan) :
    let rows := db.subscriptions.modifyWhere matched (resetUserSubscription loc plan' now advance)
    rows.find id = some sub ∨
      rows.find id = some (RowTx.step loc plan sub (.adminReset now advance)) := by
  simp only [find_modifyWhere, hfind]
  by_cases hm : matched sub = true
  · obtain ⟨hopen, rfl⟩ := hmatched hm
    have hkey : Row.withKey (Row.key sub)
        (sub.resetUserSubscription loc plan' now advance) =
          sub.resetUserSubscription loc plan' now advance := by
      have hid : Row.key sub = Row.key (sub.resetUserSubscription loc plan' now advance) :=
        resetUserSubscription_id.symm
      rw [hid, Row.withKey_key]
    simp [hm, hopen, hkey, RowTx.step]
  · simp [hm]

/-- A row that a reset of the plan matches is open, and its plan is that plan. -/
lemma activeOfPlan_spec {planId : Int} (hplan : getSubscriptionPlanById db sub.planId = .ok plan)
    (hplan' : getSubscriptionPlanById db planId = .ok plan')
    (h : sub.activeOfPlan plan' now = true) : sub.isOpen now = true ∧ plan' = plan := by
  simp only [activeOfPlan, Bool.and_eq_true, beq_iff_eq] at h
  obtain ⟨⟨hid, hactive⟩, hend⟩ := h
  refine ⟨by simp [isOpen, hactive, hend], ?_⟩
  rw [hid, getPlanById_id hplan', hplan'] at hplan
  exact Except.ok.inj hplan

/-- The transactions that move the used amount or reset it. -/
def SubscriptionTx.OnQuota : SubscriptionTx → Prop
  | .preConsume .. | .postConsumeDelta .. | .refund .. | .markRecord .. | .resetDue ..
  | .adminResetUser .. | .adminResetPlan .. => True
  | _ => False

/-- The transaction on one row that a transaction on the database may be. -/
def SubscriptionTx.RowView : SubscriptionTx → RowTx → Prop
  | .preConsume now fuel _ _ amount _, e => ∃ elsewhere, e = .preConsume now fuel amount elsewhere
  | .postConsumeDelta _ delta, e         => e = .postConsumeDelta delta
  | .refund _ _, e                       => ∃ delta < 0, e = .postConsumeDelta delta
  | .resetDue now fuel _, e              => e = .resetDue now fuel
  | .adminResetUser now _ _ advance, e   => e = .adminReset now advance
  | .adminResetPlan now _ advance, e     => e = .adminReset now advance
  | _, _                                 => False

/-- A transaction on the database does to a row what a transaction on the row does, or nothing. -/
theorem SubscriptionTx.step_row {tx : SubscriptionTx} (htx : tx.OnQuota)
    (hfind : db.subscriptions.find id = some sub)
    (hplan : getSubscriptionPlanById db sub.planId = .ok plan) :
    (tx.step loc db).subscriptions.find id = some sub ∨
      ∃ e, tx.RowView e ∧
        (tx.step loc db).subscriptions.find id = some (RowTx.step loc plan sub e) := by
  unfold step
  split
  · rename_i db' h
    cases tx with
    | preConsume now fuel requestId userId amount usingGroup =>
      obtain ⟨_, h⟩ := map_fst_eq_ok h
      rcases preConsumeSubscription_row hfind hplan h with hsame | ⟨elsewhere, hmoved⟩
      · exact Or.inl hsame
      · exact Or.inr ⟨_, ⟨elsewhere, rfl⟩, hmoved⟩
    | postConsumeDelta target delta =>
      rcases subscriptionDelta_row hfind h with hsame | hmoved
      · exact Or.inl hsame
      · exact Or.inr ⟨_, rfl, hmoved⟩
    | refund fault requestId =>
      obtain rfl := Except.ok.inj h
      rcases refundPreConsume_row fault requestId hfind with
        hsame | ⟨delta, hneg, hmoved⟩
      · exact Or.inl hsame
      · exact Or.inr ⟨_, ⟨delta, hneg, rfl⟩, hmoved⟩
    | markRecord record =>
      cases h
      exact Or.inl hfind
    | resetDue now fuel target =>
      rcases resetDueSubscription_row hfind hplan h with hsame | hmoved
      · exact Or.inl hsame
      · exact Or.inr ⟨_, rfl, hmoved⟩
    | adminResetUser now userId planId advance =>
      simp only [exec, adminResetUserSubscriptionsByPlan] at h
      split at h
      · cases h
      split at h
      · cases h
      rename_i plan' hplan'
      split at h
      · cases h
      · cases h
        refine (adminReset_row hfind ?_).imp_right fun hmoved => ⟨_, rfl, hmoved⟩
        intro hm
        rw [Bool.and_eq_true] at hm
        exact activeOfPlan_spec hplan hplan' hm.2
    | adminResetPlan now planId advance =>
      simp only [exec, adminResetPlanSubscriptions] at h
      split at h
      · cases h
      split at h
      · cases h
      · rename_i plan' hplan'
        cases h
        refine (adminReset_row hfind ?_).imp_right fun hmoved => ⟨_, rfl, hmoved⟩
        intro hm
        exact activeOfPlan_spec hplan hplan' hm
    | create | upgrade | expire | invalidate | delete | updatePeriod | extendPlan | editPlans =>
      exact htx.elim
  · exact Or.inl hfind

end

end XinghaiApi
