import XinghaiApi.Lib.Run
import XinghaiApi.Model.Subscription.Consume

/-!
# Refund of a pre-consumption

`RefundSubscriptionPreConsume` marks the record of a request refunded in one transaction and gives
the amount back in another one, which it starts on its own connection. The two commit separately,
so each statement that may fail is an input here. The last section settles for which failures
repeated attempts still give the amount back exactly once.
-/

namespace XinghaiApi

open Machine Text Table

/-! ### One attempt -/

/-- The statements of `PostConsumeUserSubscriptionDelta`. -/
inductive DeltaStatement where
  | begin
  | read
  | save
  | commit
deriving DecidableEq

/-- The statements of `RefundSubscriptionPreConsume`, those of its inner transaction included. -/
inductive RefundStatement where
  | begin
  | readRecord
  | inner (statement : DeltaStatement)
  | saveRecord
  | commit
deriving DecidableEq

/-- `PostConsumeUserSubscriptionDelta` with a statement that fails and rolls it back. -/
def postConsumeDeltaFailing (fault : Option DeltaStatement) (userSubscriptionId delta : Int)
    (db : DB) : Except Error DB :=
  if 0 < userSubscriptionId ∧ delta ≠ 0 ∧ (fault = some .begin ∨ fault = some .read) then
    .error .database
  else
    match postConsumeUserSubscriptionDelta userSubscriptionId delta db with
    | .error e => .error e
    | .ok db'  => if delta ≠ 0 ∧ fault ≠ none then .error .database else .ok db'

lemma postConsumeDeltaFailing_eq_ok {fault : Option DeltaStatement} {id delta : Int} {db db' : DB}
    (hdelta : delta ≠ 0) :
    postConsumeDeltaFailing fault id delta db = .ok db' ↔
      fault = none ∧ postConsumeUserSubscriptionDelta id delta db = .ok db' := by
  simp only [postConsumeDeltaFailing, hdelta, ne_eq, not_false_eq_true, true_and]
  by_cases hfault : fault = none
  · subst hfault
    cases postConsumeUserSubscriptionDelta id delta db <;> simp
  · split_ifs with hearly
    · simp [hfault]
    · cases postConsumeUserSubscriptionDelta id delta db <;> simp [hfault]

structure RefundOutcome where
  db : DB
  error : Option Error
  /-- the inner transaction has committed -/
  gaveBack : Bool

/-- The part of a fault that the inner transaction sees. -/
def RefundStatement.toInner : Option RefundStatement → Option DeltaStatement
  | some (.inner statement) => some statement
  | _                       => none

section

variable (fault : Option RefundStatement) (record : SubscriptionPreConsumeRecord) (gaveBack : Bool)
  (db : DB)

def markRefunded : RefundOutcome :=
  if fault = some .saveRecord ∨ fault = some .commit then ⟨db, some .database, gaveBack⟩
  else ⟨{ db with records := db.records.save { record with status := .refunded } }, none, gaveBack⟩

@[simp] lemma markRefunded_gaveBack :
    (markRefunded fault record gaveBack db).gaveBack = gaveBack := by
  simp only [markRefunded]
  split_ifs <;> rfl

@[simp] lemma markRefunded_subscriptions :
    (markRefunded fault record gaveBack db).db.subscriptions = db.subscriptions := by
  simp only [markRefunded]
  split_ifs <;> rfl

end

def refundSubscriptionPreConsume (fault : Option RefundStatement) (requestId : String)
    (db : DB) : RefundOutcome :=
  if trimSpace requestId = "" then ⟨db, some .requestIdEmpty, false⟩
  else if fault = some .begin ∨ fault = some .readRecord then ⟨db, some .database, false⟩
  else
    match db.findRecord requestId with
    | none        => ⟨db, some .recordNotFound, false⟩
    | some record =>
      if record.status = .refunded then
        ⟨db, if fault = some .commit then some .database else none, false⟩
      else if record.preConsumed ≤ 0 then markRefunded fault record false db
      else
        -- not in the outer transaction: its commit stays when the outer one rolls back
        match postConsumeDeltaFailing (RefundStatement.toInner fault) record.userSubscriptionId
            (-record.preConsumed) db with
        | .error e => ⟨db, some e, false⟩
        | .ok db'  => markRefunded fault record true db'

/-- An attempt leaves the subscriptions as they were, or gives an amount back to one of them. -/
lemma subscriptions_refundPreConsume (fault : Option RefundStatement)
    (requestId : String) (db : DB) :
    (refundSubscriptionPreConsume fault requestId db).db.subscriptions = db.subscriptions ∨
      ∃ id, ∃ delta < 0, ∃ db', postConsumeUserSubscriptionDelta id delta db = .ok db' ∧
        (refundSubscriptionPreConsume fault requestId db).db.subscriptions = db'.subscriptions := by
  unfold refundSubscriptionPreConsume
  split
  · exact Or.inl rfl
  split
  · exact Or.inl rfl
  split
  · exact Or.inl rfl
  split
  · exact Or.inl rfl
  split
  · exact Or.inl (markRefunded_subscriptions _ _ _ _)
  split
  · exact Or.inl rfl
  · rename_i db' hinner
    have hok := ((postConsumeDeltaFailing_eq_ok (by omega)).mp hinner).2
    exact Or.inr ⟨_, _, by omega, db', hok, markRefunded_subscriptions _ _ _ _⟩

/-! ### Repeated attempts -/

structure RefundRun where
  db : DB
  /-- how often the amount has been given back -/
  givenBack : ℕ

open RefundRun

variable {fault : Option RefundStatement}

def RefundRun.attempt (requestId : String) (s : RefundRun) (fault : Option RefundStatement) :
    RefundRun :=
  let r := refundSubscriptionPreConsume fault requestId s.db
  ⟨r.db, if r.gaveBack then s.givenBack + 1 else s.givenBack⟩

/-- `refundWithRetry`: attempts until one returns no error, one for each entry of the list. The
source makes at most three. -/
def refundWithRetry (requestId : String) : List (Option RefundStatement) → RefundRun → RefundRun
  | [], s              => s
  | fault :: faults, s =>
    if (refundSubscriptionPreConsume fault requestId s.db).error = none then
      s.attempt requestId fault
    else refundWithRetry requestId faults (s.attempt requestId fault)

/-- The attempts of `refundWithRetry` are a run of attempts, so what holds along every run of
attempts holds for it. -/
lemma refundWithRetry_eq_run (requestId : String) (faults : List (Option RefundStatement))
    (s : RefundRun) :
    ∃ n, refundWithRetry requestId faults s =
      run (RefundRun.attempt requestId) s (faults.take n) := by
  induction faults generalizing s with
  | nil => exact ⟨0, rfl⟩
  | cons fault faults ih =>
    by_cases herr : (refundSubscriptionPreConsume fault requestId s.db).error = none
    · exact ⟨1, by simp [refundWithRetry, herr]⟩
    · obtain ⟨n, hn⟩ := ih (s.attempt requestId fault)
      exact ⟨n + 1, by simp [refundWithRetry, herr, hn]⟩

def RefundRun.marked (requestId : String) (s : RefundRun) : Bool :=
  (s.db.findRecord requestId).any (·.status == .refunded)

/-- The amount has been given back at most once, and exactly when the record says so. -/
def RefundRun.ExactlyOnce (requestId : String) (s : RefundRun) : Prop :=
  s.givenBack ≤ 1 ∧ (s.marked requestId = true ↔ 0 < s.givenBack)

instance (requestId : String) (s : RefundRun) : Decidable (s.ExactlyOnce requestId) :=
  inferInstanceAs (Decidable (_ ∧ _))

/-- The record is open and its subscription takes the amount back. -/
def DB.CanGiveBack (db : DB) (requestId : String) : Prop :=
  trimSpace requestId ≠ "" ∧ ∃ record sub, db.findRecord requestId = some record ∧
    record.status ≠ .refunded ∧ 0 < record.preConsumed ∧ 0 < record.userSubscriptionId ∧
    db.subscriptions.find record.userSubscriptionId = some sub ∧
    (0 < sub.amountTotal → max 0 (sub.amountUsed - record.preConsumed) ≤ sub.amountTotal)

/-- The save of the record and the outer commit do not fail on an open record whose amount the
inner transaction gives back. -/
def RefundRun.SafeAttempt (requestId : String) (s : RefundRun) (fault : Option RefundStatement) :
    Prop :=
  s.db.CanGiveBack requestId → fault ≠ some .saveRecord ∧ fault ≠ some .commit

/-! ### What an attempt does -/

section

variable {requestId : String} {db : DB} {record : SubscriptionPreConsumeRecord}

/-- The row of a subscription after `amount` is given back to it. -/
def UserSubscription.giveBack (amount : Int) (sub : UserSubscription) : UserSubscription :=
  { sub with amountUsed := max 0 (sub.amountUsed - amount) }

/-- The inner transaction commits iff it has no fault and the subscription takes the amount. -/
lemma giveBack_eq_ok (fault : Option RefundStatement) {db' : DB} (ha : 0 < record.preConsumed) :
    postConsumeDeltaFailing (RefundStatement.toInner fault) record.userSubscriptionId
        (-record.preConsumed) db = .ok db' ↔
      RefundStatement.toInner fault = none ∧ 0 < record.userSubscriptionId ∧
        ∃ sub, db.subscriptions.find record.userSubscriptionId = some sub ∧
          (0 < sub.amountTotal → max 0 (sub.amountUsed - record.preConsumed) ≤ sub.amountTotal) ∧
          db' = db.saveSubscription (sub.giveBack record.preConsumed) := by
  have hdelta : -record.preConsumed ≠ 0 := by omega
  rw [postConsumeDeltaFailing_eq_ok hdelta, subscriptionDelta_eq_ok hdelta]
  constructor
  · rintro ⟨hfault, hid, sub, sub', hfind, hrow, rfl⟩
    obtain ⟨rfl, hfits⟩ := UserSubscription.postConsumeDelta_eq_ok.mp hrow
    exact ⟨hfault, hid, sub, hfind, hfits, rfl⟩
  · rintro ⟨hfault, hid, sub, hfind, hfits, rfl⟩
    exact ⟨hfault, hid, sub, _, hfind, UserSubscription.postConsumeDelta_eq_ok.mpr ⟨rfl, hfits⟩,
      rfl⟩

/-- An attempt changes nothing, or it gives the amount of an open record back and then marks the
record unless one of the last two statements fails. -/
lemma refundPreConsume_cases (fault : Option RefundStatement)
    (hr : db.findRecord requestId = some record) (ha : 0 < record.preConsumed) :
    ((refundSubscriptionPreConsume fault requestId db).gaveBack = false ∧
      (refundSubscriptionPreConsume fault requestId db).db = db) ∨
    (db.CanGiveBack requestId ∧ record.status ≠ .refunded ∧
      ∃ sub, db.subscriptions.find record.userSubscriptionId = some sub ∧
        refundSubscriptionPreConsume fault requestId db =
          markRefunded fault record true
            (db.saveSubscription (sub.giveBack record.preConsumed))) := by
  by_cases hid : trimSpace requestId = ""
  · exact Or.inl (by simp [refundSubscriptionPreConsume, hid])
  by_cases hbegin : fault = some .begin ∨ fault = some .readRecord
  · exact Or.inl (by simp [refundSubscriptionPreConsume, hid, hbegin])
  by_cases hopen : record.status = .refunded
  · exact Or.inl (by simp [refundSubscriptionPreConsume, hid, hbegin, hr, hopen])
  · simp only [refundSubscriptionPreConsume, hid, hbegin, hr, hopen, not_le.mpr ha, if_false]
    split
    · exact Or.inl ⟨rfl, rfl⟩
    · rename_i db' hinner
      obtain ⟨-, hsid, sub, hfind, hfits, rfl⟩ := (giveBack_eq_ok fault ha).mp hinner
      exact Or.inr ⟨⟨hid, record, sub, hr, hopen, ha, hsid, hfind, hfits⟩, hopen, sub, hfind, rfl⟩

/-- When one of the last two statements fails, the amount is given back all the same and the
record stays open. -/
lemma refundPreConsume_of_unmarked (hcan : db.CanGiveBack requestId)
    (hfault : fault = some .saveRecord ∨ fault = some .commit) :
    (refundSubscriptionPreConsume fault requestId db).gaveBack = true ∧
      (refundSubscriptionPreConsume fault requestId db).db.records = db.records := by
  obtain ⟨hid, record, sub, hr, hopen, ha, hsid, hfind, hfits⟩ := hcan
  have hearly : ¬(fault = some .begin ∨ fault = some .readRecord) := by
    rcases hfault with rfl | rfl <;> simp
  have hinner := (giveBack_eq_ok fault ha).mpr
    ⟨by rcases hfault with rfl | rfl <;> rfl, hsid, sub, hfind, hfits, rfl⟩
  simp only [refundSubscriptionPreConsume, hid, hearly, hr, hopen, not_le.mpr ha, hinner,
    markRefunded, hfault, if_false, if_true]
  exact ⟨trivial, rfl⟩

end

/-! ### Exactly once -/

section

variable {requestId : String} {id amount : Int} {record : SubscriptionPreConsumeRecord}
  {s : RefundRun}

/-- The record of the request is there, for `amount` of the subscription `id`. -/
def RefundRun.HasRecord (requestId : String) (id amount : Int) (s : RefundRun) : Prop :=
  ∃ record, s.db.findRecord requestId = some record ∧ record.preConsumed = amount ∧
    record.userSubscriptionId = id

lemma marked_eq (hr : s.db.findRecord requestId = some record) :
    s.marked requestId = true ↔ record.status = .refunded := by
  simp [marked, hr]

/-- The saved record is the one the next attempt finds. -/
lemma findRecord_markRefunded {db db' : DB} (hr : db.findRecord requestId = some record)
    (hrecords : db'.records = db.records)
    (hfault : ¬(fault = some .saveRecord ∨ fault = some .commit)) :
    (markRefunded fault record true db').db.findRecord requestId =
      some { record with status := .refunded } := by
  simp only [markRefunded, hfault, hrecords]
  exact findBy_save_self hr rfl (by simpa using (findBy_eq_some hr).2)

/-- An attempt keeps the record, with its amount and its subscription. -/
lemma RefundRun.HasRecord.attempt (h : s.HasRecord requestId id amount) (hpos : 0 < amount)
    (fault : Option RefundStatement) :
    (s.attempt requestId fault).HasRecord requestId id amount := by
  obtain ⟨record, hr, rfl, rfl⟩ := h
  rcases refundPreConsume_cases fault hr hpos with
    ⟨-, hsame⟩ | ⟨-, -, sub, -, hres⟩
  · exact ⟨record, by simpa [attempt, hsame] using hr, rfl, rfl⟩
  · by_cases hfault : fault = some .saveRecord ∨ fault = some .commit
    · refine ⟨record, ?_, rfl, rfl⟩
      simpa [attempt, hres, markRefunded, hfault, DB.findRecord, DB.saveSubscription] using hr
    · refine ⟨{ record with status := .refunded }, ?_, rfl, rfl⟩
      simp only [attempt, hres]
      exact findRecord_markRefunded hr rfl hfault

/-- One attempt: exactly-once survives it iff the record is not left open after the amount was
given back. -/
lemma RefundRun.ExactlyOnce.attempt_iff
    (h : s.HasRecord requestId id amount ∧ s.ExactlyOnce requestId) (hpos : 0 < amount)
    (fault : Option RefundStatement) :
    ((s.attempt requestId fault).HasRecord requestId id amount ∧
      (s.attempt requestId fault).ExactlyOnce requestId) ↔ s.SafeAttempt requestId fault := by
  obtain ⟨hrecord, hle, hmarked⟩ := h
  constructor
  · rintro ⟨-, -, hafter⟩ hcan
    rw [← not_or]
    intro hfault
    obtain ⟨hgave, hrecords⟩ := refundPreConsume_of_unmarked hcan hfault
    obtain ⟨-, record, sub, hr, hopen, -⟩ := hcan
    have hr' : (s.attempt requestId fault).db.findRecord requestId = some record := by
      simpa [attempt, DB.findRecord, hrecords] using hr
    rw [marked_eq hr'] at hafter
    exact hopen (hafter.mpr (by simp [attempt, hgave]))
  · intro hsafe
    refine ⟨hrecord.attempt hpos fault, ?_⟩
    obtain ⟨record, hr, rfl, rfl⟩ := hrecord
    rcases refundPreConsume_cases fault hr hpos with
      ⟨hgave, hsame⟩ | ⟨hcan, hopen, sub, -, hres⟩
    · -- nothing happened
      have hs : s.attempt requestId fault = s := by
        simp [attempt, hgave, hsame]
      rw [hs]
      exact ⟨hle, hmarked⟩
    · have hfault : ¬(fault = some .saveRecord ∨ fault = some .commit) := by
        rw [not_or]
        exact hsafe hcan
      have hzero : s.givenBack = 0 := by
        rw [marked_eq hr] at hmarked
        by_contra hne
        exact hopen (hmarked.mpr (Nat.pos_of_ne_zero hne))
      have hr' : (s.attempt requestId fault).db.findRecord requestId =
          some { record with status := .refunded } := by
        simp only [attempt, hres]
        exact findRecord_markRefunded hr rfl hfault
      have hcount : (s.attempt requestId fault).givenBack = 1 := by
        simp [attempt, hres, hzero]
      refine ⟨hcount.le, ?_⟩
      rw [marked_eq hr', hcount]
      simp

/-- The used amount of a subscription, if it exists. -/
def DB.amountUsed (db : DB) (id : Int) : Option Int :=
  (db.subscriptions.find id).map UserSubscription.amountUsed

lemma amountUsed_saveSubscription {db : DB} {sub : UserSubscription} {used : Int}
    (h : db.subscriptions.find id = some sub) :
    (db.saveSubscription { sub with amountUsed := used }).amountUsed id = some used := by
  obtain rfl : sub.id = id := (find_eq_some_iff.mp h).2
  have := find_save_self (r := { sub with amountUsed := used }) h
  simp [DB.amountUsed, DB.saveSubscription,
    show (db.subscriptions.save _).find sub.id = _ from this]

/-- The used amount of the subscription is what `givenBack` give-backs leave of it. -/
def RefundRun.Lowered (id amount : Int) (db₀ : DB) (s : RefundRun) : Prop :=
  s.db.amountUsed id = (db₀.amountUsed id).map (fun used => max 0 (used - amount))^[s.givenBack]

lemma RefundRun.Lowered.attempt {db₀ : DB} (h : s.Lowered id amount db₀)
    (hrecord : s.HasRecord requestId id amount) (hpos : 0 < amount)
    (fault : Option RefundStatement) : (s.attempt requestId fault).Lowered id amount db₀ := by
  obtain ⟨record, hr, rfl, rfl⟩ := hrecord
  rcases refundPreConsume_cases fault hr hpos with
    ⟨hgave, hsame⟩ | ⟨-, -, sub, hfind, hres⟩
  · simpa [Lowered, attempt, hgave, hsame] using h
  · have hdb : (s.attempt requestId fault).db.amountUsed record.userSubscriptionId =
        some (max 0 (sub.amountUsed - record.preConsumed)) := by
      simp only [attempt, hres, DB.amountUsed, markRefunded_subscriptions]
      exact amountUsed_saveSubscription hfind
    have hcount : (s.attempt requestId fault).givenBack = s.givenBack + 1 := by
      simp [attempt, hres]
    have hbefore : s.db.amountUsed record.userSubscriptionId = some sub.amountUsed := by
      simp [DB.amountUsed, hfind]
    rw [Lowered, hbefore] at h
    rw [Lowered, hdb, hcount, Function.iterate_succ', ← Option.map_map, ← h]
    rfl

/-- Along any attempts, the used amount is lowered once for each time the amount is counted as
given back, and the amount is given back exactly once, in step with the record, iff no attempt
fails between the inner commit and the end of the outer transaction. -/
theorem refund_exactlyOnce_iff {db : DB} {requestId : String}
    {record : SubscriptionPreConsumeRecord} (hr : db.findRecord requestId = some record)
    (hopen : record.status = .consumed) (hpos : 0 < record.preConsumed)
    (faults : List (Option RefundStatement)) :
    (∀ t ∈ states (RefundRun.attempt requestId) ⟨db, 0⟩ faults,
      t.Lowered record.userSubscriptionId record.preConsumed db) ∧
    ((∀ t ∈ states (RefundRun.attempt requestId) ⟨db, 0⟩ faults, t.ExactlyOnce requestId) ↔
      Along (RefundRun.attempt requestId) (SafeAttempt requestId) ⟨db, 0⟩ faults) := by
  have hrecord : HasRecord requestId record.userSubscriptionId record.preConsumed
      ⟨db, 0⟩ := ⟨record, hr, rfl, rfl⟩
  have hstart : ExactlyOnce requestId ⟨db, 0⟩ := by
    refine ⟨Nat.zero_le 1, ?_⟩
    rw [marked_eq hr, hopen]
    simp
  have hlow : Lowered record.userSubscriptionId record.preConsumed db ⟨db, 0⟩ := by
    simp [Lowered]
  have hkept := states_invariant
    (I := fun t : RefundRun => t.HasRecord requestId record.userSubscriptionId record.preConsumed ∧
      t.Lowered record.userSubscriptionId record.preConsumed db)
    (fun s (fault : Option RefundStatement) h =>
      ⟨h.1.attempt hpos fault, h.2.attempt h.1 hpos fault⟩) ⟨hrecord, hlow⟩ faults
  refine ⟨fun t ht => (hkept t ht).2, ?_⟩
  have hiff := forall_states_iff_along
    (I := fun t : RefundRun => t.HasRecord requestId record.userSubscriptionId record.preConsumed ∧
      t.ExactlyOnce requestId)
    (fun s fault h => ExactlyOnce.attempt_iff h hpos fault) ⟨hrecord, hstart⟩ faults
  constructor
  · intro h
    exact hiff.mp fun t ht => ⟨(hkept t ht).1, h t ht⟩
  · intro h t ht
    exact (hiff.mpr h t ht).2

/-- A subscription of which 700 of 1000 is used, 300 of it by the request `req`. -/
def openRefund : DB :=
  { DB.empty with
    subscriptions := empty.insert
      { id := 0, userId := 1, planId := 1, amountTotal := 1000, amountUsed := 700,
        startTime := 1000, endTime := 2000, status := .active }
    records := empty.insert
      { id := 0, requestId := "req", userId := 1, userSubscriptionId := 1, preConsumed := 300,
        status := .consumed } }

/-- A clean attempt after a failed read gives the amount of the open refund back once. -/
theorem refund_exactlyOnce_openRefund :
    openRefund.findRecord "req" = some ⟨1, "req", 1, 1, 300, .consumed⟩ ∧
      (run (RefundRun.attempt "req") ⟨openRefund, 0⟩ [some .readRecord, none]).ExactlyOnce
        "req" := by
  have hr : openRefund.findRecord "req" = some ⟨1, "req", 1, 1, 300, .consumed⟩ := by decide
  have hsafe : Along (RefundRun.attempt "req") (SafeAttempt "req") ⟨openRefund, 0⟩
      [some .readRecord, none] := by
    simp [SafeAttempt]
  exact ⟨hr, (refund_exactlyOnce_iff hr rfl (by decide) _).2.mpr hsafe _ (run_mem_states _ _ _)⟩

/-- When the first save of the record fails, the retry gives the amount back again. -/
theorem refundWithRetry_gives_back_twice :
    let t := refundWithRetry "req" [some .saveRecord, none, none] ⟨openRefund, 0⟩
    t.givenBack = 2 ∧ t.db.amountUsed 1 = some 100 ∧ ¬t.ExactlyOnce "req" := by
  decide

end

end XinghaiApi
