import XinghaiApi.Model.Balance
import XinghaiApi.Model.Subscription.Row

/-!
# Funding sources

A request is paid from the wallet of the user or from a subscription. Both take an estimate in
advance, adjust it by a difference afterwards, and can give the advance back. What a source has
paid is read off the database: the wallet pays by a lower quota, a subscription by a higher used
amount, which never falls below zero.
-/

namespace XinghaiApi

open Civil Text

structure WalletFunding where
  userId : Int
  consumed : Int := 0
deriving DecidableEq

structure SubscriptionFunding where
  requestId : String
  userId : Int
  usingGroup : String
  amount : Int
  subscriptionId : Int := 0
  preConsumed : Int := 0
  amountTotal : Int := 0
  amountUsedAfter : Int := 0
deriving DecidableEq

inductive FundingSource where
  | wallet (funding : WalletFunding)
  | subscription (funding : SubscriptionFunding)
deriving DecidableEq

open FundingSource

variable {f : FundingSource} {loc : Location} {fuel : ℕ} {now amount : Int} {fails : Bool}
  {db db' : DB} {s : SubscriptionFunding}

def FundingSource.source : FundingSource → String
  | .wallet _       => "wallet"
  | .subscription _ => "subscription"

def WalletFunding.preConsume (fails : Bool) (amount : Int) (w : WalletFunding) (db : DB) :
    Except Error (WalletFunding × DB) :=
  if amount ≤ 0 then .ok (w, db)
  else
    match attempt fails (decreaseUserQuota w.userId amount db) with
    | .error e => .error e
    | .ok db'  => .ok ({ w with consumed := amount }, db')

/-- The amount to take is the one the source was made with. -/
def SubscriptionFunding.preConsume (loc : Location) (fuel : ℕ) (now : Int) (fails : Bool)
    (s : SubscriptionFunding) (db : DB) : Except Error (SubscriptionFunding × DB) :=
  match attempt fails
      (preConsumeUserSubscription loc fuel now s.requestId s.userId s.amount s.usingGroup db) with
  | .error e         => .error e
  | .ok (db', result) =>
    .ok ({ s with
      subscriptionId := result.userSubscriptionId
      preConsumed := result.preConsumed
      amountTotal := result.amountTotal
      amountUsedAfter := result.amountUsedAfter }, db')

def FundingSource.preConsume (loc : Location) (fuel : ℕ) (now : Int) (fails : Bool)
    (amount : Int) (db : DB) : FundingSource → Except Error (FundingSource × DB)
  | .wallet w       => (w.preConsume fails amount db).map fun r => (.wallet r.1, r.2)
  | .subscription s => (s.preConsume loc fuel now fails db).map fun r => (.subscription r.1, r.2)

/-- The user whose wallet pays, if it is a wallet. -/
def FundingSource.payer : FundingSource → Option Int
  | .wallet w       => some w.userId
  | .subscription _ => none

lemma FundingSource.preConsume_source {f' : FundingSource}
    (h : f.preConsume loc fuel now fails amount db = .ok (f', db')) :
    f'.source = f.source ∧ f'.payer = f.payer := by
  cases f with
  | wallet w =>
    obtain ⟨⟨w', db₁⟩, hw, hr⟩ := Except.map_eq_ok.mp h
    cases hr
    simp only [WalletFunding.preConsume] at hw
    split_ifs at hw
    · cases hw
      exact ⟨rfl, rfl⟩
    · split at hw
      · cases hw
      · cases hw
        exact ⟨rfl, rfl⟩
  | subscription s =>
    obtain ⟨r, -, hr⟩ := Except.map_eq_ok.mp h
    cases hr
    exact ⟨rfl, rfl⟩

/-- Adjust by a difference: take more, or give back when it is negative. -/
def FundingSource.settle (fails : Bool) (delta : Int) (db : DB) : FundingSource → Except Error DB
  | .wallet w       =>
    if delta = 0 then .ok db else attempt fails (takeUserQuota w.userId delta db)
  | .subscription s =>
    if delta = 0 then .ok db
    else attempt fails (postConsumeUserSubscriptionDelta s.subscriptionId delta db)

/-- A refund of a pre-consumption in which no statement fails. The attempts of `refundWithRetry`
that fail before they change anything leave the database to the next one. -/
def refundPreConsume (requestId : String) (db : DB) : Except Error DB :=
  match (refundSubscriptionPreConsume none requestId db).error with
  | none   => .ok (refundSubscriptionPreConsume none requestId db).db
  | some e => .error e

def FundingSource.refund (fails : Bool) (db : DB) : FundingSource → Except Error DB
  | .wallet w       =>
    if w.consumed ≤ 0 then .ok db else attempt fails (increaseUserQuota w.userId w.consumed db)
  | .subscription s =>
    if s.preConsumed ≤ 0 then .ok db else attempt fails (refundPreConsume s.requestId db)

/-! ### What a source has paid -/

/-- The amount drawn from the source by everyone, up to a constant. -/
def FundingSource.drawn (db : DB) : FundingSource → Int
  | .wallet w       => -db.userQuota w.userId
  | .subscription s => (db.amountUsed s.subscriptionId).getD 0

/-- The row that pays exists; a used amount is not negative. -/
def FundingSource.Backed (db : DB) : FundingSource → Prop
  | .wallet w       => db.HasUser w.userId
  | .subscription s => ∃ sub, db.subscriptions.find s.subscriptionId = some sub ∧ 0 ≤ sub.amountUsed

/-- The drawn amount after it was to become `x`: a subscription stops at zero. -/
def FundingSource.bound (x : Int) : FundingSource → Int
  | .wallet _       => x
  | .subscription _ => max 0 x

lemma FundingSource.bound_of_nonneg {x : Int} (h : 0 ≤ x) : f.bound x = x := by
  cases f with
  | wallet w => rfl
  | subscription s => exact max_eq_right h

/-- The drawn amount is within what the source can hold. -/
lemma FundingSource.Backed.bound_drawn (h : f.Backed db) : f.bound (f.drawn db) = f.drawn db := by
  cases f with
  | wallet w => rfl
  | subscription s =>
    obtain ⟨sub, hfind, hused⟩ := h
    simp only [drawn, DB.amountUsed, hfind, Option.map_some, Option.getD_some]
    exact max_eq_right hused

/-- The tables a source may write, and the records it may not. -/
structure FundingSource.Frame (f : FundingSource) (db db' : DB) : Prop where
  backed : f.Backed db'
  tokens : db'.tokens = db.tokens
  records : db'.records = db.records

lemma postConsume_drawn {delta : Int} (hbacked : (subscription s).Backed db)
    (h : postConsumeUserSubscriptionDelta s.subscriptionId delta db = .ok db') :
    (subscription s).drawn db' = max 0 ((subscription s).drawn db + delta) ∧
      (subscription s).Frame db db' := by
  by_cases hdelta : delta = 0
  · subst hdelta
    have hsame : db' = db := by
      simp only [postConsumeUserSubscriptionDelta] at h
      split_ifs at h
      exact (Except.ok.inj h).symm
    subst hsame
    refine ⟨?_, hbacked, rfl, rfl⟩
    rw [Int.add_zero]
    exact hbacked.bound_drawn.symm
  · obtain ⟨-, sub, sub', hfind, hrow, rfl⟩ := (subscriptionDelta_eq_ok hdelta).mp h
    obtain ⟨rfl, -⟩ := UserSubscription.postConsumeDelta_eq_ok.mp hrow
    have hid : sub.id = s.subscriptionId := (Table.find_eq_some_iff.mp hfind).2
    refine ⟨?_, ⟨_, find_saveSubscription_self hfind hid, le_max_left _ _⟩, rfl, rfl⟩
    simp only [drawn, amountUsed_saveSubscription hfind]
    simp [DB.amountUsed, hfind]

lemma addUserQuota_drawn {w : WalletFunding} {delta : Int} (hbacked : (wallet w).Backed db) :
    (wallet w).drawn (db.addUserQuota w.userId (-delta)) = (wallet w).drawn db + delta ∧
      (wallet w).Frame db (db.addUserQuota w.userId (-delta)) := by
  refine ⟨?_, hasUser_addUserQuota hbacked, rfl, rfl⟩
  simp only [drawn, userQuota_addUserQuota hbacked]
  omega

/-- An adjustment that goes through moves the drawn amount by the difference. -/
lemma FundingSource.settle_drawn {delta : Int} (hbacked : f.Backed db)
    (h : f.settle fails delta db = .ok db') :
    f.drawn db' = f.bound (f.drawn db + delta) ∧ f.Frame db db' := by
  by_cases hdelta : delta = 0
  · subst hdelta
    obtain rfl : db = db' := by
      cases f <;> simpa [settle] using h
    rw [Int.add_zero, hbacked.bound_drawn]
    exact ⟨rfl, hbacked, rfl, rfl⟩
  · cases f with
    | wallet w =>
      simp only [settle, hdelta, if_false, attempt_eq_ok, takeUserQuota_eq_ok] at h
      obtain ⟨-, h⟩ := h
      cases h
      exact addUserQuota_drawn hbacked
    | subscription s =>
      simp only [settle, hdelta, if_false, attempt_eq_ok] at h
      exact postConsume_drawn hbacked h.2

/-! ### Refunds -/

/-- The advance that a refund of the source gives back. -/
def FundingSource.advance : FundingSource → Int
  | .wallet w       => w.consumed
  | .subscription s => s.preConsumed

/-- The record of the request is open and says what the source took in advance. -/
def FundingSource.Recorded (db : DB) : FundingSource → Prop
  | .wallet _       => True
  | .subscription s => ∃ record, db.findRecord s.requestId = some record ∧
    record.status = .consumed ∧ record.userSubscriptionId = s.subscriptionId ∧
    record.preConsumed = s.preConsumed

lemma FundingSource.Recorded.of_records (h : f.Recorded db) (hrecords : db'.records = db.records) :
    f.Recorded db' := by
  cases f with
  | wallet w => trivial
  | subscription s => simpa only [Recorded, DB.findRecord, hrecords] using h

/-- A refund without a failing statement gives the amount back and marks the record. -/
lemma refundPreConsume_eq_ok {requestId : String}
    {record : SubscriptionPreConsumeRecord} (hr : db.findRecord requestId = some record)
    (hopen : record.status = .consumed) (hpos : 0 < record.preConsumed)
    (h : refundPreConsume requestId db = .ok db') :
    ∃ db₁, postConsumeUserSubscriptionDelta record.userSubscriptionId (-record.preConsumed) db =
        .ok db₁ ∧
      db' = { db₁ with records := db₁.records.save { record with status := .refunded } } := by
  have hinner : postConsumeDeltaFailing none record.userSubscriptionId (-record.preConsumed) db =
      postConsumeUserSubscriptionDelta record.userSubscriptionId (-record.preConsumed) db := by
    simp only [postConsumeDeltaFailing]
    cases postConsumeUserSubscriptionDelta record.userSubscriptionId (-record.preConsumed) db <;>
      simp
  by_cases hid : trimSpace requestId = ""
  · simp [refundPreConsume, refundSubscriptionPreConsume, hid] at h
  cases hpost : postConsumeUserSubscriptionDelta record.userSubscriptionId
      (-record.preConsumed) db with
  | error e =>
    simp [refundPreConsume, refundSubscriptionPreConsume, hid, hr, hopen, not_le.mpr hpos,
      RefundStatement.toInner, hinner, hpost] at h
  | ok db₁ =>
    simp only [refundPreConsume, refundSubscriptionPreConsume, hid, hr, hopen, not_le.mpr hpos,
      RefundStatement.toInner, hinner, hpost, markRefunded, if_false, reduceCtorEq, or_self,
      Except.ok.injEq] at h
    exact ⟨db₁, rfl, h.symm⟩

/-- A refund that goes through gives the advance back. -/
lemma FundingSource.refund_drawn (hbacked : f.Backed db) (hrecorded : f.Recorded db)
    (hadvance : 0 ≤ f.advance) (h : f.refund fails db = .ok db') :
    f.drawn db' = f.bound (f.drawn db - f.advance) ∧ f.Backed db' ∧ db'.tokens = db.tokens := by
  cases f with
  | wallet w =>
    simp only [refund] at h
    split_ifs at h with hzero
    · cases h
      have hnone : w.consumed = 0 := le_antisymm hzero hadvance
      refine ⟨?_, hbacked, rfl⟩
      rw [advance, hnone, sub_zero]
      exact hbacked.bound_drawn.symm
    · rw [attempt_eq_ok, increaseUserQuota_eq_ok (by omega)] at h
      obtain ⟨-, h⟩ := h
      cases h
      refine ⟨?_, hasUser_addUserQuota hbacked, rfl⟩
      simp only [drawn, bound, advance, userQuota_addUserQuota hbacked]
      omega
  | subscription s =>
    simp only [refund] at h
    split_ifs at h with hzero
    · cases h
      have hnone : s.preConsumed = 0 := le_antisymm hzero hadvance
      refine ⟨?_, hbacked, rfl⟩
      rw [advance, hnone, sub_zero]
      exact hbacked.bound_drawn.symm
    · obtain ⟨record, hr, hopen, hsub, hamount⟩ := hrecorded
      obtain ⟨db₁, hpost, rfl⟩ :=
        refundPreConsume_eq_ok hr hopen (by omega) (attempt_eq_ok.mp h).2
      rw [hsub, hamount] at hpost
      obtain ⟨hdrawn, hframe⟩ := postConsume_drawn hbacked hpost
      exact ⟨hdrawn, hframe.backed, hframe.tokens⟩

/-! ### Advances -/

/-- What an advance of `amount` leaves: the source has paid it and can give it back. -/
structure FundingSource.Opened (f : FundingSource) (amount : Int) (db db' : DB) : Prop where
  drawn : f.drawn db' = f.drawn db + amount
  base : f.Backed db
  backed : f.Backed db'
  recorded : f.Recorded db'
  advance : f.advance = amount
  tokens : db'.tokens = db.tokens

lemma WalletFunding.preConsume_opened {w w' : WalletFunding} (hconsumed : w.consumed = 0)
    (hamount : 0 ≤ amount) (huser : db.HasUser w.userId)
    (h : w.preConsume fails amount db = .ok (w', db')) :
    (wallet w').Opened amount db db' ∧ w'.userId = w.userId := by
  simp only [WalletFunding.preConsume] at h
  split_ifs at h with hzero
  · cases h
    obtain rfl : amount = 0 := le_antisymm hzero hamount
    exact ⟨⟨(Int.add_zero _).symm, huser, huser, trivial, hconsumed, rfl⟩, rfl⟩
  · split at h
    · cases h
    · rename_i db₁ htake
      rw [attempt_eq_ok, decreaseUserQuota_eq_ok hamount] at htake
      obtain ⟨-, htake⟩ := htake
      cases htake
      cases h
      obtain ⟨hdrawn, hframe⟩ := @addUserQuota_drawn db { w with consumed := amount } amount huser
      exact ⟨⟨hdrawn, huser, hframe.backed, trivial, rfl, rfl⟩, rfl⟩

/-- A pre-consumption at this time resets no used amount of the user. -/
def DB.NoResetDue (loc : Location) (fuel : ℕ) (now userId : Int) (db : DB) : Prop :=
  ∀ sub ∈ db.subscriptions, sub.userId = userId →
    ∀ plan reset, getSubscriptionPlanById db sub.planId = .ok plan →
      sub.maybeReset loc plan now fuel = some reset → reset.amountUsed = sub.amountUsed

lemma DB.NoResetDue.addTokenQuota {userId : Int} (h : db.NoResetDue loc fuel now userId)
    (tokenId delta : Int) : (db.addTokenQuota tokenId delta).NoResetDue loc fuel now userId := by
  intro sub hsub huser plan reset hplan hmaybe
  have hplan' : getSubscriptionPlanById db sub.planId = .ok plan := by
    simpa only [getSubscriptionPlanById, DB.addTokenQuota] using hplan
  exact h sub hsub huser plan reset hplan' hmaybe

lemma SubscriptionFunding.preConsume_opened
    {s' : SubscriptionFunding} (hnone : db.findRecord s.requestId = none)
    (hused : ∀ sub ∈ db.subscriptions, 0 ≤ sub.amountUsed)
    (hreset : db.NoResetDue loc fuel now s.userId)
    (h : s.preConsume loc fuel now fails db = .ok (s', db')) :
    (subscription s').Opened s.amount db db' ∧ 0 < s.amount := by
  simp only [SubscriptionFunding.preConsume] at h
  split at h
  · cases h
  rename_i db₁ result hpre
  cases h
  rw [attempt_eq_ok] at hpre
  have hpos := (preConsumeSubscription_cases hpre.2).2.1
  obtain ⟨sub, hfind, huser, hserved⟩ := preConsumeSubscription_served hnone hpre.2
  obtain ⟨plan, reset, hplan, hmaybe, hrow⟩ := hserved.row
  have hsub : sub ∈ db.subscriptions := (Table.find_eq_some_iff.mp hfind).1
  have hsame : reset.amountUsed = sub.amountUsed := hreset sub hsub huser plan reset hplan hmaybe
  have hnonneg := hused sub hsub
  obtain ⟨record, hr, hopen, hid, hamount⟩ := hserved.findRecord hnone
  have hbefore : db.subscriptions.find result.userSubscriptionId = some sub := by
    rw [hserved.id]
    exact hfind
  have hafter : db'.subscriptions.find result.userSubscriptionId =
      some { reset with amountUsed := reset.amountUsed + s.amount } := by
    rw [hserved.id]
    exact hrow
  refine ⟨⟨?_, ⟨sub, hbefore, hnonneg⟩, ⟨_, hafter, ?_⟩, ?_, hserved.preConsumed, hserved.tokens⟩,
    hpos⟩
  · simp only [drawn, DB.amountUsed, hbefore, hafter, Option.map_some, Option.getD_some, hsame]
  · show 0 ≤ reset.amountUsed + s.amount
    omega
  · exact ⟨record, hr, hopen, hid.trans hserved.id.symm, hamount.trans hserved.preConsumed.symm⟩

end XinghaiApi
