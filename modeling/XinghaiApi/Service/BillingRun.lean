import XinghaiApi.Service.BillingSession

/-!
# Runs of a billing session

The calls on one session and the updates of its refund job, in any order and with any of the
updates failing. What the session has taken is read off the database, against the database before
the session was created.
-/

namespace XinghaiApi

open Civil Machine BillingSession FundingSource

/-! ### The machine -/

/-- The call that settled a session, and whether it returned without an error. -/
structure Settlement where
  actual : Int
  tokenAdjusted : Bool
deriving DecidableEq

structure BillingState where
  session : BillingSession
  db : DB
  /-- updates of the refund job still to come -/
  pending : List RefundUpdate := []
  /-- updates of the refund job that have failed -/
  failed : List RefundUpdate := []
  settlement : Option Settlement := none

inductive BillingEvent where
  | reserve (targetQuota : Int) (tokenRemain : Option Int) (faults : Faults)
  | settle (actualQuota : Int) (faults : Faults)
  | refund
  /-- the refund job makes its next update -/
  | refundUpdate (fails : Bool)
deriving DecidableEq

def BillingState.step (t : BillingState) : BillingEvent → BillingState
  | .reserve targetQuota tokenRemain faults =>
    let r := t.session.reserve faults tokenRemain targetQuota t.db
    { t with session := r.1, db := r.2.1 }
  | .settle actualQuota faults =>
    let r := t.session.settle faults actualQuota t.db
    let settlement := if t.session.settled = false ∧ r.1.settled = true
      then some ⟨actualQuota, r.2.2.isNone⟩ else t.settlement
    { t with session := r.1, db := r.2.1, settlement := settlement }
  | .refund =>
    let r := t.session.refund
    { t with session := r.1, pending := t.pending ++ r.2 }
  | .refundUpdate fails =>
    match t.pending with
    | []        => t
    | u :: rest =>
      match u.exec fails t.db with
      | .ok db'  => { t with db := db', pending := rest }
      | .error _ => { t with pending := rest, failed := u :: t.failed }

/-- The net amount taken from the funding source. -/
def BillingState.fundingTaken (before : DB) (t : BillingState) : Int :=
  t.session.funding.drawn t.db - t.session.funding.drawn before

def BillingState.tokenTaken (before : DB) (t : BillingState) : Int :=
  before.tokenRemain t.session.relayInfo.tokenId - t.db.tokenRemain t.session.relayInfo.tokenId

/-- What an update of the refund job gives back to the funding source. -/
def RefundUpdate.fundingAmount : RefundUpdate → Int
  | .funding source => source.advance
  | .extra _ amount => amount
  | .token _ _      => 0

def RefundUpdate.tokenAmount : RefundUpdate → Int
  | .token _ amount => amount
  | _               => 0

def fundingSum (updates : List RefundUpdate) : Int := (updates.map RefundUpdate.fundingAmount).sum

def tokenSum (updates : List RefundUpdate) : Int := (updates.map RefundUpdate.tokenAmount).sum

@[simp] lemma fundingSum_nil : fundingSum [] = 0 := rfl

@[simp] lemma tokenSum_nil : tokenSum [] = 0 := rfl

@[simp] lemma fundingSum_cons (u : RefundUpdate) (us : List RefundUpdate) :
    fundingSum (u :: us) = u.fundingAmount + fundingSum us := by
  simp [fundingSum]

@[simp] lemma tokenSum_cons (u : RefundUpdate) (us : List RefundUpdate) :
    tokenSum (u :: us) = u.tokenAmount + tokenSum us := by
  simp [tokenSum]

/-! ### The accounts a session keeps -/

/-- The accounts of a session that has taken an advance agree with each other. -/
structure BillingSession.Advanced (s : BillingSession) : Prop where
  advance : 0 ≤ s.funding.advance
  extra : 0 ≤ s.extraReserved
  token : s.tokenConsumed = s.preConsumedQuota
  total : match s.funding with
    | .wallet w         => w.consumed = s.preConsumedQuota
    | .subscription sub => sub.preConsumed + s.extraReserved = s.preConsumedQuota ∧
      s.relayInfo.subscriptionId = sub.subscriptionId ∧
      (0 < s.extraReserved → 0 < sub.subscriptionId)

section

variable {s : BillingSession}

namespace BillingSession

lemma Advanced.nonneg (h : s.Advanced) : 0 ≤ s.preConsumedQuota := by
  have hadvance := h.advance
  have hextra := h.extra
  have htotal := h.total
  cases hf : s.funding with
  | wallet w =>
    simp only [hf, FundingSource.advance] at htotal hadvance
    omega
  | subscription sub =>
    simp only [hf, FundingSource.advance] at htotal hadvance
    omega

/-- The refund job gives the whole advance back to the funding source. -/
lemma Advanced.fundingSum_refundUpdates (h : s.Advanced) :
    fundingSum s.refundUpdates = s.preConsumedQuota := by
  have htoken : fundingSum (if 0 < s.tokenConsumed ∧ s.relayInfo.isPlayground = false
      then [RefundUpdate.token s.relayInfo.tokenId s.tokenConsumed] else []) = 0 := by
    split_ifs <;> simp [RefundUpdate.fundingAmount]
  have hextra := h.extra
  have htotal := h.total
  cases hf : s.funding with
  | wallet w =>
    simp only [hf] at htotal
    simp only [refundUpdates, laterUpdates, hf, fundingSum_cons,
      RefundUpdate.fundingAmount, FundingSource.advance, FundingSource.source]
    simp [htoken, htotal]
  | subscription sub =>
    simp only [hf] at htotal
    obtain ⟨hsum, hid, hpos⟩ := htotal
    simp only [refundUpdates, laterUpdates, hf, fundingSum_cons,
      RefundUpdate.fundingAmount, FundingSource.advance, FundingSource.source, true_and, hid]
    by_cases hreserved : 0 < s.extraReserved
    · rw [if_pos ⟨hreserved, hpos hreserved⟩, List.singleton_append, fundingSum_cons]
      simp only [RefundUpdate.fundingAmount]
      omega
    · rw [if_neg (fun hc => hreserved hc.1), List.nil_append]
      omega

/-- The refund job gives the whole advance back to the token. -/
lemma Advanced.tokenSum_refundUpdates (h : s.Advanced)
    (hplay : s.relayInfo.isPlayground = false) : tokenSum s.refundUpdates = s.preConsumedQuota := by
  have hnonneg := h.nonneg
  have hextra : ∀ us : List RefundUpdate, tokenSum ((if 0 < s.extraReserved ∧
      s.funding.source = "subscription" ∧ 0 < s.relayInfo.subscriptionId
      then [RefundUpdate.extra s.relayInfo.subscriptionId s.extraReserved] else []) ++ us) =
        tokenSum us := by
    intro us
    split_ifs <;> simp [RefundUpdate.tokenAmount]
  simp only [refundUpdates, laterUpdates, tokenSum_cons,
    RefundUpdate.tokenAmount, hextra, hplay, and_true, h.token]
  split_ifs with hpos
  · simp [RefundUpdate.tokenAmount]
  · simp only [tokenSum_nil]
    omega

lemma mem_laterUpdates {u : RefundUpdate} (h : u ∈ s.laterUpdates) :
    (u = .extra s.relayInfo.subscriptionId s.extraReserved ∧ 0 < s.extraReserved ∧
        s.funding.source = "subscription") ∨
      (u = .token s.relayInfo.tokenId s.tokenConsumed ∧ 0 < s.tokenConsumed) := by
  simp only [laterUpdates, List.mem_append] at h
  rcases h with h | h
  · split_ifs at h with hc
    · exact Or.inl ⟨List.mem_singleton.mp h, hc.1, hc.2.1⟩
    · cases h
  · split_ifs at h with hc
    · exact Or.inr ⟨List.mem_singleton.mp h, hc.1⟩
    · cases h

lemma Advanced.fundingAmount_nonneg (h : s.Advanced) {u : RefundUpdate}
    (hu : u ∈ s.refundUpdates) : 0 ≤ u.fundingAmount := by
  rcases List.mem_cons.mp hu with rfl | hu
  · exact h.advance
  · rcases mem_laterUpdates hu with ⟨rfl, -, -⟩ | ⟨rfl, -⟩
    · exact h.extra
    · exact le_refl 0

end BillingSession

end

/-! ### What the calls do -/

section

variable {s : BillingSession} {db db₁ : DB} {delta : Int} {f : FundingSource}

namespace BillingSession

/-- A settlement of an open session finds nothing to adjust, is refused by the funding source, or
adjusts the source and then the token, whose error it returns. -/
lemma settle_cases (hsettled : s.settled = false) (hfunding : s.fundingSettled = false)
    (hplay : s.relayInfo.isPlayground = false) (faults : Faults) (actual : Int) (db : DB) :
    (actual = s.preConsumedQuota ∧
      s.settle faults actual db = ({ s with settled := true }, db, none)) ∨
    (∃ e, s.settle faults actual db = (s, db, some e)) ∨
    (∃ db₁, s.funding.settle faults.funding (actual - s.preConsumedQuota) db = .ok db₁ ∧
      (s.settle faults actual db = (s.markSettled (actual - s.preConsumedQuota),
          db₁.addTokenQuota s.relayInfo.tokenId (-(actual - s.preConsumedQuota)), none) ∨
        ∃ e, s.settle faults actual db =
          (s.markSettled (actual - s.preConsumedQuota), db₁, some e))) := by
  by_cases hdelta : actual - s.preConsumedQuota = 0
  · left
    exact ⟨by omega, by simp [settle, hsettled, hdelta]⟩
  · right
    cases hsettle : s.funding.settle faults.funding (actual - s.preConsumedQuota) db with
    | error e =>
      left
      exact ⟨e, by simp [settle, hsettled, hdelta, hfunding, hsettle]⟩
    | ok db₁ =>
      right
      refine ⟨db₁, rfl, ?_⟩
      cases htoken : faults.token with
      | false =>
        simp [settle, hsettled, hdelta, hfunding, hsettle, hplay, htoken, attempt,
          takeTokenQuota_eq_ok]
      | true =>
        right
        exact ⟨.database, by simp [settle, hsettled, hdelta, hfunding, hsettle,
          hplay, htoken, attempt]⟩

lemma refund_of_settled (hsettled : s.settled = true) : s.refund = (s, []) := by
  simp [refund, hsettled]

lemma refund_of_refunded (hrefunded : s.refunded = true) : s.refund = (s, []) := by
  simp [refund, hrefunded]

lemma reserve_of_ended (hended : s.settled = true ∨ s.refunded = true)
    (faults : Faults) (remain : Option Int) (target : Int) :
    s.reserve faults remain target db = (s, db, none) := by
  rcases hended with h | h <;> simp [reserve, h]

end BillingSession

def FundingSource.reserved (delta : Int) : FundingSource → FundingSource
  | .wallet w         => .wallet { w with consumed := w.consumed + delta }
  | .subscription sub => .subscription sub

section

variable (f : FundingSource) (delta : Int) (db : DB)

@[simp] lemma FundingSource.drawn_reserved : (f.reserved delta).drawn db = f.drawn db := by
  cases f <;> rfl

lemma FundingSource.backed_reserved : (f.reserved delta).Backed db ↔ f.Backed db := by
  cases f <;> rfl

lemma FundingSource.recorded_reserved : (f.reserved delta).Recorded db ↔ f.Recorded db := by
  cases f <;> rfl

end

/-- A reservation that the source grants is an adjustment by a positive difference. -/
lemma BillingSession.reserveFunding_eq_ok {fails : Bool} (hdelta : 0 < delta)
    (h : s.reserveFunding fails delta db = .ok (f, db₁)) :
    f = s.funding.reserved delta ∧ s.funding.settle false delta db = .ok db₁ := by
  unfold reserveFunding at h
  cases hf : s.funding with
  | wallet w =>
    simp only [hf] at h
    split at h
    · cases h
    · rename_i db' htake
      rw [attempt_eq_ok, decreaseUserQuota_eq_ok hdelta.le] at htake
      obtain ⟨-, htake⟩ := htake
      cases htake
      cases h
      exact ⟨rfl, by simp [FundingSource.settle, hdelta.ne', attempt, takeUserQuota_eq_ok]⟩
  | subscription sub =>
    simp only [hf] at h
    split at h
    · cases h
    · rename_i db' htake
      rw [attempt_eq_ok] at htake
      cases h
      exact ⟨rfl, by simpa [FundingSource.settle, hdelta.ne', attempt] using htake.2⟩

lemma BillingSession.reserveToken_eq_ok {fails : Bool} {remain : Option Int} (hdelta : 0 < delta)
    (hplay : s.relayInfo.isPlayground = false)
    (h : s.reserveToken fails remain delta db = .ok db₁) :
    db₁ = db.addTokenQuota s.relayInfo.tokenId (-delta) := by
  unfold reserveToken at h
  rw [if_neg (by simp [not_le.mpr hdelta, hplay])] at h
  split at h
  · cases h
  · rename_i db' htoken
    cases h
    exact (preConsumeTokenQuota_eq_ok hplay htoken).2

/-- A reservation that is taken back leaves the source and the database as they were. -/
lemma rollbackFundingReserve_eq (hdelta : 0 < delta) (hbacked : f.Backed db)
    (h : f.settle false delta db = .ok db₁) :
    rollbackFundingReserve false delta (f.reserved delta) db₁ = (f, db) := by
  cases f with
  | wallet w =>
    simp only [FundingSource.settle, hdelta.ne', if_false, attempt_eq_ok, takeUserQuota_eq_ok] at h
    obtain rfl := Except.ok.inj h.2
    simp [rollbackFundingReserve, reserved, attempt,
      increaseUserQuota_eq_ok hdelta.le, addUserQuota_cancel]
  | subscription sub =>
    simp only [FundingSource.settle, hdelta.ne', if_false, attempt_eq_ok] at h
    obtain ⟨hid, row, row', hfind, hrow, rfl⟩ :=
      (subscriptionDelta_eq_ok hdelta.ne').mp h.2
    obtain ⟨rfl, hfits⟩ := UserSubscription.postConsumeDelta_eq_ok.mp hrow
    obtain ⟨row₀, hfind₀, hused⟩ := hbacked
    obtain rfl : row = row₀ := Option.some.inj (hfind.symm.trans hfind₀)
    have hkey : row.id = sub.subscriptionId := (Table.find_eq_some_iff.mp hfind).2
    have hmax : max 0 (row.amountUsed + delta) = row.amountUsed + delta := max_eq_right (by omega)
    rw [hmax] at hfits ⊢
    -- giving the reservation back needs no more room than taking it did
    have hback : postConsumeUserSubscriptionDelta sub.subscriptionId (-delta)
        (db.saveSubscription { row with amountUsed := row.amountUsed + delta }) = .ok db := by
      rw [subscriptionDelta_eq_ok (by omega)]
      refine ⟨hid, _, row, find_saveSubscription_self hfind hkey, ?_, ?_⟩
      · rw [UserSubscription.postConsumeDelta_eq_ok]
        have hzero : max 0 (row.amountUsed + delta + -delta) = row.amountUsed := by omega
        simp only [hzero]
        exact ⟨trivial, fun hpos => by have := hfits hpos; omega⟩
      · have hsave : (db.subscriptions.save { row with amountUsed := row.amountUsed + delta }).save
            row = db.subscriptions := by
          refine (Table.save_save ?_).trans (Table.save_eq_self (Table.find_eq_some_iff.mp hfind).1)
          rfl
        simp only [DB.saveSubscription, hsave]
    simp [rollbackFundingReserve, reserved, attempt, hback, DB.orKeep]

/-- A reservation changes nothing, or it takes a positive amount from the source and the token and
books it. -/
lemma BillingSession.reserve_cases (hplay : s.relayInfo.isPlayground = false)
    (hbacked : s.funding.Backed db) {faults : Faults} (hrollback : faults.rollback = false)
    (remain : Option Int) (target : Int) :
    (∃ e, s.reserve faults remain target db = (s, db, e)) ∨
    (∃ delta db₁, 0 < delta ∧ s.settled = false ∧ s.refunded = false ∧
      s.funding.settle false delta db = .ok db₁ ∧
      s.reserve faults remain target db =
        (syncRelayInfo { s with
          funding := s.funding.reserved delta
          preConsumedQuota := s.preConsumedQuota + delta
          tokenConsumed := s.tokenConsumed + delta
          extraReserved := s.extraReserved + delta },
        db₁.addTokenQuota s.relayInfo.tokenId (-delta), none)) := by
  unfold reserve
  simp only
  split
  · exact Or.inl ⟨none, rfl⟩
  rename_i hopen
  simp only [Bool.or_eq_true, decide_eq_true_eq, not_or, Bool.not_eq_true] at hopen
  obtain ⟨⟨⟨hsettled, hrefunded⟩, -⟩, htarget⟩ := hopen
  have hdelta : 0 < target - s.preConsumedQuota := by omega
  split
  · rename_i e _
    exact Or.inl ⟨some e, rfl⟩
  rename_i f db₁ hfunding
  obtain ⟨rfl, hsettle⟩ := reserveFunding_eq_ok hdelta hfunding
  split
  · rename_i e _
    left
    refine ⟨some e, ?_⟩
    simp only [hrollback, rollbackFundingReserve_eq hdelta hbacked hsettle]
  · rename_i db₂ htoken
    obtain rfl := reserveToken_eq_ok hdelta hplay htoken
    exact Or.inr ⟨_, db₁, hdelta, hsettled, hrefunded, hsettle, rfl⟩

/-- The accounts agree again once a reservation is booked. -/
lemma BillingSession.Advanced.reserve (h : s.Advanced) (hdelta : 0 < delta)
    (hkey : ∀ sub, s.funding = .subscription sub → 0 < sub.subscriptionId) :
    (syncRelayInfo { s with
      funding := s.funding.reserved delta
      preConsumedQuota := s.preConsumedQuota + delta
      tokenConsumed := s.tokenConsumed + delta
      extraReserved := s.extraReserved + delta }).Advanced := by
  have hadvance := h.advance
  have hextra := h.extra
  have htoken := h.token
  have htotal := h.total
  constructor
  · simp only [syncRelayInfo_amounts]
    cases hf : s.funding with
    | wallet w =>
      simp only [hf, FundingSource.advance] at hadvance
      simp only [FundingSource.reserved, FundingSource.advance]
      omega
    | subscription sub => simpa only [hf, FundingSource.reserved] using hadvance
  · simp only [syncRelayInfo_amounts]
    omega
  · simp only [syncRelayInfo_amounts, htoken]
  · simp only [syncRelayInfo_amounts]
    cases hf : s.funding with
    | wallet w =>
      simp only [hf] at htotal
      simp only [reserved, htotal]
    | subscription sub =>
      simp only [hf] at htotal
      exact ⟨by omega, syncRelayInfo_subscriptionId _ rfl, fun _ => hkey sub hf⟩

end

end XinghaiApi
