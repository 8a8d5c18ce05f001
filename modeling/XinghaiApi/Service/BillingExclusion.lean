import XinghaiApi.Service.BillingConservation

/-!
# Settlement against refund

A session that has moved money by a settlement must not move it by a refund, and the other way
round. A refund looks at every flag of the session, so it never follows a settlement. A settlement
does not look at `refunded`, so it can follow a refund; this file says which calls do.
-/

namespace XinghaiApi

open Machine BillingState BillingSession

/-- At most one of the two has moved money: the funding source was adjusted by a settlement, or the
refund job was started. -/
def BillingState.Exclusive (t : BillingState) : Prop :=
  ¬(t.session.fundingSettled = true ∧ t.session.refunded = true)

/-- A settlement of a refunded session has nothing to adjust, or its update of the funding source
fails. -/
def BillingState.InTime (t : BillingState) : BillingEvent → Prop
  | .settle actual faults =>
    t.session.refunded = true → t.session.settled = false → actual ≠ t.session.preConsumedQuota →
      ∃ e, t.session.funding.settle faults.funding (actual - t.session.preConsumedQuota) t.db =
        .error e
  | _ => True

section

variable {t : BillingState} (s : BillingSession)

lemma BillingSession.reserve_flags (faults : Faults) (remain : Option Int) (target : Int)
    (db : DB) :
    (s.reserve faults remain target db).1.fundingSettled = s.fundingSettled ∧
      (s.reserve faults remain target db).1.refunded = s.refunded := by
  unfold reserve
  simp only
  split
  · exact ⟨rfl, rfl⟩
  split
  · exact ⟨rfl, rfl⟩
  split
  · exact ⟨rfl, rfl⟩
  · exact ⟨(syncRelayInfo_flags _).2.2, (syncRelayInfo_flags _).2.1⟩

lemma BillingSession.fundingSettled_of_needsRefund {s : BillingSession}
    (h : s.needsRefundLocked = true) : s.fundingSettled = false := by
  by_contra hne
  simp [needsRefundLocked, hne] at h

/-- A refund starts only where no settlement has adjusted the funding source. -/
lemma BillingState.Exclusive.refund (h : t.Exclusive) : (t.step .refund).Exclusive := by
  simp only [step, BillingSession.refund]
  split
  · exact h
  · rename_i hstart
    have hneeds : t.session.needsRefundLocked = true := by
      by_contra hne
      exact hstart (by simp [hne])
    have hnot := fundingSettled_of_needsRefund hneeds
    rintro ⟨hfunding, -⟩
    exact absurd (hnot.symm.trans hfunding) (by decide)

/-- What a settlement does to the flags: it adjusts the funding source iff there is something to
adjust and the update goes through. -/
lemma BillingSession.settle_flags (faults : Faults) (actual : Int) (db : DB)
    (hfunding : s.fundingSettled = false) :
    (s.settle faults actual db).1.refunded = s.refunded ∧
      ((s.settle faults actual db).1.fundingSettled = true ↔
        s.settled = false ∧ actual ≠ s.preConsumedQuota ∧
          ∃ db₁, s.funding.settle faults.funding (actual - s.preConsumedQuota) db = .ok db₁) := by
  unfold settle
  by_cases hsettled : s.settled = true
  · simp [hsettled, hfunding]
  rw [if_neg hsettled]
  by_cases hdelta : actual - s.preConsumedQuota = 0
  · have hactual : actual = s.preConsumedQuota := by omega
    simp [hfunding, hactual]
  have hactual : actual ≠ s.preConsumedQuota := by omega
  rw [if_neg hdelta]
  simp only [hfunding, Bool.false_eq_true, if_false]
  cases hsettle : s.funding.settle faults.funding (actual - s.preConsumedQuota) db with
  | error e => simp [hfunding]
  | ok db₁ =>
    simp only [hsettled]
    split <;> simp [markSettled, hactual]

/-- One step: at most one of the two has moved money iff a settlement is in time. -/
lemma BillingState.Exclusive.step_iff (h : t.Exclusive) (e : BillingEvent) :
    (t.step e).Exclusive ↔ t.InTime e := by
  cases e with
  | reserve target remain faults =>
    obtain ⟨hfunding, hrefunded⟩ := t.session.reserve_flags faults remain target t.db
    simpa only [InTime, iff_true, step, Exclusive, hfunding, hrefunded] using h
  | refund => exact iff_of_true h.refund trivial
  | refundUpdate fails =>
    refine iff_of_true ?_ trivial
    simp only [step]
    split
    · exact h
    · split <;> exact h
  | settle actual faults =>
    cases hfunding : t.session.fundingSettled with
    | true =>
      -- the source was adjusted before, so there has been no refund
      have hrefunded : t.session.refunded = false := by
        by_contra hne
        exact h ⟨hfunding, by simpa using hne⟩
      refine iff_of_true ?_ (fun hc => absurd (hc.symm.trans hrefunded) (by decide))
      rintro ⟨-, hafter⟩
      have hsame : (t.session.settle faults actual t.db).1.refunded = false := by
        unfold settle
        simp only [hfunding, if_true]
        split
        · exact hrefunded
        split
        · exact hrefunded
        split <;> exact hrefunded
      exact absurd (hafter.symm.trans hsame) (by decide)
    | false =>
      obtain ⟨hrefunded, hadjusts⟩ := t.session.settle_flags faults actual t.db hfunding
      have hstep : (t.step (.settle actual faults)).Exclusive ↔
          ¬((t.session.settled = false ∧ actual ≠ t.session.preConsumedQuota ∧
            ∃ db₁, t.session.funding.settle faults.funding (actual - t.session.preConsumedQuota)
              t.db = .ok db₁) ∧ t.session.refunded = true) := by
        rw [← hadjusts, ← hrefunded]
        rfl
      rw [hstep]
      constructor
      · intro hnot hrefunded' hsettled hactual
        cases hs : t.session.funding.settle faults.funding
            (actual - t.session.preConsumedQuota) t.db with
        | error e => exact ⟨e, rfl⟩
        | ok db₁ => exact absurd ⟨⟨hsettled, hactual, db₁, hs⟩, hrefunded'⟩ hnot
      · rintro htime ⟨⟨hsettled, hactual, db₁, hs⟩, hrefunded'⟩
        obtain ⟨e, he⟩ := htime hrefunded' hsettled hactual
        cases he.symm.trans hs

/-- A settlement that is in time moves nothing once the session is refunded. -/
lemma BillingState.Exclusive.settle_db (h : t.Exclusive) (hrefunded : t.session.refunded = true)
    {actual : Int} {faults : Faults} (htime : t.InTime (.settle actual faults)) :
    (t.step (.settle actual faults)).db = t.db := by
  have hfunding : t.session.fundingSettled = false := by
    by_contra hne
    exact h ⟨by simpa using hne, hrefunded⟩
  simp only [step, settle]
  by_cases hsettled : t.session.settled = true
  · simp [hsettled]
  by_cases hdelta : actual - t.session.preConsumedQuota = 0
  · simp [hsettled, hdelta]
  · obtain ⟨e, he⟩ := htime hrefunded (by simpa using hsettled) (by omega)
    simp [hsettled, hdelta, hfunding, he]

end

/-- In every run of calls on a new session, at most one of settlement and refund moves money iff
every settlement of the refunded session has nothing to adjust or is refused by the funding source.
In such a run a settlement after the refund leaves the database as it is, and a refund after the
settlement does nothing at all. -/
theorem settle_refund_exclusive_iff (env : SessionEnv) (info : RelayInfo) (quota : Int)
    (before db : DB) (s : BillingSession)
    (hnew : newBillingSession env info quota before = (db, .ok s)) (events : List BillingEvent) :
    ((∀ t ∈ states step { session := s, db := db } events, t.Exclusive) ↔
      Along step InTime { session := s, db := db } events) ∧
    (Along step InTime { session := s, db := db } events →
      ∀ t ∈ states step { session := s, db := db } events,
        (t.session.refunded = true → ∀ actual faults, t.InTime (.settle actual faults) →
          (t.step (.settle actual faults)).db = t.db) ∧
        (t.session.settled = true → t.step .refund = t)) := by
  have hfirst : ({ session := s, db := db } : BillingState).Exclusive := by
    rintro ⟨hfunding, -⟩
    exact absurd ((newBillingSession_flags hnew).2.2.symm.trans hfunding) (by decide)
  have hiff := forall_states_iff_along (fun _ e h => h.step_iff e) hfirst events
  refine ⟨hiff, ?_⟩
  intro halong t ht
  have hexclusive := hiff.mpr halong t ht
  refine ⟨fun hrefunded _ _ htime => hexclusive.settle_db hrefunded htime, ?_⟩
  intro hsettled
  simp [step, refund_of_settled hsettled]

/-- A settlement in time and a refund after it; the refund job never runs. -/
theorem settle_refund_exclusive_wallet :
    Along step InTime walletStart [.settle 120 {}, .refund, .refundUpdate false] ∧
      (run step walletStart
        [.settle 120 {}, .refund, .refundUpdate false]).Exclusive := by
  have hnew : newBillingSession walletEnv walletInfo 100 walletDB =
      (walletStart.db, .ok walletSession) := rfl
  have hintime : Along step InTime walletStart
      [.settle 120 {}, .refund, .refundUpdate false] := by
    refine ⟨?_, trivial, trivial, trivial⟩
    intro hrefunded
    exact absurd hrefunded (by decide)
  refine ⟨hintime, ?_⟩
  exact (settle_refund_exclusive_iff walletEnv walletInfo 100 walletDB _ _ hnew _).1.mpr hintime _
    (run_mem_states _ _ _)

/-- The advance of 100 is given back. -/
def walletRefunded : BillingState :=
  run step walletStart [.refund, .refundUpdate false, .refundUpdate false]

/-- A settlement of 150 after the refund takes 50 from the wallet and from the token. -/
theorem settle_after_refund_charges :
    walletRefunded.session.refunded = true ∧ walletRefunded.fundingTaken walletDB = 0 ∧
      (walletRefunded.step (.settle 150 {})).fundingTaken walletDB = 50 ∧
      (walletRefunded.step (.settle 150 {})).tokenTaken walletDB = 50 := by
  refine ⟨by decide, by decide, by decide, by decide⟩

end XinghaiApi
