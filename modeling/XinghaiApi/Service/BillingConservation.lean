import Mathlib.Algebra.Order.BigOperators.Group.List
import XinghaiApi.Service.BillingRun

/-!
# Conservation in a billing session

A session is open, settled or refunded. In each phase the amounts taken from the funding source and
from the token are known exactly, whatever calls were made and whichever updates failed.
-/

namespace XinghaiApi

open Civil Machine FundingSource BillingState RefundUpdate List

/-! ### Phases of a session -/

/-- The rows that pay exist, before the session and now. -/
structure BillingState.Ledger (before : DB) (t : BillingState) : Prop where
  playground : t.session.relayInfo.isPlayground = false
  base : t.session.funding.Backed before
  backed : t.session.funding.Backed t.db
  token : t.db.HasToken t.session.relayInfo.tokenId

/-- Neither settled nor refunded: the advance is what has been taken. -/
structure BillingState.IsOpen (before : DB) (t : BillingState) : Prop extends t.Ledger before where
  settled : t.session.settled = false
  refunded : t.session.refunded = false
  fundingSettled : t.session.fundingSettled = false
  settlement : t.settlement = none
  pending : t.pending = []
  failed : t.failed = []
  advanced : t.session.Advanced
  recorded : t.session.funding.Recorded t.db
  fundingTaken : t.fundingTaken before = t.session.preConsumedQuota
  tokenTaken : t.tokenTaken before = t.session.preConsumedQuota

/-- The amount a source has paid once `actual` is settled: a subscription cannot give back more
than had been used of it. -/
def FundingSource.settledAmount (before : DB) (actual : Int) (f : FundingSource) : Int :=
  match f with
  | .wallet _       => actual
  | .subscription _ => max actual (-f.drawn before)

lemma FundingSource.settledAmount_eq (f : FundingSource) (before : DB) (actual : Int) :
    f.settledAmount before actual = f.bound (f.drawn before + actual) - f.drawn before := by
  cases f with
  | wallet w =>
    simp only [settledAmount, bound]
    omega
  | subscription s =>
    simp only [settledAmount, bound]
    omega

/-- Settled by a call with `st.actual`. -/
structure BillingState.IsSettled (before : DB) (st : Settlement) (t : BillingState) : Prop extends
    t.Ledger before where
  settled : t.session.settled = true
  refunded : t.session.refunded = false
  settlement : t.settlement = some st
  pending : t.pending = []
  fundingTaken : t.fundingTaken before = t.session.funding.settledAmount before st.actual
  tokenTaken : st.tokenAdjusted = true → t.tokenTaken before = st.actual

/-- Refunded: what has been taken is what the updates still to come, and those that have failed,
would give back. -/
structure BillingState.IsRefunded (before : DB) (t : BillingState) : Prop extends
    t.Ledger before where
  settled : t.session.settled = false
  refunded : t.session.refunded = true
  settlement : t.settlement = none
  advanced : t.session.Advanced
  queue : (t.pending = t.session.refundUpdates ∧ t.session.funding.Recorded t.db) ∨
    t.pending <:+ t.session.laterUpdates
  failed : ∀ u ∈ t.failed, u ∈ t.session.refundUpdates
  fundingTaken : t.fundingTaken before = fundingSum t.pending + fundingSum t.failed
  tokenTaken : t.tokenTaken before = tokenSum t.pending + tokenSum t.failed

section

variable {before db : DB} {t : BillingState} {f : FundingSource} {tokenId : Int}
  {rest : List RefundUpdate}

lemma FundingSource.Backed.bound_add (h : f.Backed db) {x : Int} (hx : 0 ≤ x) :
    f.bound (f.drawn db + x) = f.drawn db + x := by
  cases f with
  | wallet w => rfl
  | subscription s =>
    apply bound_of_nonneg
    have hdrawn := h.bound_drawn
    simp only [bound] at hdrawn
    omega

lemma FundingSource.backed_addTokenQuota {delta : Int} :
    f.Backed (db.addTokenQuota tokenId delta) ↔ f.Backed db := by
  cases f <;> rfl

lemma FundingSource.drawn_addTokenQuota {delta : Int} :
    f.drawn (db.addTokenQuota tokenId delta) = f.drawn db := by
  cases f <;> rfl

lemma DB.HasToken.of_tokens {db₁ : DB} (h : db.HasToken tokenId)
    (htokens : db₁.tokens = db.tokens) : db₁.HasToken tokenId := by
  rw [DB.HasToken, htokens]
  exact h

/-- Taking from a token that the funding source has left alone. -/
lemma tokenRemain_take {db₁ : DB} (delta : Int) (htokens : db₁.tokens = db.tokens)
    (h : db.HasToken tokenId) :
    (db₁.addTokenQuota tokenId (-delta)).tokenRemain tokenId = db.tokenRemain tokenId - delta ∧
      (db₁.addTokenQuota tokenId (-delta)).HasToken tokenId := by
  have h₁ := h.of_tokens htokens
  refine ⟨?_, hasToken_addTokenQuota h₁⟩
  rw [tokenRemain_addTokenQuota h₁, DB.tokenRemain, htokens]
  rfl

lemma BillingState.IsOpen.reserve (h : t.IsOpen before) {faults : Faults}
    (hrollback : faults.rollback = false) (remain : Option Int) (target : Int) :
    (t.step (.reserve target remain faults)).IsOpen before := by
  rcases BillingSession.reserve_cases h.playground h.backed hrollback remain target with
    ⟨e, hsame⟩ | ⟨delta, db₁, hdelta, -, -, hsettle, hres⟩
  · simpa only [BillingState.step, hsame] using h
  · obtain ⟨hdrawn, hframe⟩ := settle_drawn h.backed hsettle
    obtain ⟨hremain, htoken⟩ := tokenRemain_take delta hframe.tokens h.token
    have hfunding := h.fundingTaken
    have htaken := h.tokenTaken
    simp only [BillingState.fundingTaken, BillingState.tokenTaken] at hfunding htaken
    have hbound : t.session.funding.bound (t.session.funding.drawn t.db + delta) =
        t.session.funding.drawn t.db + delta := h.backed.bound_add hdelta.le
    simp only [BillingState.step, hres]
    refine
      { playground := by simpa using h.playground
        base := by simpa [backed_reserved] using h.base
        backed := by
          simpa [backed_reserved, backed_addTokenQuota] using hframe.backed
        token := by simpa using htoken
        settled := by simpa using h.settled
        refunded := by simpa using h.refunded
        fundingSettled := by simpa using h.fundingSettled
        settlement := h.settlement
        pending := h.pending
        failed := h.failed
        advanced := ?_
        recorded := ?_
        fundingTaken := ?_
        tokenTaken := ?_ }
    · apply h.advanced.reserve hdelta
      -- the correction was written, so the subscription has a key
      intro sub hf
      simp only [hf, settle, hdelta.ne', if_false, attempt_eq_ok] at hsettle
      exact ((subscriptionDelta_eq_ok hdelta.ne').mp hsettle.2).1
    · simp only [BillingSession.syncRelayInfo_amounts, recorded_reserved]
      exact h.recorded.of_records hframe.records
    · simp only [BillingState.fundingTaken, BillingSession.syncRelayInfo_amounts, drawn_reserved,
        drawn_addTokenQuota, hdrawn, hbound]
      omega
    · simp only [BillingState.tokenTaken, BillingSession.syncRelayInfo_relayInfo,
        BillingSession.syncRelayInfo_amounts, hremain]
      omega

lemma BillingState.IsOpen.settle (h : t.IsOpen before) (actual : Int) (faults : Faults) :
    (t.step (.settle actual faults)).IsOpen before ∨
      ∃ st, (t.step (.settle actual faults)).IsSettled before st := by
  have hfunding := h.fundingTaken
  have htaken := h.tokenTaken
  simp only [BillingState.fundingTaken, BillingState.tokenTaken] at hfunding htaken
  rcases BillingSession.settle_cases h.settled h.fundingSettled h.playground faults actual t.db with
    ⟨hactual, hres⟩ | ⟨e, hres⟩ | ⟨db₁, hsettle, hres⟩
  · right
    have hbound := h.base.bound_add h.advanced.nonneg
    have hstep : t.step (.settle actual faults) = { t with
        session := { t.session with settled := true }, settlement := some ⟨actual, true⟩ } := by
      simp [step, hres, h.settled]
    rw [hstep]
    refine ⟨⟨actual, true⟩, { h.toLedger with
      settled := rfl
      refunded := h.refunded
      settlement := rfl
      pending := h.pending
      fundingTaken := ?_
      tokenTaken := fun _ => ?_ }⟩
    · simp only [BillingState.fundingTaken, settledAmount_eq, hactual]
      omega
    · simp only [hactual]
      exact htaken
  · left
    simpa [step, hres] using h
  · right
    obtain ⟨hdrawn, hframe⟩ := settle_drawn h.backed hsettle
    have hbase : t.session.funding.drawn t.db + (actual - t.session.preConsumedQuota) =
        t.session.funding.drawn before + actual := by omega
    rw [hbase] at hdrawn
    rcases hres with hres | ⟨e, hres⟩
    · obtain ⟨hremain, htoken⟩ :=
        tokenRemain_take (actual - t.session.preConsumedQuota) hframe.tokens h.token
      have hstep : t.step (.settle actual faults) = { t with
          session := t.session.markSettled (actual - t.session.preConsumedQuota)
          db := db₁.addTokenQuota t.session.relayInfo.tokenId
            (-(actual - t.session.preConsumedQuota))
          settlement := some ⟨actual, true⟩ } := by
        simp [step, hres, h.settled, BillingSession.markSettled]
      rw [hstep]
      refine ⟨⟨actual, true⟩,
        { playground := h.playground
          base := h.base
          backed := backed_addTokenQuota.mpr hframe.backed
          token := htoken
          settled := rfl
          refunded := h.refunded
          settlement := rfl
          pending := h.pending
          fundingTaken := ?_
          tokenTaken := fun _ => ?_ }⟩
      · simp only [BillingState.fundingTaken, BillingSession.markSettled,
          drawn_addTokenQuota, hdrawn, settledAmount_eq]
      · simp only [BillingState.tokenTaken, BillingSession.markSettled]
        omega
    · have hstep : t.step (.settle actual faults) = { t with
          session := t.session.markSettled (actual - t.session.preConsumedQuota)
          db := db₁
          settlement := some ⟨actual, false⟩ } := by
        simp [step, hres, h.settled, BillingSession.markSettled]
      rw [hstep]
      refine ⟨⟨actual, false⟩,
        { playground := h.playground
          base := h.base
          backed := hframe.backed
          token := h.token.of_tokens hframe.tokens
          settled := rfl
          refunded := h.refunded
          settlement := rfl
          pending := h.pending
          fundingTaken := ?_
          tokenTaken := nofun }⟩
      simp only [BillingState.fundingTaken, BillingSession.markSettled, hdrawn, settledAmount_eq]

/-- A refund of an open session leaves it open or queues the whole advance. -/
lemma BillingState.IsOpen.refund (h : t.IsOpen before) :
    (t.step .refund).IsOpen before ∨ (t.step .refund).IsRefunded before := by
  have hfunding := h.fundingTaken
  have htaken := h.tokenTaken
  simp only [BillingState.fundingTaken, BillingState.tokenTaken] at hfunding htaken
  by_cases hneeds : t.session.needsRefundLocked = true
  · right
    have hres : t.session.refund =
        ({ t.session with refunded := true }, t.session.refundUpdates) := by
      simp [BillingSession.refund, h.settled, h.refunded, hneeds]
    simp only [BillingState.step, hres, h.pending, nil_append]
    refine { h.toLedger with
      settled := h.settled
      refunded := rfl
      settlement := h.settlement
      advanced := { h.advanced with }
      queue := Or.inl ⟨rfl, h.recorded⟩
      failed := ?_
      fundingTaken := ?_
      tokenTaken := ?_ }
    · simp [h.failed]
    · simp only [BillingState.fundingTaken, h.failed, fundingSum_nil,
        h.advanced.fundingSum_refundUpdates]
      omega
    · simp only [BillingState.tokenTaken, h.failed, tokenSum_nil,
        h.advanced.tokenSum_refundUpdates h.playground]
      omega
  · left
    have hres : t.session.refund = (t.session, []) := by
      simp [BillingSession.refund, hneeds]
    simpa only [BillingState.step, hres, append_nil] using h

/-- A settled session is left alone by every event. -/
lemma BillingState.IsSettled.step_eq {st : Settlement} (h : t.IsSettled before st)
    (e : BillingEvent) : t.step e = t := by
  cases e with
  | reserve target remain faults =>
    simp [step, BillingSession.reserve_of_ended (Or.inl h.settled)]
  | settle actual faults =>
    simp [step, BillingSession.settle, h.settled]
  | refund => simp [step, BillingSession.refund_of_settled h.settled]
  | refundUpdate fails => simp [step, h.pending]

lemma fundingSum_nonneg {us : List RefundUpdate} (h : ∀ u ∈ us, 0 ≤ u.fundingAmount) :
    0 ≤ fundingSum us := by
  apply sum_nonneg
  intro x hx
  obtain ⟨u, hu, rfl⟩ := mem_map.mp hx
  exact h u hu

section

variable (h : t.IsRefunded before)

include h

lemma BillingState.IsRefunded.pending_suffix : t.pending <:+ t.session.refundUpdates := by
  rcases h.queue with ⟨heq, -⟩ | hsuffix
  · exact heq ▸ suffix_rfl
  · exact hsuffix.trans (suffix_cons _ _)

/-- The queue after its first update: the update of the funding source is always the first one. -/
lemma BillingState.IsRefunded.rest_suffix {u : RefundUpdate} (hpending : t.pending = u :: rest) :
    rest <:+ t.session.laterUpdates ∧
      ((u = .funding t.session.funding ∧ t.session.funding.Recorded t.db) ∨
        u ∈ t.session.laterUpdates) := by
  rcases h.queue with ⟨heq, hrecorded⟩ | hsuffix
  · rw [hpending, BillingSession.refundUpdates] at heq
    obtain ⟨rfl, rfl⟩ := heq
    exact ⟨suffix_refl _, Or.inl ⟨rfl, hrecorded⟩⟩
  · rw [hpending] at hsuffix
    exact ⟨(suffix_cons u rest).trans hsuffix, Or.inr (hsuffix.subset mem_cons_self)⟩

/-- What one update that goes through gives back. -/
lemma BillingState.IsRefunded.exec_ok {u : RefundUpdate} (hpending : t.pending = u :: rest)
    {fails : Bool} {db' : DB} (hexec : u.exec fails t.db = .ok db') :
    t.session.funding.Backed db' ∧ db'.HasToken t.session.relayInfo.tokenId ∧
      t.session.funding.drawn db' = t.session.funding.drawn t.db - u.fundingAmount ∧
      db'.tokenRemain t.session.relayInfo.tokenId =
        t.db.tokenRemain t.session.relayInfo.tokenId + u.tokenAmount := by
  have hmem : ∀ v ∈ u :: rest, 0 ≤ v.fundingAmount := by
    intro v hv
    rw [← hpending] at hv
    exact h.advanced.fundingAmount_nonneg (h.pending_suffix.subset hv)
  have hrest : 0 ≤ fundingSum rest := fundingSum_nonneg fun v hv => hmem v (mem_cons_of_mem _ hv)
  have hfailed : 0 ≤ fundingSum t.failed :=
    fundingSum_nonneg fun v hv => h.advanced.fundingAmount_nonneg (h.failed v hv)
  have htaken := h.fundingTaken
  rw [BillingState.fundingTaken, hpending, fundingSum_cons] at htaken
  -- a subscription does not stop at zero: at least this much has been taken from it
  have hbound : t.session.funding.bound (t.session.funding.drawn t.db - u.fundingAmount) =
      t.session.funding.drawn t.db - u.fundingAmount := by
    have hbase := h.base.bound_add (Int.add_nonneg hrest hfailed)
    have hdrawn : t.session.funding.drawn t.db - u.fundingAmount =
        t.session.funding.drawn before + (fundingSum rest + fundingSum t.failed) := by omega
    rw [hdrawn]
    exact hbase
  rcases (h.rest_suffix hpending).2 with ⟨rfl, hrecorded⟩ | hu
  · obtain ⟨hdrawn, hbacked, htokens⟩ :=
      refund_drawn h.backed hrecorded h.advanced.advance hexec
    refine ⟨hbacked, h.token.of_tokens htokens, hdrawn.trans hbound, ?_⟩
    simp only [DB.tokenRemain, htokens, tokenAmount, Int.add_zero]
  rcases BillingSession.mem_laterUpdates hu with ⟨rfl, hpos, hsource⟩ | ⟨rfl, hpos⟩
  · cases hf : t.session.funding with
    | wallet w =>
      rw [hf] at hsource
      simp [source] at hsource
    | subscription sub =>
      have htotal := h.advanced.total
      simp only [hf] at htotal
      simp only [exec, attempt_eq_ok, htotal.2.1] at hexec
      have hbacked := h.backed
      rw [hf] at hbacked
      obtain ⟨hdrawn, hframe⟩ := postConsume_drawn hbacked hexec.2
      rw [hf] at hbound
      refine ⟨hframe.backed, h.token.of_tokens hframe.tokens, hdrawn.trans hbound, ?_⟩
      simp only [DB.tokenRemain, hframe.tokens, tokenAmount, Int.add_zero]
  · simp only [exec, attempt_eq_ok, increaseTokenQuota_eq_ok hpos.le] at hexec
    obtain rfl := Except.ok.inj hexec.2
    refine ⟨backed_addTokenQuota.mpr h.backed, hasToken_addTokenQuota h.token, ?_, ?_⟩
    · simp only [drawn_addTokenQuota, fundingAmount, sub_zero]
    · rw [tokenRemain_addTokenQuota h.token]
      rfl

/-- An update of the refund job gives its amount back, or moves it to the failed ones. -/
lemma BillingState.IsRefunded.refundUpdate (fails : Bool) :
    (t.step (.refundUpdate fails)).IsRefunded before := by
  have hfunding := h.fundingTaken
  have htaken := h.tokenTaken
  simp only [BillingState.fundingTaken, BillingState.tokenTaken] at hfunding htaken
  cases hpending : t.pending with
  | nil => simpa [step, hpending] using h
  | cons u rest =>
    rw [hpending, fundingSum_cons] at hfunding
    rw [hpending, tokenSum_cons] at htaken
    have hsuffix := (h.rest_suffix hpending).1
    cases hexec : u.exec fails t.db with
    | ok db' =>
      obtain ⟨hbacked, htoken, hdrawn, hremain⟩ := h.exec_ok hpending hexec
      simp only [step, hpending, hexec]
      exact
        { playground := h.playground
          base := h.base
          backed := hbacked
          token := htoken
          settled := h.settled
          refunded := h.refunded
          settlement := h.settlement
          advanced := h.advanced
          queue := Or.inr hsuffix
          failed := h.failed
          fundingTaken := by
            simp only [BillingState.fundingTaken]
            omega
          tokenTaken := by
            simp only [BillingState.tokenTaken]
            omega }
    | error e =>
      simp only [step, hpending, hexec]
      refine { h.toLedger with
        settled := h.settled
        refunded := h.refunded
        settlement := h.settlement
        advanced := h.advanced
        queue := Or.inr hsuffix
        failed := ?_
        fundingTaken := ?_
        tokenTaken := ?_ }
      · intro v hv
        rcases mem_cons.mp hv with rfl | hv
        · exact h.pending_suffix.subset (by rw [hpending]; exact mem_cons_self)
        · exact h.failed v hv
      · simp only [BillingState.fundingTaken, fundingSum_cons]
        omega
      · simp only [BillingState.tokenTaken, tokenSum_cons]
        omega

end

end

/-! ### A new session is open -/

section

variable {env : SessionEnv} {info : RelayInfo} {quota : Int} {db db' : DB} {s : BillingSession}
  {f : FundingSource}

/-- The accounts of a session agree once its advance is booked. -/
lemma BillingSession.Advanced.of_opened {amount : Int} (h : f.Opened amount db db')
    (hamount : 0 ≤ amount) (info : RelayInfo) (trusted : Bool) :
    (syncRelayInfo
      { relayInfo := info
        funding := f
        tokenConsumed := if 0 < amount then amount else 0
        preConsumedQuota := amount
        trusted := trusted }).Advanced := by
  constructor
  · simp only [syncRelayInfo_amounts]
    exact h.advance.symm ▸ hamount
  · simp only [syncRelayInfo_amounts, le_refl]
  · simp only [syncRelayInfo_amounts]
    split_ifs with hpos
    · rfl
    · omega
  · simp only [syncRelayInfo_amounts]
    have hadvance := h.advance
    cases f with
    | wallet w => exact hadvance
    | subscription sub =>
      refine ⟨?_, syncRelayInfo_subscriptionId _ rfl, fun hc => absurd hc (lt_irrefl 0)⟩
      rw [Int.add_zero]
      exact hadvance

lemma BillingSession.effectiveQuota_nonneg (hquota : 0 ≤ quota) (trustQuota tokenQuota : Int) :
    0 ≤ s.effectiveQuota trustQuota tokenQuota quota := by
  rw [effectiveQuota]
  split_ifs
  · exact le_refl 0
  · exact hquota

/-- A session whose funding source takes what is asked of it starts open. -/
lemma BillingSession.preConsume_isOpen {loc : Location} {trustQuota tokenQuota : Int}
    {attemptEnv : AttemptEnv} (hplay : info.isPlayground = false)
    (htoken : db.HasToken info.tokenId) (hquota : 0 ≤ quota)
    (hopened : ∀ amount db₁ f' db₂, amount = ({ relayInfo := info, funding := f } :
        BillingSession).effectiveQuota trustQuota tokenQuota quota →
      (db₁ = db ∨ ∃ delta, db₁ = db.addTokenQuota info.tokenId delta) →
      f.preConsume loc attemptEnv.fuel attemptEnv.now attemptEnv.faults.funding amount db₁ =
        .ok (f', db₂) → f'.Opened amount db₁ db₂)
    (h : preConsume loc trustQuota tokenQuota attemptEnv quota
      { relayInfo := info, funding := f } db = (db', .ok s)) :
    ({ session := s, db := db' } : BillingState).IsOpen db := by
  unfold preConsume at h
  simp only [← effectiveQuota.eq_def] at h
  generalize hamount : ({ relayInfo := info, funding := f } : BillingSession).effectiveQuota
    trustQuota tokenQuota quota = amount at h hopened
  have hnonneg : 0 ≤ amount := hamount ▸ effectiveQuota_nonneg hquota trustQuota tokenQuota
  split at h
  · cases h
  rename_i db₁ htokenPart
  split at h
  · cases h
  rename_i f' db₂ hpre
  obtain ⟨rfl, hs⟩ := Prod.mk.inj h
  obtain rfl := Except.ok.inj hs
  -- the token part, whether or not something was taken from the token
  have hpart : (db₁ = db ∨ ∃ delta, db₁ = db.addTokenQuota info.tokenId delta) ∧
      db₁.HasToken info.tokenId ∧
      db₁.tokenRemain info.tokenId = db.tokenRemain info.tokenId - amount ∧
      f'.drawn db₁ = f'.drawn db ∧ (f'.Backed db₁ → f'.Backed db) := by
    split_ifs at htokenPart with hpos
    · obtain ⟨-, rfl⟩ := preConsumeTokenQuota_eq_ok hplay htokenPart
      obtain ⟨hremain, hhas⟩ := tokenRemain_take amount rfl htoken
      exact ⟨Or.inr ⟨_, rfl⟩, hhas, hremain, drawn_addTokenQuota, backed_addTokenQuota.mp⟩
    · obtain rfl := Except.ok.inj htokenPart
      exact ⟨Or.inl rfl, htoken, by omega, rfl, id⟩
  obtain ⟨hsame, hhas, hremain, hdrawn, hbase⟩ := hpart
  have hopen := hopened amount db₁ f' _ rfl hsame hpre
  have htokens := hopen.tokens
  refine
    { playground := by simpa using hplay
      base := by simpa using hbase hopen.base
      backed := by simpa using hopen.backed
      token := by simpa using hhas.of_tokens htokens
      settled := by simp
      refunded := by simp
      fundingSettled := by simp
      settlement := rfl
      pending := rfl
      failed := rfl
      advanced := BillingSession.Advanced.of_opened hopen hnonneg info _
      recorded := by simpa using hopen.recorded
      fundingTaken := ?_
      tokenTaken := ?_ }
  · simp only [fundingTaken, syncRelayInfo_amounts, hopen.drawn]
    omega
  · simp only [tokenTaken, syncRelayInfo_relayInfo, syncRelayInfo_amounts]
    rw [DB.tokenRemain, DB.tokenRemain, htokens]
    simp only [DB.tokenRemain] at hremain
    omega

lemma tryWallet_isOpen (hplay : info.isPlayground = false) (huser : db.HasUser info.userId)
    (htoken : db.HasToken info.tokenId) (hquota : 0 ≤ quota)
    (h : tryWallet env info quota db = (db', .ok s)) :
    ({ session := s, db := db' } : BillingState).IsOpen db := by
  obtain ⟨userQuota, hsession⟩ := tryWallet_eq_ok h
  refine BillingSession.preConsume_isOpen ?_ ?_ hquota ?_ hsession
  · exact hplay
  · exact htoken
  intro amount db₁ f' db₂ hamount hsame hpre
  have hnonneg : 0 ≤ amount := hamount ▸ BillingSession.effectiveQuota_nonneg hquota _ _
  have huser₁ : db₁.HasUser info.userId := by
    rcases hsame with rfl | ⟨delta, rfl⟩ <;> exact huser
  obtain ⟨r, hw, hr⟩ := Except.map_eq_ok.mp hpre
  cases hr
  exact (WalletFunding.preConsume_opened rfl hnonneg huser₁ hw).1

lemma trySubscription_isOpen (hplay : info.isPlayground = false)
    (htoken : db.HasToken info.tokenId) (hnone : db.findRecord info.requestId = none)
    (hused : ∀ sub ∈ db.subscriptions, 0 ≤ sub.amountUsed)
    (hreset : db.NoResetDue env.loc env.subscription.fuel env.subscription.now info.userId)
    (h : trySubscription env info quota db = (db', .ok s)) :
    ({ session := s, db := db' } : BillingState).IsOpen db := by
  unfold trySubscription at h
  generalize hconsume : (if quota ≤ 0 then 1 else quota) = subConsume at h
  have hpos : 0 < subConsume := by
    rw [← hconsume]
    split_ifs <;> omega
  refine BillingSession.preConsume_isOpen hplay htoken hpos.le ?_ h
  intro amount db₁ f' db₂ hamount hsame hpre
  -- a subscription is never trusted, so the amount is the one the source was made with
  have hwhole : amount = subConsume := by
    simp [hamount, BillingSession.effectiveQuota, BillingSession.shouldTrust]
  obtain ⟨r, hsub, hr⟩ := Except.map_eq_ok.mp hpre
  cases hr
  subst hwhole
  rcases hsame with rfl | ⟨delta, rfl⟩
  · exact (SubscriptionFunding.preConsume_opened hnone hused hreset hsub).1
  · have hnone₁ : (db.addTokenQuota info.tokenId delta).findRecord info.requestId = none := hnone
    have hused₁ : ∀ sub ∈ (db.addTokenQuota info.tokenId delta).subscriptions,
        0 ≤ sub.amountUsed := hused
    exact (SubscriptionFunding.preConsume_opened hnone₁ hused₁ (hreset.addTokenQuota _ _) hsub).1

end

/-! ### Conservation -/

variable {t : BillingState}

/-- The calls a run may make: a reservation that is refused can be taken back, and no settlement
follows a refund that took effect. -/
def BillingState.Allowed (t : BillingState) : BillingEvent → Prop
  | .reserve _ _ faults => faults.rollback = false
  | .settle _ _         => t.session.refunded = false
  | .refund             => True
  | .refundUpdate _     => True

instance BillingState.Allowed.decidable (t : BillingState) : ∀ e, Decidable (t.Allowed e)
  | .reserve _ _ faults => inferInstanceAs (Decidable (faults.rollback = false))
  | .settle _ _         => inferInstanceAs (Decidable (t.session.refunded = false))
  | .refund             => .isTrue trivial
  | .refundUpdate _     => .isTrue trivial

/-- What has been taken, phase by phase. A refund has completed when no update is pending, and gave
everything back when none has failed. -/
structure BillingState.Conserved (before : DB) (t : BillingState) : Prop where
  settled : ∀ st, t.settlement = some st →
    t.fundingTaken before = t.session.funding.settledAmount before st.actual ∧
      (st.tokenAdjusted = true → t.tokenTaken before = st.actual)
  refunded : t.session.refunded = true →
    t.fundingTaken before = fundingSum t.pending + fundingSum t.failed ∧
      t.tokenTaken before = tokenSum t.pending + tokenSum t.failed
  otherwise : t.settlement = none → t.session.refunded = false →
    t.fundingTaken before = t.session.preConsumedQuota ∧
      t.tokenTaken before = t.session.preConsumedQuota
  settled_again : ∀ st, t.settlement = some st → ∀ e, t.step e = t
  refunded_again : t.session.refunded = true → t.step .refund = t

/-- What the creation of a session finds: rows that pay, a new request, and nothing due for a reset.
Tokens can be paid back. -/
structure SessionEnv.Ready (env : SessionEnv) (info : RelayInfo) (before : DB) : Prop where
  playground : info.isPlayground = false
  user : before.HasUser info.userId
  token : before.HasToken info.tokenId
  request : before.findRecord info.requestId = none
  used : ∀ sub ∈ before.subscriptions, 0 ≤ sub.amountUsed
  reset : before.NoResetDue env.loc env.subscription.fuel env.subscription.now info.userId
  walletRollback : env.wallet.faults.rollback = false
  subscriptionRollback : env.subscription.faults.rollback = false

def BillingState.InPhase (before : DB) (t : BillingState) : Prop :=
  t.IsOpen before ∨ (∃ st, t.IsSettled before st) ∨ t.IsRefunded before

lemma BillingState.InPhase.step {before : DB} (h : t.InPhase before) {e : BillingEvent}
    (hallowed : t.Allowed e) : (t.step e).InPhase before := by
  rcases h with hopen | ⟨st, hsettled⟩ | hrefunded
  · cases e with
    | reserve target remain faults => exact Or.inl (hopen.reserve hallowed remain target)
    | settle actual faults =>
      rcases hopen.settle actual faults with h | h
      · exact Or.inl h
      · exact Or.inr (Or.inl h)
    | refund =>
      rcases hopen.refund with h | h
      · exact Or.inl h
      · exact Or.inr (Or.inr h)
    | refundUpdate fails =>
      left
      simpa [BillingState.step, hopen.pending] using hopen
  · rw [hsettled.step_eq e]
    exact Or.inr (Or.inl ⟨st, hsettled⟩)
  · right
    right
    cases e with
    | reserve target remain faults =>
      simpa [BillingState.step,
        BillingSession.reserve_of_ended (Or.inr hrefunded.refunded)] using hrefunded
    | settle actual faults => exact absurd (hrefunded.refunded.symm.trans hallowed) (by decide)
    | refund =>
      simpa [BillingState.step, BillingSession.refund_of_refunded hrefunded.refunded]
        using hrefunded
    | refundUpdate fails => exact hrefunded.refundUpdate fails

lemma BillingState.InPhase.conserved {before : DB} (h : t.InPhase before) : t.Conserved before := by
  have hagain : t.session.refunded = true → t.step .refund = t := by
    intro hrefunded
    simp [BillingState.step, BillingSession.refund_of_refunded hrefunded]
  rcases h with h | ⟨st, h⟩ | h
  · exact ⟨by simp [h.settlement], by simp [h.refunded],
      fun _ _ => ⟨h.fundingTaken, h.tokenTaken⟩, by simp [h.settlement], hagain⟩
  · refine ⟨?_, by simp [h.refunded], by simp [h.settlement], fun _ _ => h.step_eq, hagain⟩
    intro st' hst
    obtain rfl := Option.some.inj (h.settlement.symm.trans hst)
    exact ⟨h.fundingTaken, h.tokenTaken⟩
  · exact ⟨by simp [h.settlement], fun _ => ⟨h.fundingTaken, h.tokenTaken⟩, by simp [h.refunded],
      by simp [h.settlement], hagain⟩

/-- After every run of allowed calls on a new session, the amounts taken from the funding source and
from the token are the settled amount, what a refund has still to give back, or the advance. -/
theorem billing_conserved (env : SessionEnv) (info : RelayInfo) (quota : Int) (before db : DB)
    (s : BillingSession) (hready : env.Ready info before) (hquota : 0 ≤ quota)
    (hnew : newBillingSession env info quota before = (db, .ok s)) (events : List BillingEvent)
    (hallowed : Along step BillingState.Allowed { session := s, db := db } events) :
    (run step { session := s, db := db } events).Conserved before := by
  have hopen : ({ session := s, db := db } : BillingState).IsOpen before := by
    obtain ⟨db₀, hsame, hattempt⟩ := newBillingSession_cases hnew
    obtain rfl := hsame hready.walletRollback hready.subscriptionRollback
    rcases hattempt with htry | htry
    · exact tryWallet_isOpen hready.playground hready.user hready.token hquota htry
    · exact trySubscription_isOpen hready.playground hready.token hready.request hready.used
        hready.reset htry
  have hphase := Along.invariant (I := BillingState.InPhase before)
    (fun _ _ h hallowed => h.step hallowed) (Or.inl hopen) hallowed
  exact hphase.conserved

/-! ### A wallet that pays -/

/-- One user and one token, with a quota of 1000 each. -/
def walletDB : DB :=
  { DB.empty with
    users := Table.empty.insert { id := 0, group := "default", quota := 1000 }
    tokens := Table.empty.insert
      { id := 0, key := "sk", remainQuota := 1000, usedQuota := 0, unlimitedQuota := false } }

def walletInfo : RelayInfo :=
  { requestId := "r", userId := 1, tokenId := 1, billingPreference := "wallet_only" }

def walletEnv : SessionEnv where
  loc := .utc
  trustQuota := 0
  tokenQuota := 1000
  userQuota := some 1000
  groupNow := 0
  overflowNow := 0
  wallet := { now := 0, fuel := 0, tokenRemain := some 1000 }
  subscription := { now := 0, fuel := 0, tokenRemain := some 1000 }

/-- The session that takes 100 in advance. -/
def walletSession : BillingSession where
  relayInfo := { walletInfo with
    userQuota := 1000, finalPreConsumedQuota := 100, billingSource := "wallet" }
  funding := .wallet { userId := 1, consumed := 100 }
  preConsumedQuota := 100
  tokenConsumed := 100

def walletStart : BillingState where
  session := walletSession
  db := (newBillingSession walletEnv walletInfo 100 walletDB).1

lemma walletEnv_ready : walletEnv.Ready walletInfo walletDB where
  playground := rfl
  user := by decide
  token := by decide
  request := by decide
  used := fun _ hsub => nomatch hsub
  reset := fun _ hsub => nomatch hsub
  walletRollback := rfl
  subscriptionRollback := rfl

theorem billing_conserved_wallet :
    (run step walletStart
        [.reserve 150 (some 900) {}, .settle 120 {}, .refund]).Conserved walletDB ∧
      (run step walletStart [.refund, .refundUpdate false, .refundUpdate true]).Conserved
        walletDB := by
  have hnew : newBillingSession walletEnv walletInfo 100 walletDB =
      (walletStart.db, .ok walletSession) := rfl
  constructor
  · exact billing_conserved walletEnv walletInfo 100 walletDB _ _ walletEnv_ready (by decide) hnew _
      (by decide)
  · exact billing_conserved walletEnv walletInfo 100 walletDB _ _ walletEnv_ready (by decide) hnew _
      (by decide)

/-- A settlement in which the update of the token fails. -/
def settledInPart : BillingState := walletStart.step (.settle 150 { token := true })

/-- When the update of the token fails, the settlement returns an error but the wallet has paid
the actual amount and not the advance. -/
theorem settle_error_takes_actual :
    (walletSession.settle { token := true } 150 walletStart.db).2.2 = some .database ∧
      Along step BillingState.Allowed walletStart [.settle 150 { token := true }] ∧
      settledInPart.session.refunded = false ∧ settledInPart.session.preConsumedQuota = 100 ∧
      settledInPart.fundingTaken walletDB = 150 := by
  refine ⟨by decide, by decide, by decide, by decide, by decide⟩

end XinghaiApi
