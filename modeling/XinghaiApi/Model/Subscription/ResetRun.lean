import XinghaiApi.Model.Subscription.Row

/-!
# One free quota a period

A run of resets on one subscription, with the time of the last zeroing and the boundary it was
aligned to. A reset that the passage of time makes (in a pre-consumption or in the background)
zeroes the used amount only when the next boundary after that one lies between the last zeroing
and now. Boundaries form a grid that starts at the creation or at the last reset of an
administrator, so they are counted from the boundary and not from the moment of the zeroing.
-/

namespace XinghaiApi

open Civil Machine UserSubscription Location ResetAction

/-! ### Runs of resets -/

structure ResetState where
  sub : UserSubscription
  clock : Int
  /-- when the used amount was last zeroed, the start if never -/
  zeroedAt : Int
  /-- the boundary that zeroing was aligned to -/
  alignedTo : Int

open ResetState

variable {e : RowTx}

/-- The clock reading of a transaction. -/
def RowTx.time (clock : Int) : RowTx → Int
  | .preConsume now _ _ _ => now
  | .resetDue now _       => now
  | .adminReset now _     => now
  | .postConsumeDelta _   => clock

def RowTx.isAdmin : RowTx → Bool
  | .adminReset _ _ => true
  | _               => false

section

variable (loc : Location) (plan : SubscriptionPlan)

/-- The boundary a reset of the row is aligned to, if the transaction commits one that zeroes the
used amount. -/
def RowTx.zeroing (sub : UserSubscription) : RowTx → Option Int
  | .preConsume now fuel amount elsewhere =>
    if sub.isOpen now then
      match sub.resetAction loc plan now fuel with
      | some (.zero base next) =>
        if elsewhere || (((zero base next).apply sub).tryConsume amount).isSome then
          some base
        else none
      | _ => none
    else none
  | .resetDue now fuel =>
    if 0 < sub.nextResetTime ∧ sub.nextResetTime ≤ now then
      match sub.resetAction loc plan now fuel with
      | some (.zero base _) => some base
      | _                   => none
    else none
  | .adminReset now _ => if sub.isOpen now then some now else none
  | .postConsumeDelta _ => none

def ResetState.step (s : ResetState) (e : RowTx) : ResetState :=
  let sub := e.step loc plan s.sub
  let clock := e.time s.clock
  match e.zeroing loc plan s.sub with
  | some base => { sub := sub, clock := clock, zeroedAt := clock, alignedTo := base }
  | none      => { s with sub := sub, clock := clock }

/-- A subscription right after its creation. -/
def ResetState.created (userId : Int) (source : String) (start endUnix : Int)
    (prevGroup : String) : ResetState where
  sub := fromPlan loc userId plan source start endUnix prevGroup
  clock := start
  zeroedAt := start
  alignedTo := start

/-- The clock does not go back, and an administrator advances the reset times of a row only while
a boundary is left before its end. -/
def ResetState.Allowed (s : ResetState) (e : RowTx) : Prop :=
  s.clock ≤ e.time s.clock ∧
    match e with
    | .adminReset now advance =>
      advance = true ∧ now < calcNextResetTime loc now plan s.sub.endTime
    | _ => True

instance (s : ResetState) : (e : RowTx) → Decidable (s.Allowed loc plan e)
  | .adminReset .. => inferInstanceAs (Decidable (_ ∧ _ ∧ _))
  | .preConsume .. | .resetDue .. | .postConsumeDelta .. => inferInstanceAs (Decidable (_ ∧ True))

end

/-! ### What a transaction does to the reset times -/

section

variable {loc : Location} {plan : SubscriptionPlan} {now : Int} {fuel : ℕ} {sub : UserSubscription}

/-- Scheduling the next boundary does not move the base it is counted from. -/
lemma resetBase_apply_schedule {base next : Int} (hbase : base = sub.resetBase) :
    ((schedule base next).apply sub).resetBase = sub.resetBase := by
  subst hbase
  simp only [apply, resetBase]
  split_ifs <;> rfl

/-- The outcome of a row that time has reset: the base stays, or the row is zeroed at a boundary
that has passed. -/
structure TimedOutcome (loc : Location) (plan : SubscriptionPlan) (now : Int)
    (sub sub' : UserSubscription) (zeroing : Option Int) : Prop where
  endTime : sub'.endTime = sub.endTime
  kept : zeroing = none → sub'.resetBase = sub.resetBase
  zeroed : ∀ base, zeroing = some base →
    sub'.resetBase = base ∧ ∃ next, (zero base next).Justified loc plan now sub

/-- Nothing happened. -/
lemma TimedOutcome.refl : TimedOutcome loc plan now sub sub none where
  endTime := rfl
  kept _ := rfl
  zeroed := nofun

/-- The action of a reset, applied. -/
lemma TimedOutcome.of_action {action : ResetAction}
    (h : sub.resetAction loc plan now fuel = some action) :
    TimedOutcome loc plan now sub (action.apply sub)
      (match action with
        | .zero base _ => some base
        | _            => none) := by
  have hjust := resetAction_justified h
  cases action with
  | keep => exact TimedOutcome.refl
  | schedule base next =>
    exact ⟨rfl, fun _ => resetBase_apply_schedule hjust.1, nofun⟩
  | zero base next =>
    refine ⟨rfl, nofun, ?_⟩
    intro base' h
    cases h
    refine ⟨?_, next, hjust⟩
    simp [apply, resetBase, not_le.mpr hjust.2.2.1]

/-- Writing the used amount does not touch the reset times. -/
lemma TimedOutcome.with_amountUsed {sub' : UserSubscription} {zeroing : Option Int} {used : Int}
    (h : TimedOutcome loc plan now sub sub' zeroing) :
    TimedOutcome loc plan now sub { sub' with amountUsed := used } zeroing :=
  ⟨h.endTime, h.kept, h.zeroed⟩

lemma preConsume_timedOutcome (amount : Int) (elsewhere : Bool) :
    TimedOutcome loc plan now sub (RowTx.step loc plan sub (.preConsume now fuel amount elsewhere))
      (RowTx.zeroing loc plan sub (.preConsume now fuel amount elsewhere)) := by
  by_cases hopen : sub.isOpen now = true
  · cases haction : sub.resetAction loc plan now fuel with
    | none =>
      simpa [RowTx.step, RowTx.zeroing, maybeReset, haction] using TimedOutcome.refl
    | some action =>
      have hout := TimedOutcome.of_action haction
      cases htake : (action.apply sub).tryConsume amount with
      | some taken =>
        obtain ⟨rfl, -⟩ := tryConsume_eq_some.mp htake
        have hstep := @TimedOutcome.with_amountUsed _ _ _ _ _ _
          ((action.apply sub).amountUsed + amount) hout
        cases action <;>
          simpa [RowTx.step, RowTx.zeroing, hopen, maybeReset, haction, htake] using hstep
      | none =>
        cases elsewhere with
        | true =>
          cases action <;>
            simpa [RowTx.step, RowTx.zeroing, hopen, maybeReset, haction, htake] using hout
        | false =>
          cases action <;>
            simpa [RowTx.step, RowTx.zeroing, maybeReset, haction, htake] using TimedOutcome.refl
  · simpa [RowTx.step, RowTx.zeroing, hopen] using TimedOutcome.refl

lemma resetDue_timedOutcome :
    TimedOutcome loc plan now sub (RowTx.step loc plan sub (.resetDue now fuel))
      (RowTx.zeroing loc plan sub (.resetDue now fuel)) := by
  by_cases hdue : 0 < sub.nextResetTime ∧ sub.nextResetTime ≤ now
  · cases haction : sub.resetAction loc plan now fuel with
    | none =>
      simpa [RowTx.step, RowTx.zeroing, maybeReset, haction] using TimedOutcome.refl
    | some action =>
      have hout := TimedOutcome.of_action haction
      cases action <;>
        simpa [RowTx.step, RowTx.zeroing, hdue, maybeReset, haction] using hout
  · simpa [RowTx.step, RowTx.zeroing, hdue] using TimedOutcome.refl

lemma postConsumeDelta_timedOutcome (delta : Int) :
    TimedOutcome loc plan now sub (RowTx.step loc plan sub (.postConsumeDelta delta)) none := by
  cases h : sub.postConsumeDelta delta with
  | error e => simpa [RowTx.step, h] using TimedOutcome.refl
  | ok sub' =>
    obtain ⟨rfl, -⟩ := postConsumeDelta_eq_ok.mp h
    simpa [RowTx.step, h] using TimedOutcome.refl.with_amountUsed

/-- Every transaction but the reset of an administrator. -/
lemma RowTx.timedOutcome (he : e.isAdmin = false) (clock : Int) :
    TimedOutcome loc plan (e.time clock) sub (e.step loc plan sub) (e.zeroing loc plan sub) := by
  cases e with
  | preConsume now fuel amount elsewhere => exact preConsume_timedOutcome amount elsewhere
  | resetDue now fuel => exact resetDue_timedOutcome
  | adminReset now advance => cases he
  | postConsumeDelta delta => exact postConsumeDelta_timedOutcome delta

end

/-! ### The boundary before a zeroing -/

section

variable {loc : Location} {plan : SubscriptionPlan} {s : ResetState}

/-- The boundaries of the row are counted from the boundary of its last zeroing, and the next one
comes after that zeroing. -/
structure ResetState.Aligned (loc : Location) (plan : SubscriptionPlan) (s : ResetState) :
    Prop where
  clock : 0 < s.clock
  base : s.sub.resetBase = s.alignedTo
  next : calcNextResetTime loc s.alignedTo plan s.sub.endTime ≤ 0 ∨
    s.zeroedAt < calcNextResetTime loc s.alignedTo plan s.sub.endTime

lemma ResetState.Aligned.timed (h : s.Aligned loc plan) (he : e.isAdmin = false)
    (hclock : s.clock ≤ e.time s.clock) : (s.step loc plan e).Aligned loc plan := by
  have hout : TimedOutcome loc plan (e.time s.clock) s.sub (e.step loc plan s.sub)
      (e.zeroing loc plan s.sub) := RowTx.timedOutcome he s.clock
  have hpos : 0 < e.time s.clock := lt_of_lt_of_le h.clock hclock
  cases hz : e.zeroing loc plan s.sub with
  | none =>
    simp only [step, hz]
    refine ⟨hpos, (hout.kept hz).trans h.base, ?_⟩
    simp only [hout.endTime]
    exact h.next
  | some base =>
    obtain ⟨hbase, next, -, -, -, hnext, hafter⟩ := hout.zeroed base hz
    simp only [step, hz]
    refine ⟨hpos, hbase, ?_⟩
    simp only [hout.endTime, ← hnext]
    exact hafter

lemma ResetState.Aligned.admin {now : Int} {advance : Bool} (h : s.Aligned loc plan)
    (hallowed : s.Allowed loc plan (.adminReset now advance)) :
    (s.step loc plan (.adminReset now advance)).Aligned loc plan := by
  obtain ⟨hclock, rfl, hnext⟩ := hallowed
  have hpos : 0 < now := lt_of_lt_of_le h.clock hclock
  by_cases hopen : s.sub.isOpen now = true
  · have hleft : 0 < calcNextResetTime loc now plan s.sub.endTime := lt_trans hpos hnext
    simp only [step, RowTx.zeroing, RowTx.step, hopen]
    refine ⟨hpos, ?_, Or.inr hnext⟩
    simp [resetUserSubscription, resetBase, hleft, not_le.mpr hpos]
  · simp only [step, RowTx.zeroing, RowTx.step, hopen]
    exact ⟨hpos, h.base, h.next⟩

/-- One allowed transaction. -/
lemma ResetState.Aligned.step (h : s.Aligned loc plan) (hallowed : s.Allowed loc plan e) :
    (s.step loc plan e).Aligned loc plan := by
  cases e with
  | adminReset now advance => exact h.admin hallowed
  | preConsume now fuel amount elsewhere => exact h.timed rfl hallowed.1
  | resetDue now fuel => exact h.timed rfl hallowed.1
  | postConsumeDelta delta => exact h.timed rfl hallowed.1

lemma ResetState.aligned_created {userId : Int} {source : String} {start endUnix : Int}
    {prevGroup : String} (hstart : 0 < start)
    (hfirst : calcNextResetTime loc start plan endUnix ≤ 0 ∨
      start < calcNextResetTime loc start plan endUnix) :
    (created loc plan userId source start endUnix prevGroup).Aligned loc plan := by
  refine ⟨hstart, ?_, hfirst⟩
  by_cases hnext : 0 < calcNextResetTime loc start plan endUnix
  · simp [created, fromPlan, resetBase, hnext]
  · simp [created, fromPlan, resetBase, hnext]

end

/-- After any allowed run, a lazy or background reset zeroes the used amount only if the boundary
that follows the one of the last zeroing lies after that zeroing and not after now. -/
theorem zeroing_after_boundary (loc : Location) (plan : SubscriptionPlan) (userId : Int)
    (source : String) (start endUnix : Int) (prevGroup : String) (hstart : 0 < start)
    (hfirst : calcNextResetTime loc start plan endUnix ≤ 0 ∨
      start < calcNextResetTime loc start plan endUnix)
    (es : List RowTx)
    (hes : Along (step loc plan) (Allowed loc plan)
      (created loc plan userId source start endUnix prevGroup) es)
    (e : RowTx) (he : e.isAdmin = false) (base : Int) :
    let s := run (step loc plan) (created loc plan userId source start endUnix prevGroup) es
    e.zeroing loc plan s.sub = some base →
      s.zeroedAt < calcNextResetTime loc s.alignedTo plan s.sub.endTime ∧
        calcNextResetTime loc s.alignedTo plan s.sub.endTime ≤ e.time s.clock := by
  intro s hz
  have hs : s.Aligned loc plan :=
    Along.invariant (fun _ _ h hok => h.step hok) (aligned_created hstart hfirst) hes
  obtain ⟨-, next, hpos, hdue, -⟩ := (RowTx.timedOutcome he s.clock).zeroed base hz
  rw [hs.base] at hpos hdue
  refine ⟨?_, hdue⟩
  rcases hs.next with hnone | hafter
  · exact absurd hpos (not_lt.mpr hnone)
  · exact hafter

/-- A plan whose quota is free again every ten seconds. -/
def tenSecondPlan : SubscriptionPlan :=
  { id := 1, durationUnit := "custom", customSeconds := 1000, totalAmount := 1000
    quotaResetPeriod := "custom", quotaResetCustomSeconds := 10 }

/-- A subscription of that plan from 1000 to 2000. -/
def tenSecondStart : ResetState :=
  created utc tenSecondPlan 7 "order" 1000 2000 ""

/-- After a zeroing at 1015, aligned to 1010, the boundary 1020 allows the next one. -/
theorem zeroing_after_boundary_tenSecond :
    let s := run (step utc tenSecondPlan) tenSecondStart [.preConsume 1015 5 1 false]
    s.zeroedAt < calcNextResetTime utc s.alignedTo tenSecondPlan s.sub.endTime ∧
      calcNextResetTime utc s.alignedTo tenSecondPlan s.sub.endTime ≤ 1020 :=
  zeroing_after_boundary utc tenSecondPlan 7 "order" 1000 2000 "" (by decide) (by decide)
    [.preConsume 1015 5 1 false] (by decide) (.preConsume 1020 5 1 false) rfl 1020 (by decide)

/-- Counted from the moment of the zeroing at 1015 the next boundary would be 1025, and yet the
pre-consumption at 1020 zeroes the used amount again. -/
theorem zeroing_before_boundary_of_zeroing :
    let s := run (step utc tenSecondPlan) tenSecondStart [.preConsume 1015 5 1 false]
    s.zeroedAt = 1015 ∧
      RowTx.zeroing utc tenSecondPlan s.sub (.preConsume 1020 5 1 false) = some 1020 ∧
      ¬(s.zeroedAt < calcNextResetTime utc s.zeroedAt tenSecondPlan s.sub.endTime ∧
        calcNextResetTime utc s.zeroedAt tenSecondPlan s.sub.endTime ≤ 1020) := by
  decide

end XinghaiApi
