import XinghaiApi.Model.Subscription.ResetRun

/-!
# Usage across a reset

Requests pre-consume from one subscription and later settle with a difference or are refunded,
while resets zero the used amount between. A correction is relative to the moment of the
pre-consumption and is applied whichever period it falls in, so what a request of an earlier
period gives back is taken from the usage of the present one. The used amount is what the requests
of the present period are charged, less what earlier requests have taken off it, plus what the stop
at zero has kept.
-/

namespace XinghaiApi

open Civil Machine RowTx

/-! ### Requests on one subscription -/

structure Request where
  id : ℕ
  preConsumed : Int
  /-- what the request has been charged so far -/
  charge : Int
  /-- pre-consumed after the last reset -/
  current : Bool
  finished : Bool
deriving DecidableEq

structure UsageState where
  sub : UserSubscription
  requests : List Request
  /-- what the corrections of requests of earlier periods have taken off since the last reset -/
  lateTaken : Int
  /-- what the stop at zero has kept of the corrections of the requests of the period -/
  kept : Int

inductive UsageEvent where
  | preConsume (id : ℕ) (now : Int) (fuel : ℕ) (amount : Int) (elsewhere : Bool)
  | settle (id : ℕ) (delta : Int)
  | refund (id : ℕ)
  | resetDue (now : Int) (fuel : ℕ)
  | adminReset (now : Int) (advanceResetTime : Bool)

/-- Finish the first unfinished request with this id. -/
def finishRequest (id : ℕ) (delta : Int) : List Request → List Request
  | []      => []
  | r :: rs =>
    if r.id = id ∧ r.finished = false then
      { r with charge := r.charge + delta, finished := true } :: rs
    else r :: finishRequest id delta rs

def openRequest (id : ℕ) (requests : List Request) : Option Request :=
  requests.find? fun r => decide (r.id = id ∧ r.finished = false)

/-- The charges of the requests that were pre-consumed after the last reset. -/
def currentCharge (requests : List Request) : Int :=
  ((requests.filter Request.current).map Request.charge).sum

/-- A correction of an unfinished request by `delta`. One that the database refuses changes
nothing and can be tried again. -/
def UsageState.adjust (id : ℕ) (delta : Int) (s : UsageState) : UsageState :=
  match openRequest id s.requests with
  | none   => s
  | some r =>
    match s.sub.postConsumeDelta delta with
    | .error _ => s
    | .ok sub' =>
      { sub := sub'
        requests := finishRequest id delta s.requests
        lateTaken :=
          if r.current then s.lateTaken
          else s.lateTaken + (s.sub.amountUsed - sub'.amountUsed)
        kept :=
          if r.current then s.kept + (sub'.amountUsed - (s.sub.amountUsed + delta)) else s.kept }

/-- After a reset no request is of the present period. -/
def UsageState.startPeriod (s : UsageState) : UsageState :=
  { s with
    requests := s.requests.map fun r => { r with current := false }
    lateTaken := 0
    kept := 0 }

section

variable (loc : Location) (plan : SubscriptionPlan)

/-- The row has served the pre-consumption. -/
def UserSubscription.serves (now : Int) (fuel : ℕ) (amount : Int) (sub : UserSubscription) : Bool :=
  sub.isOpen now &&
    (sub.maybeReset loc plan now fuel).any fun reset => (reset.tryConsume amount).isSome

/-- A transaction on the row, with the new period it may start. -/
def UsageState.apply (tx : RowTx) (s : UsageState) : UsageState :=
  let s' := if (tx.zeroing loc plan s.sub).isSome then s.startPeriod else s
  { s' with sub := tx.step loc plan s.sub }

def UsageState.step (s : UsageState) : UsageEvent → UsageState
  | .preConsume id now fuel amount elsewhere =>
    -- a request that has a record is not consumed again
    if s.requests.any fun r => decide (r.id = id) then s
    else
      let s' := s.apply loc plan (.preConsume now fuel amount elsewhere)
      if s.sub.serves loc plan now fuel amount then
        { s' with requests :=
            { id := id, preConsumed := amount, charge := amount, current := true
              finished := false } :: s'.requests }
      else s'
  | .settle id delta => s.adjust id delta
  | .refund id =>
    match openRequest id s.requests with
    | none   => s
    | some r => s.adjust id (-r.preConsumed)
  | .resetDue now fuel => s.apply loc plan (.resetDue now fuel)
  | .adminReset now advance => s.apply loc plan (.adminReset now advance)

end

/-! ### The used amount after a transaction -/

section

variable {loc : Location} {plan : SubscriptionPlan} {now : Int} {fuel : ℕ} {sub : UserSubscription}

lemma preConsume_amountUsed (amount : Int) (elsewhere : Bool) :
    (step loc plan sub (.preConsume now fuel amount elsewhere)).amountUsed =
      (if (zeroing loc plan sub (.preConsume now fuel amount elsewhere)).isSome then 0
        else sub.amountUsed) +
      (if sub.serves loc plan now fuel amount then amount else 0) := by
  by_cases hopen : sub.isOpen now = true
  · cases haction : sub.resetAction loc plan now fuel with
    | none =>
      simp [step, zeroing, UserSubscription.serves, UserSubscription.maybeReset, haction]
    | some action =>
      cases htake : (action.apply sub).tryConsume amount with
      | some taken =>
        obtain ⟨rfl, -⟩ := UserSubscription.tryConsume_eq_some.mp htake
        cases action <;>
          simp [step, zeroing, UserSubscription.serves, UserSubscription.maybeReset,
            hopen, haction, htake]
      | none =>
        -- the reset is kept only when another subscription serves the request
        cases elsewhere <;> cases action <;>
          simp [step, zeroing, UserSubscription.serves, UserSubscription.maybeReset,
            hopen, haction, htake]
  · simp [step, zeroing, UserSubscription.serves, hopen]

lemma resetDue_amountUsed :
    (step loc plan sub (.resetDue now fuel)).amountUsed =
      if (zeroing loc plan sub (.resetDue now fuel)).isSome then 0 else sub.amountUsed := by
  by_cases hdue : 0 < sub.nextResetTime ∧ sub.nextResetTime ≤ now
  · cases haction : sub.resetAction loc plan now fuel with
    | none => simp [step, zeroing, UserSubscription.maybeReset, haction]
    | some action =>
      cases action <;>
        simp [step, zeroing, UserSubscription.maybeReset, hdue, haction]
  · simp [step, zeroing, hdue]

lemma adminReset_amountUsed (advance : Bool) :
    (step loc plan sub (.adminReset now advance)).amountUsed =
      if (zeroing loc plan sub (.adminReset now advance)).isSome then 0
        else sub.amountUsed := by
  by_cases hopen : sub.isOpen now = true
  · cases advance <;>
      simp [step, zeroing, hopen, UserSubscription.resetUserSubscription]
  · simp [step, zeroing, hopen]

end

/-! ### Charges of the present period -/

@[simp] lemma currentCharge_nil : currentCharge [] = 0 := rfl

lemma currentCharge_cons (r : Request) (rs : List Request) :
    currentCharge (r :: rs) = (if r.current then r.charge else 0) + currentCharge rs := by
  by_cases h : r.current = true <;> simp [currentCharge, h]

/-- Finishing a request moves the charges of the period only if it is of the period. -/
lemma currentCharge_finishRequest {id : ℕ} {requests : List Request} {r : Request}
    (h : openRequest id requests = some r) (delta : Int) :
    currentCharge (finishRequest id delta requests) =
      currentCharge requests + if r.current then delta else 0 := by
  induction requests with
  | nil => cases h
  | cons x xs ih =>
    by_cases hx : x.id = id ∧ x.finished = false
    · obtain rfl : x = r := by simpa [openRequest, hx] using h
      simp only [finishRequest, hx, and_self, if_true, currentCharge_cons]
      split_ifs <;> omega
    · have htail : openRequest id xs = some r := by
        simpa only [openRequest, List.find?_cons, decide_eq_false hx] using h
      simp only [finishRequest, hx, if_false, currentCharge_cons, ih htail]
      omega

lemma currentCharge_startPeriod (s : UsageState) : currentCharge s.startPeriod.requests = 0 := by
  simp only [UsageState.startPeriod]
  induction s.requests with
  | nil => rfl
  | cons r rs ih => simp [currentCharge_cons, ih]

/-- The charges of the period are in the used amount, up to what was taken off late and what was
kept. -/
def UsageState.Balanced (s : UsageState) : Prop :=
  s.sub.amountUsed = currentCharge s.requests - s.lateTaken + s.kept ∧ 0 ≤ s.kept

section

variable {loc : Location} {plan : SubscriptionPlan} {s : UsageState}

lemma UsageState.Balanced.adjust (h : s.Balanced) (id : ℕ) (delta : Int) :
    (s.adjust id delta).Balanced := by
  unfold UsageState.adjust
  cases hr : openRequest id s.requests with
  | none => exact h
  | some r =>
    cases hd : s.sub.postConsumeDelta delta with
    | error e => simpa using h
    | ok sub' =>
      obtain ⟨rfl, -⟩ := UserSubscription.postConsumeDelta_eq_ok.mp hd
      simp only [UsageState.Balanced, currentCharge_finishRequest hr] at h ⊢
      by_cases hcurrent : r.current = true
      · -- stopping at zero only leaves more used than the correction asks for
        simp only [hcurrent, if_true]
        omega
      · simp only [hcurrent, Bool.false_eq_true, if_false]
        omega

/-- A transaction that leaves the used amount as it is, or zeroes it in a new period, plus what it
takes. -/
lemma UsageState.Balanced.apply (h : s.Balanced) (loc : Location) (plan : SubscriptionPlan)
    (tx : RowTx) (taken : Int)
    (hused : (tx.step loc plan s.sub).amountUsed =
      (if (tx.zeroing loc plan s.sub).isSome then 0 else s.sub.amountUsed) + taken) :
    (s.apply loc plan tx).sub.amountUsed = taken + currentCharge (s.apply loc plan tx).requests -
        (s.apply loc plan tx).lateTaken + (s.apply loc plan tx).kept ∧
      0 ≤ (s.apply loc plan tx).kept := by
  by_cases hz : (tx.zeroing loc plan s.sub).isSome = true
  · have hcharge := currentCharge_startPeriod s
    simp only [UsageState.apply, hz, if_true] at hused ⊢
    rw [hcharge, hused]
    simp [UsageState.startPeriod]
  · simp only [UsageState.apply, hz] at hused ⊢
    simp only [UsageState.Balanced] at h
    simp only [Bool.false_eq_true, if_false] at hused ⊢
    omega

lemma UsageState.Balanced.step (h : s.Balanced) (e : UsageEvent) :
    (s.step loc plan e).Balanced := by
  cases e with
  | preConsume id now fuel amount elsewhere =>
    simp only [UsageState.step]
    split
    · exact h
    · have htook := h.apply loc plan (.preConsume now fuel amount elsewhere) _
        (preConsume_amountUsed amount elsewhere)
      split
      · rename_i hserves
        simp only [hserves] at htook
        exact htook
      · rename_i hserves
        simp only [hserves] at htook
        simpa [UsageState.Balanced] using htook
  | settle id delta => exact h.adjust id delta
  | refund id =>
    simp only [UsageState.step]
    split
    · exact h
    · exact h.adjust id _
  | resetDue now fuel =>
    have happly := h.apply loc plan (.resetDue now fuel) 0
      (resetDue_amountUsed.trans (Int.add_zero _).symm)
    simpa [UsageState.Balanced, UsageState.step] using happly
  | adminReset now advance =>
    have happly := h.apply loc plan (.adminReset now advance) 0
      ((adminReset_amountUsed advance).trans (Int.add_zero _).symm)
    simpa [UsageState.Balanced, UsageState.step] using happly

end

/-- A subscription right after its creation, with no request. -/
def UsageState.created (loc : Location) (plan : SubscriptionPlan) (userId : Int) (source : String)
    (start endUnix : Int) (prevGroup : String) : UsageState where
  sub := UserSubscription.fromPlan loc userId plan source start endUnix prevGroup
  requests := []
  lateTaken := 0
  kept := 0

/-- In every interleaving of requests and resets, the used amount is the charges of the requests
pre-consumed after the last reset, less what requests of earlier periods have taken off since, plus
what the stop at zero has kept of the corrections of the period. So it is at least these charges
unless an earlier request has taken something off. -/
theorem amountUsed_covers_period (loc : Location) (plan : SubscriptionPlan) (userId : Int)
    (source : String) (start endUnix : Int) (prevGroup : String) (es : List UsageEvent) :
    let t := run (UsageState.step loc plan)
      (UsageState.created loc plan userId source start endUnix prevGroup) es
    t.sub.amountUsed = currentCharge t.requests - t.lateTaken + t.kept ∧ 0 ≤ t.kept := by
  have hstart : (UsageState.created loc plan userId source start endUnix prevGroup).Balanced :=
    ⟨rfl, le_refl 0⟩
  exact run_invariant (fun _ e h => h.step e) hstart es

/-- Request 1 takes 300, a reset follows, request 2 takes 100, request 1 is refunded and request 2
settles without a difference: its 100 have disappeared from the used amount. -/
theorem refund_after_reset_hides_usage :
    let t := run (UsageState.step Location.utc tenSecondPlan)
      (UsageState.created Location.utc tenSecondPlan 7 "order" 1000 2000 "")
      [.preConsume 1 1001 5 300 false, .preConsume 2 1012 5 100 false, .refund 1, .settle 2 0]
    t.requests.all Request.finished = true ∧ currentCharge t.requests = 100 ∧
      t.sub.amountUsed = 0 := by
  decide

end XinghaiApi
