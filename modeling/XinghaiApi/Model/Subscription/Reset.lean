import XinghaiApi.Lib.Civil
import XinghaiApi.Model.Types

/-!
# Periods and quota resets of a subscription

`calcNextResetTime` gives the next boundary of a plan's reset period, 0 when there is none
before the end of the subscription. `maybeReset` catches up with the boundaries that have passed
and zeroes the used amount when there was one; `resetUserSubscription` is the reset an
administrator asks for.
-/

namespace XinghaiApi

open Civil Text

/-! ### Durations -/

inductive DurationUnit where
  | year
  | month
  | day
  | hour
  | custom
deriving DecidableEq

def DurationUnit.parse (unit : String) : Option DurationUnit :=
  if unit = "year" then some .year
  else if unit = "month" then some .month
  else if unit = "day" then some .day
  else if unit = "hour" then some .hour
  else if unit = "custom" then some .custom
  else none

def calcSubscriptionEndTime (loc : Location) (start : Int) (durationUnit : String)
    (durationValue customSeconds : Int) : Except Error Int :=
  if durationValue ≤ 0 ∧ durationUnit ≠ "custom" then .error .durationValueNotPositive
  else
    match DurationUnit.parse durationUnit with
    | some .year   => .ok (loc.addDate start durationValue 0 0)
    | some .month  => .ok (loc.addDate start 0 durationValue 0)
    | some .day    => .ok (addSeconds start (durationValue * 86400))
    | some .hour   => .ok (addSeconds start (durationValue * 3600))
    | some .custom =>
      if customSeconds ≤ 0 then .error .customSecondsNotPositive
      else .ok (addSeconds start customSeconds)
    | none         => .error (.invalidDurationUnit durationUnit)

def calcPlanEndTime (loc : Location) (start : Int) (plan : SubscriptionPlan) : Except Error Int :=
  calcSubscriptionEndTime loc start plan.durationUnit plan.durationValue plan.customSeconds

/-! ### Reset boundaries -/

inductive ResetPeriod where
  | never
  | daily
  | weekly
  | monthly
  | custom
deriving DecidableEq

def normalizeResetPeriod (period : String) : ResetPeriod :=
  let p := trimSpace period
  if p = "daily" then .daily
  else if p = "weekly" then .weekly
  else if p = "monthly" then .monthly
  else if p = "custom" then .custom
  else .never

/-- The next boundary of the plan's period after `base`, 0 when the plan never resets or the
boundary lies after the end of the subscription. -/
def calcNextResetTime (loc : Location) (base : Int) (plan : SubscriptionPlan) (endUnix : Int) :
    Int :=
  let capped (next : Int) : Int := if 0 < endUnix ∧ endUnix < next then 0 else next
  let d := loc.civil base
  match normalizeResetPeriod plan.quotaResetPeriod with
  | .never   => 0
  | .daily   => capped (loc.addDate (loc.date d.year d.month d.day 0) 0 0 1)
  | .weekly  =>
    -- aligned to the next Monday; Sunday counts as the seventh day
    let weekday := if loc.weekday base = 0 then 7 else loc.weekday base
    capped (loc.addDate (loc.date d.year d.month d.day 0) 0 0 (8 - weekday))
  | .monthly => capped (loc.addDate (loc.date d.year d.month 1 0) 0 1 0)
  | .custom  =>
    if plan.quotaResetCustomSeconds ≤ 0 then 0
    else capped (addSeconds base plan.quotaResetCustomSeconds)

/-! ### Catching up with the boundaries that have passed -/

section

variable (loc : Location) (plan : SubscriptionPlan) (now : Int)

/-- The loop of `maybeReset`: move the base over every boundary not after `now`. Returns the
base, the boundary after it and whether the base moved, and nothing while the loop still runs. -/
def catchUp (endTime : Int) : ℕ → Int → Int → Bool → Option (Int × Int × Bool)
  | 0, base, next, advanced =>
    if 0 < next ∧ next ≤ now then none else some (base, next, advanced)
  | fuel + 1, base, next, advanced =>
    if 0 < next ∧ next ≤ now then
      catchUp endTime fuel next (calcNextResetTime loc next plan endTime) true
    else some (base, next, advanced)

/-- The time the reset boundaries of a subscription are counted from. -/
def UserSubscription.resetBase (sub : UserSubscription) : Int :=
  if sub.lastResetTime ≤ 0 then sub.startTime else sub.lastResetTime

/-- What `maybeReset` decides to save. -/
inductive ResetAction where
  | keep
  | schedule (base next : Int)
  | zero (base next : Int)
deriving DecidableEq

section

variable (sub : UserSubscription)

def ResetAction.apply : ResetAction → UserSubscription
  | .keep               => sub
  | .schedule base next => { sub with nextResetTime := next, lastResetTime := base }
  | .zero base next     =>
    { sub with amountUsed := 0, lastResetTime := base, nextResetTime := next }

@[simp] lemma ResetAction.amountUsed_keep :
    (ResetAction.keep.apply sub).amountUsed = sub.amountUsed := rfl

@[simp] lemma ResetAction.amountUsed_schedule (base next : Int) :
    ((ResetAction.schedule base next).apply sub).amountUsed = sub.amountUsed := rfl

@[simp] lemma ResetAction.amountUsed_zero (base next : Int) :
    ((ResetAction.zero base next).apply sub).amountUsed = 0 := rfl

end

def UserSubscription.resetAction (fuel : ℕ) (sub : UserSubscription) : Option ResetAction :=
  if 0 < sub.nextResetTime ∧ now < sub.nextResetTime then some .keep
  else if normalizeResetPeriod plan.quotaResetPeriod = .never then some .keep
  else
    match catchUp loc plan now sub.endTime fuel sub.resetBase
        (calcNextResetTime loc sub.resetBase plan sub.endTime) false with
    | none => none
    | some (base, next, false) =>
      if sub.nextResetTime = 0 ∧ 0 < next then some (.schedule base next) else some .keep
    | some (base, next, true) => some (.zero base next)

/-- `maybeResetUserSubscriptionWithPlanTx`: the row it saves, with `fuel` rounds of the loop. -/
def UserSubscription.maybeReset (fuel : ℕ) (sub : UserSubscription) : Option UserSubscription :=
  (sub.resetAction loc plan now fuel).map fun action => action.apply sub

/-- `resetUserSubscriptionTx`: the reset of an administrator. Without a boundary left before the
end of the subscription both reset times are cleared. -/
def UserSubscription.resetUserSubscription (advanceResetTime : Bool) (sub : UserSubscription) :
    UserSubscription :=
  let next := calcNextResetTime loc now plan sub.endTime
  if advanceResetTime then
    { sub with
      amountUsed := 0
      nextResetTime := next
      lastResetTime := if 0 < next then now else 0 }
  else { sub with amountUsed := 0 }

variable {loc plan now}

/-- What the loop ends with: a base from which the next boundary is not due. If the base moved,
the boundary it started at was due, and the base is now the last boundary that has passed. -/
lemma catchUp_spec {endTime base next base' next' : Int} {fuel : ℕ} {advanced advanced' : Bool}
    (hnext : next = calcNextResetTime loc base plan endTime)
    (h : catchUp loc plan now endTime fuel base next advanced = some (base', next', advanced')) :
    next' = calcNextResetTime loc base' plan endTime ∧ (next' ≤ 0 ∨ now < next') ∧
      ((base' = base ∧ advanced' = advanced ∧ (next ≤ 0 ∨ now < next)) ∨
        (advanced' = true ∧ 0 < next ∧ next ≤ now ∧ 0 < base' ∧ base' ≤ now)) := by
  induction fuel generalizing base next advanced with
  | zero =>
    simp only [catchUp] at h
    split_ifs at h with hdue
    cases h
    exact ⟨hnext, by omega, Or.inl ⟨rfl, rfl, by omega⟩⟩
  | succ fuel ih =>
    simp only [catchUp] at h
    split_ifs at h with hdue
    · obtain ⟨h₁, h₂, h₃⟩ := ih rfl h
      refine ⟨h₁, h₂, Or.inr ?_⟩
      rcases h₃ with ⟨rfl, rfl, -⟩ | ⟨rfl, -, -, hpos, hle⟩
      · exact ⟨rfl, hdue.1, hdue.2, hdue.1, hdue.2⟩
      · exact ⟨rfl, hdue.1, hdue.2, hpos, hle⟩
    · cases h
      exact ⟨hnext, by omega, Or.inl ⟨rfl, rfl, by omega⟩⟩

def ResetAction.Justified (loc : Location) (plan : SubscriptionPlan) (now : Int)
    (sub : UserSubscription) : ResetAction → Prop
  | .keep => True
  | .schedule base next =>
    base = sub.resetBase ∧ next = calcNextResetTime loc base plan sub.endTime ∧ now < next
  | .zero base next =>
    -- the first boundary after the recorded base is due, the one after the new base is not
    0 < calcNextResetTime loc sub.resetBase plan sub.endTime ∧
      calcNextResetTime loc sub.resetBase plan sub.endTime ≤ now ∧
      0 < base ∧ next = calcNextResetTime loc base plan sub.endTime ∧ (next ≤ 0 ∨ now < next)

lemma UserSubscription.resetAction_justified {sub : UserSubscription} {fuel : ℕ}
    {action : ResetAction} (h : sub.resetAction loc plan now fuel = some action) :
    action.Justified loc plan now sub := by
  simp only [UserSubscription.resetAction] at h
  split_ifs at h with hnot hnever
  · cases h; trivial
  · cases h; trivial
  · split at h
    · cases h
    · rename_i base next hloop
      obtain ⟨rfl, hend, hcase⟩ := catchUp_spec rfl hloop
      rcases hcase with ⟨rfl, -, -⟩ | ⟨hadv, -⟩
      · split_ifs at h with hsched
        · cases h
          exact ⟨rfl, rfl, by omega⟩
        · cases h; trivial
      · cases hadv
    · rename_i base next hloop
      obtain ⟨rfl, hend, hcase⟩ := catchUp_spec rfl hloop
      cases h
      rcases hcase with ⟨-, hadv, -⟩ | ⟨-, hpos, hle, hbase, -⟩
      · cases hadv
      · exact ⟨hpos, hle, hbase, rfl, hend⟩

end

/-- The row `CreateUserSubscriptionFromPlanTx` inserts at time `now`. -/
def UserSubscription.fromPlan (loc : Location) (userId : Int) (plan : SubscriptionPlan)
    (source : String) (now endUnix : Int) (prevGroup : String) : UserSubscription :=
  let nextReset := calcNextResetTime loc now plan endUnix
  { id := 0
    userId := userId
    planId := plan.id
    priceAmount := plan.priceAmount
    amountTotal := plan.totalAmount
    amountUsed := 0
    startTime := now
    endTime := endUnix
    status := .active
    source := source
    lastResetTime := if 0 < nextReset then now else 0
    nextResetTime := nextReset
    upgradeGroup := trimSpace plan.upgradeGroup
    prevUserGroup := prevGroup
    downgradeGroup := trimSpace plan.downgradeGroup
    allowWalletOverflow := plan.allowWalletOverflow.getD true }

end XinghaiApi
