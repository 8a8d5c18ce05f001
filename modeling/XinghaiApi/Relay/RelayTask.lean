import XinghaiApi.Relay.Helper.Price

/-!
# The price of a task

A remix takes the extra ratios of the task it is made from, and the adaptor adds those that it
estimates for the new request. The ratios of the origin are put into the price data before the first
attempt, but each attempt starts from new price data, so they do not reach the price. Once the task
is submitted the adaptor may adjust the ratios, and the price is recomputed from the one that was
charged.
-/

namespace XinghaiApi

open OtherRatios CallPriceData

/-- What the data of a task without a billing context says. -/
structure LegacyTaskData where
  seconds : Int := 0
  size : String := ""
deriving DecidableEq

def maxTaskDurationSeconds : Int := 3600

/-- The extra ratios of the task that a remix is made from. -/
def originRatios (billingContext : Option OtherRatios) (data : LegacyTaskData) : OtherRatios :=
  match billingContext with
  | some ratios => addAll ∅ ratios
  | none =>
    let seconds := if data.seconds ≤ 0 then 4 else min data.seconds maxTaskDurationSeconds
    let ratios := (addOtherRatio ∅ "seconds" seconds).addOtherRatio "size" 1
    if data.size = "1792x1024" ∨ data.size = "1024x1792"
      then ratios.addOtherRatio "size" (1666667 / 1000000) else ratios

/-- `ResolveOriginTask` for a remix, as far as the price is concerned. -/
def resolveOriginTask (billingContext : Option OtherRatios) (data : LegacyTaskData)
    (price : CallPriceData) : CallPriceData :=
  { price with
    otherRatios := addAll price.otherRatios (originRatios billingContext data) }

/-- What one attempt meets: the group in the context, what the adaptor estimates, and whether
upstream accepts the task. -/
structure TaskAttempt where
  autoGroup : Option String := none
  usingGroup : String
  estimated : OtherRatios := ∅
  accepted : Bool

structure RemixRequest where
  caller : Caller
  modelName : String
  /-- whether the model is in the list of those that extra ratios do not apply to -/
  isPatched : Bool := false

/-- The price of an attempt: its base, and the quota before and after it is made an integer. -/
structure TaskPrice where
  base : CallPriceData
  priceData : CallPriceData
  quotaWithRatios : ℚ

/-- The price data of `RelayTaskSubmit` once the estimated ratios are applied. -/
def CallPriceData.submit (isPatched : Bool) (estimated : OtherRatios) (base : CallPriceData) :
    CallPriceData :=
  let ratios := addAll base.otherRatios estimated
  { base with
    otherRatios := ratios
    quota := if isPatched then base.quota
      else (saturateQuota (ratios.applyOtherRatios base.quota) "QuotaFromFloat").1 }

/-- The part of `RelayTaskSubmit` that prices the task; the price of the request is replaced. -/
def priceTask (setting : PriceSetting) (request : RemixRequest) (attempt : TaskAttempt)
    (_ : CallPriceData) : Except PriceError TaskPrice :=
  let info := (handleGroupRatio setting.toGroupRatioSetting attempt.autoGroup
    request.caller.userGroup attempt.usingGroup).1
  match modelPriceHelperPerCall setting request.caller request.modelName info with
  | .error e => .error e
  | .ok base =>
    .ok
      { base := base
        priceData := base.submit request.isPatched attempt.estimated
        quotaWithRatios := if request.isPatched then base.quota
          else (addAll base.otherRatios attempt.estimated).applyOtherRatios base.quota }

/-- The attempts of `RelayTask` from the price data `price`; the result is the price of the one that
was accepted, with the attempt. An attempt that fails leaves its price data behind. -/
def submitTask (setting : PriceSetting) (request : RemixRequest) :
    CallPriceData → List TaskAttempt → Option (TaskAttempt × TaskPrice)
  | _, [] => none
  | price, attempt :: attempts =>
    match priceTask setting request attempt price with
    | .error _ => submitTask setting request price attempts
    | .ok p    =>
      if attempt.accepted then some (attempt, p)
      else submitTask setting request p.priceData attempts

/-- The quota of a remix as it is meant: the base quota times the ratios of the origin and of the
adaptor, of which the latter win. -/
def remixQuota (base : CallPriceData) (origin estimated : OtherRatios) : ℚ :=
  base.quota * (addAll origin estimated).otherRatioMultiplier

/-! ### Results -/

variable {setting : PriceSetting} {request : RemixRequest} {attempt : TaskAttempt}
  {price : CallPriceData} {p : TaskPrice}

/-- The quota of an attempt only has the estimated ratios in it. -/
lemma priceTask_eq_ok (hpatched : request.isPatched = false)
    (h : priceTask setting request attempt price = .ok p) :
    p.quotaWithRatios = p.base.quota * (addAll ∅ attempt.estimated).otherRatioMultiplier ∧
      p.priceData.quota = (saturateQuota p.quotaWithRatios "QuotaFromFloat").1 := by
  simp only [priceTask, hpatched, CallPriceData.submit] at h
  split at h
  · cases h
  · rename_i base hbase
    obtain rfl := Except.ok.inj h
    simp [applyOtherRatios, otherRatios_modelPriceHelperPerCall hbase]

/-- The accepted attempt has priced the task, whatever was tried before it. -/
lemma submitTask_eq_some {attempts : List TaskAttempt}
    (h : submitTask setting request price attempts = some (attempt, p)) :
    ∃ price', priceTask setting request attempt price' = .ok p := by
  induction attempts generalizing price with
  | nil => cases h
  | cons a attempts ih =>
    simp only [submitTask] at h
    split at h
    · exact ih h
    · rename_i p' hp
      split_ifs at h
      · cases h
        exact ⟨price, hp⟩
      · exact ih h

/-- A remix is charged as it is meant, up to the conversion to an integer, iff it costs nothing or
the origin has no ratio of its own, beyond those that the adaptor estimates, that changes the
price. -/
theorem remix_quota_iff (setting : PriceSetting) (request : RemixRequest)
    (billingContext : Option OtherRatios) (data : LegacyTaskData) (attempts : List TaskAttempt)
    (attempt : TaskAttempt) (p : TaskPrice) (hpatched : request.isPatched = false)
    (hsubmit : submitTask setting request (resolveOriginTask billingContext data {}) attempts =
      some (attempt, p)) :
    p.priceData.quota = (saturateQuota p.quotaWithRatios "QuotaFromFloat").1 ∧
      (p.quotaWithRatios = remixQuota p.base (originRatios billingContext data) attempt.estimated ↔
        p.base.quota = 0 ∨ (originRatios billingContext data).leftover attempt.estimated = 1) := by
  obtain ⟨price', hprice⟩ := submitTask_eq_some hsubmit
  obtain ⟨hquota, hint⟩ := priceTask_eq_ok hpatched hprice
  refine ⟨hint, ?_⟩
  have hpos := otherRatioMultiplier_pos (addAll ∅ attempt.estimated)
  rw [hquota, remixQuota, otherRatioMultiplier_addAll (originRatios billingContext data)]
  constructor
  · intro heq
    by_cases hzero : p.base.quota = 0
    · exact Or.inl hzero
    · have hbase : (p.base.quota : ℚ) ≠ 0 := by exact_mod_cast hzero
      have hcancel := mul_left_cancel₀ hbase heq
      exact Or.inr (mul_right_cancel₀ hpos.ne' (hcancel.symm.trans (one_mul _).symm))
  · rintro (hzero | hone)
    · simp [hzero]
    · rw [hone, one_mul]

/-! ### A remix of eight seconds -/

def soraSetting : PriceSetting where
  groupRatio := fun _ => some 1
  groupGroupRatio := fun _ _ => none
  modelPrice := fun _ => some (1 / 10)
  defaultModelPrice := fun _ => none
  modelRatio := fun name => (0, false, name)
  quotaPerUnit := 1000

def remixRequest : RemixRequest where
  caller := { userGroup := "default" }
  modelName := "sora-2"

/-- An attempt that upstream refuses, and one that it accepts, with what the adaptor estimates. -/
def remixAttempts (estimated : OtherRatios) : List TaskAttempt :=
  [{ usingGroup := "default", estimated := estimated, accepted := false },
    { usingGroup := "default", estimated := estimated, accepted := true }]

def eightSeconds : OtherRatios := addOtherRatio ∅ "seconds" 8

/-- A remix of a video of eight seconds. -/
def submitRemix (estimated : OtherRatios) : Option (TaskAttempt × TaskPrice) :=
  submitTask soraSetting remixRequest (resolveOriginTask (some eightSeconds) {} {})
    (remixAttempts estimated)

/-- When the adaptor estimates the seconds itself, nothing of the origin is missing. -/
theorem remix_quota_estimated :
    ∃ attempt p, submitRemix eightSeconds = some (attempt, p) ∧
      p.quotaWithRatios = remixQuota p.base (originRatios (some eightSeconds) {})
        attempt.estimated := by
  have hsome : (submitRemix eightSeconds).isSome := by
    decide +kernel
  obtain ⟨⟨attempt, p⟩, h⟩ := Option.isSome_iff_exists.mp hsome
  refine ⟨attempt, p, h, ?_⟩
  have hestimated : attempt.estimated = eightSeconds := by
    have hfirst : (submitRemix eightSeconds).map (·.1.estimated.entries) =
        some eightSeconds.entries := by
      decide +kernel
    rw [h] at hfirst
    exact AList.ext (Option.some.inj hfirst)
  refine ((remix_quota_iff soraSetting remixRequest (some eightSeconds) {}
    (remixAttempts eightSeconds) attempt p rfl h).2).mpr (Or.inr ?_)
  rw [hestimated]
  decide +kernel

/-- The adaptor estimates nothing for a remix, so eight seconds cost as much as one. -/
theorem remix_quota_without_origin :
    (submitRemix ∅).map (fun r => (r.2.priceData.quota, r.2.quotaWithRatios,
        remixQuota r.2.base (originRatios (some eightSeconds) {}) r.1.estimated)) =
      some (100, 100, 800) := by
  decide +kernel

/-! ### Ratios that are adjusted after the submission -/

/-- The quota with its clamp, if any; nothing where no new ratio is valid. It is asked for if the
adaptor returns adjusted ratios, which none of the adaptors does so far. -/
def recalcQuotaFromRatios (priceData : CallPriceData) (ratios : OtherRatios) :
    Option (Int × Option QuotaClamp) :=
  let baseQuota := priceData.otherRatios.removeOtherRatios priceData.quota
  let (replaced, ok) := ratios.replaceOtherRatios
  if ok then some (saturateQuota (replaced.applyOtherRatios baseQuota) "QuotaFromFloat") else none

lemma recalcQuotaFromRatios_eq (priceData : CallPriceData) {ratios : OtherRatios}
    (hne : ratios.entries ≠ []) (hpos : ∀ e ∈ ratios.entries, 0 < e.2) :
    recalcQuotaFromRatios priceData ratios =
      some (saturateQuota (priceData.quota / priceData.otherRatios.otherRatioMultiplier *
        ratios.product) "QuotaFromFloat") := by
  obtain ⟨e, he⟩ := List.exists_mem_of_ne_nil _ hne
  have hok : (addAll ∅ ratios).entries ≠ [] := by
    have hlookup := (addAll_empty_of_pos hpos e.1).trans (AList.mem_lookup_iff.mpr he)
    exact List.ne_nil_of_mem (AList.mem_lookup_iff.mp hlookup)
  simp [recalcQuotaFromRatios, replaceOtherRatios, hok, applyOtherRatios,
    otherRatioMultiplier_addAll_empty hpos, removeOtherRatios_eq]

/-- The recomputed quota is the base quota times the adjusted ratios, whatever these are, iff the
submission has charged exactly the base quota times the estimated ratios: for a patched model they
cost nothing or change nothing, for another one no unit was cut off. -/
theorem recalcQuotaFromRatios_iff (isPatched : Bool) (base : CallPriceData)
    (hbase : base.otherRatios = ∅) (hquota : 0 ≤ base.quota) (estimated : OtherRatios)
    (hestimated : ∀ e ∈ estimated.entries, 0 < e.2) :
    (∀ adjusted : OtherRatios, adjusted.entries ≠ [] → (∀ e ∈ adjusted.entries, 0 < e.2) →
        (recalcQuotaFromRatios (base.submit isPatched estimated) adjusted).map Prod.fst =
          some (saturateQuota (base.quota * adjusted.product) "QuotaFromFloat").1) ↔
      if isPatched then base.quota = 0 ∨ estimated.product = 1
        else ∃ n ≤ maxQuota, base.quota * estimated.product = n := by
  have hmul : (base.submit isPatched estimated).otherRatios.otherRatioMultiplier =
      estimated.product := by
    rw [submit, hbase]
    exact otherRatioMultiplier_addAll_empty hestimated
  have hpos : 0 < estimated.product :=
    hmul ▸ otherRatioMultiplier_pos _
  have hb : (0 : ℚ) ≤ base.quota := by exact_mod_cast hquota
  have hexact : ((base.submit isPatched estimated).quota : ℚ) = base.quota * estimated.product ↔
      if isPatched then base.quota = 0 ∨ estimated.product = 1
        else ∃ n ≤ maxQuota, base.quota * estimated.product = n := by
    cases isPatched with
    | true =>
      rw [eq_comm, or_comm]
      exact mul_right_eq_self₀.trans (or_congr_right Int.cast_eq_zero)
    | false =>
      rw [← saturateQuota_eq_self_iff "QuotaFromFloat" (mul_nonneg hb hpos.le)]
      simp [submit, hbase, applyOtherRatios, otherRatioMultiplier_addAll_empty hestimated]
  have hcharged : 0 ≤ (base.submit isPatched estimated).quota := by
    cases isPatched with
    | true => exact hquota
    | false =>
      exact saturateQuota_nonneg _ (mul_nonneg hb (otherRatioMultiplier_pos _).le)
  rw [← hexact, ← div_eq_iff hpos.ne']
  constructor
  · intro h
    have hdiv : (0 : ℚ) ≤ (base.submit isPatched estimated).quota / estimated.product :=
      div_nonneg (by exact_mod_cast hcharged) hpos.le
    refine eq_of_saturateQuota_mul_eq "QuotaFromFloat" hdiv hb fun a ha => ?_
    -- a single adjusted ratio may be any positive number
    have hne : (AList.singleton "" a : OtherRatios).entries ≠ [] := List.cons_ne_nil _ _
    have hsingle : ∀ e ∈ (AList.singleton "" a : OtherRatios).entries, 0 < e.2 :=
      List.forall_mem_singleton.mpr ha
    have hproduct : product (AList.singleton "" a) = a := List.prod_singleton
    have hquotas := h _ hne hsingle
    rw [recalcQuotaFromRatios_eq _ hne hsingle, hmul, hproduct] at hquotas
    exact Option.some.inj hquotas
  · intro hdiv adjusted hne hadjusted
    rw [recalcQuotaFromRatios_eq _ hne hadjusted, hmul, hdiv]
    rfl

/-- A call of 100 units, eight seconds that are estimated and four that it took. -/
theorem recalcQuotaFromRatios_fourSeconds :
    (recalcQuotaFromRatios (submit false eightSeconds { quota := 100 })
      (AList.singleton "seconds" 4)).map Prod.fst = some 400 := by
  have hconverted := (recalcQuotaFromRatios_iff false { quota := 100 } rfl (by decide) eightSeconds
    (by decide +kernel)).mpr ⟨800, by decide, by decide +kernel⟩ (AList.singleton "seconds" 4)
    (by decide) (by decide +kernel)
  exact hconverted.trans (by decide +kernel)

/-- Half of one unit is cut off, and what a patched model was not charged is taken off again: 0
instead of 1, and 100 instead of 800. -/
theorem recalcQuotaFromRatios_cut_off :
    (recalcQuotaFromRatios (submit false (AList.singleton "seconds" (1 / 2))
        { quota := 1 }) (AList.singleton "seconds" 1)).map Prod.fst = some 0 ∧
      (recalcQuotaFromRatios (submit true eightSeconds { quota := 100 })
        eightSeconds).map Prod.fst = some 100 := by
  decide +kernel

end XinghaiApi
