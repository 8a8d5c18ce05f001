import Mathlib.Algebra.Order.Floor.Ring
import Mathlib.Data.Rat.Floor
import Mathlib.Tactic.Linarith

/-!
# The token bucket in Redis

The script refills the bucket by whole seconds of the server's clock, so that a call just after the
turn of a second finds the tokens of a whole second more.
-/

namespace XinghaiApi

structure TokenBucket where
  tokens   : ℤ
  lastTime : ℤ
deriving DecidableEq

namespace TokenBucket

/-- The options of a limiter. -/
structure Config where
  capacity  : ℕ
  rate      : ℕ
  requested : ℕ

variable (config : Config)

/-- The tokens there are at a time, before the request is judged. -/
def refilled (nowInSeconds : ℤ) : Option TokenBucket → ℤ
  | none        => config.capacity
  | some bucket =>
    min config.capacity (bucket.tokens + (nowInSeconds - bucket.lastTime) * config.rate)

/-- One call of the script at a time of the server: the bucket it stores and its answer. -/
def allow (now : ℚ) (bucket : Option TokenBucket) : TokenBucket × Bool :=
  let nowInSeconds := ⌊now⌋
  let tokens := refilled config nowInSeconds bucket
  if tokens ≥ config.requested then (⟨tokens - config.requested, nowInSeconds⟩, true)
  else (⟨tokens, nowInSeconds⟩, false)

/-- The bucket that a sequence of calls leaves. -/
def bucketAfter (calls : List ℚ) : Option TokenBucket :=
  calls.foldl (fun bucket now => some (allow config now bucket).1) none

/-- How many calls of a sequence are admitted. -/
def admitted (bucket : Option TokenBucket) : List ℚ → ℕ
  | []           => 0
  | now :: calls =>
    let (next, allowed) := allow config now bucket
    (if allowed then 1 else 0) + admitted (some next) calls

/-- The calls come in order and after the one that stored the bucket. -/
structure Ready (bucket : Option TokenBucket) (calls : List ℚ) : Prop where
  sorted : calls.Pairwise (· ≤ ·)
  later  : ∀ b ∈ bucket, ∀ now ∈ calls, b.lastTime ≤ ⌊now⌋
  bounds : ∀ b ∈ bucket, 0 ≤ b.tokens ∧ b.tokens ≤ config.capacity

section

variable {config} {now : ℚ} {bucket : Option TokenBucket} {calls : List ℚ}

variable (config now bucket) in
lemma allow_cases :
    (allow config now bucket).1.lastTime = ⌊now⌋ ∧
      ((allow config now bucket).2 = true ∧ config.requested ≤ refilled config ⌊now⌋ bucket ∧
          (allow config now bucket).1.tokens = refilled config ⌊now⌋ bucket - config.requested ∨
        (allow config now bucket).2 = false ∧
          (allow config now bucket).1.tokens = refilled config ⌊now⌋ bucket) := by
  unfold allow
  by_cases h : refilled config ⌊now⌋ bucket ≥ config.requested <;> simp [h]

lemma refilled_le_capacity (time : ℤ) : refilled config time bucket ≤ config.capacity := by
  cases bucket with
  | none => exact le_rfl
  | some bucket => exact min_le_left _ _

/-- What flows into a bucket later does not overdraw it. -/
lemma Ready.nonneg_add {b : TokenBucket} (h : Ready config (some b) calls) {time : ℤ}
    (htime : b.lastTime ≤ time) : 0 ≤ b.tokens + (time - b.lastTime) * config.rate :=
  add_nonneg (h.bounds b rfl).1 (mul_nonneg (sub_nonneg.mpr htime) (Int.natCast_nonneg _))

lemma Ready.next (h : Ready config bucket (now :: calls)) :
    Ready config (some (allow config now bucket).1) calls := by
  obtain ⟨hnow, hsorted⟩ := List.pairwise_cons.mp h.sorted
  obtain ⟨htime, hcases⟩ := allow_cases config now bucket
  refine ⟨hsorted, ?_, ?_⟩
  · rintro b ⟨⟩ x hx
    rw [htime]
    exact Int.floor_mono (hnow x hx)
  · rintro b ⟨⟩
    have hle : refilled config ⌊now⌋ bucket ≤ config.capacity := refilled_le_capacity _
    have hnonneg : 0 ≤ refilled config ⌊now⌋ bucket := by
      cases bucket with
      | none => exact Int.natCast_nonneg _
      | some b =>
        exact le_min (Int.natCast_nonneg _) (h.nonneg_add (h.later b rfl now List.mem_cons_self))
    omega

lemma ready_bucketAfter {before : List ℚ} (h : (before ++ calls).Pairwise (· ≤ ·)) :
    Ready config (bucketAfter config before) calls := by
  have hrun : ∀ bucket, Ready config bucket (before ++ calls) → Ready config
      (before.foldl (fun bucket now => some (allow config now bucket).1) bucket) calls := by
    clear h
    induction before with
    | nil => exact fun _ h => h
    | cons now before ih => exact fun bucket h => ih _ h.next
  exact hrun none ⟨h, by simp, by simp⟩

/-! ### Calls within an interval -/

/-- A call that is admitted is paid from the bucket. -/
lemma requested_mul_admitted_cons : (config.requested : ℤ) * admitted config bucket (now :: calls) =
    refilled config ⌊now⌋ bucket - (allow config now bucket).1.tokens +
      config.requested * admitted config (some (allow config now bucket).1) calls := by
  rw [admitted, Nat.cast_add, mul_add]
  obtain ⟨hallowed, -, htokens⟩ | ⟨hallowed, htokens⟩ := (allow_cases config now bucket).2
  · simp [hallowed, htokens]
  · simp [hallowed, htokens]

/-- What is admitted up to `u` is paid from the bucket and from what flows into it until then. -/
lemma Ready.requested_mul_admitted_le {b : TokenBucket} {u : ℚ} (h : Ready config (some b) calls)
    (hb : b.lastTime ≤ ⌊u⌋) (hu : ∀ now ∈ calls, now ≤ u) :
    (config.requested : ℤ) * admitted config (some b) calls ≤
      b.tokens + (⌊u⌋ - b.lastTime) * config.rate := by
  induction calls generalizing b with
  | nil => simpa [admitted] using h.nonneg_add hb
  | cons now calls ih =>
    obtain ⟨hnow, hcalls⟩ := List.forall_mem_cons.mp hu
    have htime := (allow_cases config now (some b)).1
    have hrest := ih h.next (htime ▸ Int.floor_mono hnow) hcalls
    have hrefilled : refilled config ⌊now⌋ (some b) ≤
        b.tokens + (⌊now⌋ - b.lastTime) * config.rate := min_le_right _ _
    rw [requested_mul_admitted_cons]
    rw [htime] at hrest
    linarith

/-- From `t` to `t + T` the clock counts at most `T` seconds, rounded up. -/
lemma Ready.requested_mul_admitted_le_capacity {t T : ℚ} (h : Ready config bucket calls)
    (hT : 0 ≤ T) (hcalls : ∀ now ∈ calls, t ≤ now ∧ now ≤ t + T) :
    (config.requested : ℤ) * admitted config bucket calls ≤
      config.capacity + config.rate * ⌈T⌉ := by
  cases calls with
  | nil =>
    rw [admitted, Nat.cast_zero, mul_zero]
    exact add_nonneg (Int.natCast_nonneg _) (mul_nonneg (Int.natCast_nonneg _) (Int.ceil_nonneg hT))
  | cons now calls =>
    obtain ⟨⟨hle, hnow⟩, hcalls⟩ := List.forall_mem_cons.mp hcalls
    have htime := (allow_cases config now bucket).1
    have hrest := h.next.requested_mul_admitted_le (htime ▸ Int.floor_mono hnow)
      fun x hx => (hcalls x hx).2
    have hcapacity : refilled config ⌊now⌋ bucket ≤ config.capacity := refilled_le_capacity _
    have hseconds : ⌊t + T⌋ - ⌊now⌋ ≤ ⌈T⌉ := by
      rw [sub_le_iff_le_add', ← Int.floor_add_intCast]
      exact Int.floor_mono (add_le_add hle (Int.le_ceil T))
    have hflow := mul_le_mul_of_nonneg_right hseconds (Int.natCast_nonneg config.rate)
    rw [requested_mul_admitted_cons]
    rw [htime] at hrest
    linarith

end

/-- The bucket stays within its bounds, and of the calls from `t` to `t + T` no more are admitted
than a full bucket pays for together with what flows into it in `T` seconds, rounded up. -/
theorem admitted_le {config : Config} (hrequested : 0 < config.requested) {before calls : List ℚ}
    (hsorted : (before ++ calls).Pairwise (· ≤ ·)) {t T : ℚ} (hT : 0 ≤ T)
    (hcalls : ∀ now ∈ calls, t ≤ now ∧ now ≤ t + T) :
    (∀ b ∈ bucketAfter config (before ++ calls), 0 ≤ b.tokens ∧ b.tokens ≤ config.capacity) ∧
      admitted config (bucketAfter config before) calls ≤
        (config.capacity + config.rate * ⌈T⌉) / config.requested := by
  have hend : Ready config (bucketAfter config (before ++ calls)) [] :=
    ready_bucketAfter (by simpa using hsorted)
  refine ⟨hend.bounds, ?_⟩
  rw [Int.le_ediv_iff_mul_le (by exact_mod_cast hrequested), mul_comm]
  exact (ready_bucketAfter hsorted).requested_mul_admitted_le_capacity hT hcalls

theorem admitted_le_two_seconds :
    admitted ⟨4, 2, 1⟩ (bucketAfter ⟨4, 2, 1⟩ [0]) [1 / 2, 1, 2] ≤
      ((4 : ℕ) + (2 : ℕ) * ⌈(2 : ℚ)⌉) / (1 : ℕ) :=
  (@admitted_le ⟨4, 2, 1⟩ (by decide) [0] [1 / 2, 1, 2] (by norm_num) (1 / 2) 2 (by norm_num)
    (by norm_num)).2

/-- At the turn of a second two calls are admitted within a tenth of one. -/
theorem admitted_at_turn_of_second :
    ¬ (admitted ⟨1, 1, 1⟩ (bucketAfter ⟨1, 1, 1⟩ []) [9 / 10, 9 / 10 + 1 / 10] : ℤ) ≤
      ⌊((1 : ℚ) + 1 * (1 / 10)) / 1⌋ := by
  decide +kernel

/-- A call is admitted once the bucket had time to refill, whatever calls came before. -/
theorem allow_after_wait {config : Config} (hcapacity : config.requested ≤ config.capacity)
    {before : List ℚ} {t : ℚ} (hsorted : before.Pairwise (· ≤ ·)) (ht : ∀ now ∈ before, now ≤ t)
    {wait : ℕ} (hwait : config.requested ≤ wait * config.rate) :
    (allow config (t + wait) (bucketAfter config before)).2 = true := by
  have hready : Ready config (bucketAfter config before) [t] :=
    ready_bucketAfter (by simpa [List.pairwise_append] using ⟨hsorted, ht⟩)
  have henough : config.requested ≤ refilled config ⌊t + wait⌋ (bucketAfter config before) := by
    cases hb : bucketAfter config before with
    | none => exact Int.ofNat_le.mpr hcapacity
    | some b =>
      have hlater := hready.later b hb t (by simp)
      have htokens := (hready.bounds b hb).1
      refine le_min (Int.ofNat_le.mpr hcapacity) ?_
      have hseconds : (wait : ℤ) ≤ ⌊t + wait⌋ - b.lastTime := by
        rw [Int.floor_add_natCast]
        omega
      have hflow := mul_le_mul_of_nonneg_right hseconds (Int.natCast_nonneg config.rate)
      have : (config.requested : ℤ) ≤ wait * config.rate := mod_cast hwait
      linarith
  simp only [allow, ge_iff_le, if_pos henough]

theorem allow_after_wait_two_seconds :
    (allow ⟨4, 2, 3⟩ (1 / 2 + (2 : ℕ)) (bucketAfter ⟨4, 2, 3⟩ [0, 0, 1 / 2])).2 = true :=
  allow_after_wait (by decide) (by norm_num) (by norm_num) (by decide)

end TokenBucket

end XinghaiApi
