import XinghaiApi.Model.ChannelQuota

/-!
# What requests add to the used quota of channels

The text, audio, realtime and task paths each add what a request costs to the used quota of its
channel. The text path does not pass by the cache, so a channel with a limit is found to have used
less than it has. Requests come one after the other; the jobs on Redis and the flushes of batched
updates run between them.
-/

namespace XinghaiApi

open Machine Pending BatchState QuotaTables Table

namespace ChannelQuotaState

/-- What the deployment and the settings fix. -/
structure Env where
  unmarshal : String → Option (List String)
  formatQuota : ℤ → String
  batchUpdateEnabled : Bool

section

variable (env : Env)

def postTextConsumeQuota (userId channelId totalTokens quota : ℤ) (s : ChannelQuotaState) :
    ChannelQuotaState :=
  if totalTokens = 0 then s
  else
    (s.updateUserUsedQuotaAndRequestCount env.batchUpdateEnabled userId
      quota).updateChannelUsedQuota env.batchUpdateEnabled channelId quota

/-- The part of a request that the audio, the realtime and the task path share. -/
def consume (now userId channelId quota : ℤ) (s : ChannelQuotaState) : ChannelQuotaState :=
  ((s.updateUserUsedQuotaAndRequestCount env.batchUpdateEnabled userId
    quota).increaseChannelUsedQuota env.batchUpdateEnabled channelId
    quota).checkAndDisableChannelOnQuotaExceeded env.unmarshal env.formatQuota now channelId

section

variable (now userId channelId totalTokens quota : ℤ) (s : ChannelQuotaState)

def postAudioConsumeQuota : ChannelQuotaState :=
  if totalTokens = 0 then
    s.checkAndDisableChannelOnQuotaExceeded env.unmarshal env.formatQuota now channelId
  else s.consume env now userId channelId quota

def postWssConsumeQuota : ChannelQuotaState :=
  s.postAudioConsumeQuota env now userId channelId totalTokens quota

end

def logTaskConsumption (now userId channelId quota : ℤ) (s : ChannelQuotaState) :
    ChannelQuotaState :=
  s.consume env now userId channelId quota

/-- The part of `RecalculateTaskQuota` on channels; the adjustment of the funding may fail. -/
def recalculateTaskQuota (now userId channelId preConsumedQuota actualQuota : ℤ)
    (fundingFails : Bool) (s : ChannelQuotaState) : ChannelQuotaState :=
  let quotaDelta := actualQuota - preConsumedQuota
  if actualQuota ≤ 0 ∨ quotaDelta = 0 ∨ fundingFails then s
  else if 0 < quotaDelta then s.consume env now userId channelId quotaDelta
  else
    (s.decreaseChannelUsedQuota env.batchUpdateEnabled channelId
      (-quotaDelta)).checkAndDisableChannelOnQuotaExceeded env.unmarshal env.formatQuota now
      channelId

end

inductive UsageEvent where
  | text (userId channelId totalTokens quota : ℤ)
  | audio (now userId channelId totalTokens quota : ℤ)
  | realtime (now userId channelId totalTokens quota : ℤ)
  | task (now userId channelId quota : ℤ)
  | recalculate (now userId channelId preConsumedQuota actualQuota : ℤ) (fundingFails : Bool)
  /-- the `i`-th job on Redis ends -/
  | job (i : ℕ)
  | batchUpdate
  | nextFlush (i : ℕ) (key : ℤ)
deriving DecidableEq

def step (env : Env) (s : ChannelQuotaState) : UsageEvent → ChannelQuotaState
  | .text userId channelId totalTokens quota =>
    s.postTextConsumeQuota env userId channelId totalTokens quota
  | .audio now userId channelId totalTokens quota =>
    s.postAudioConsumeQuota env now userId channelId totalTokens quota
  | .realtime now userId channelId totalTokens quota =>
    s.postWssConsumeQuota env now userId channelId totalTokens quota
  | .task now userId channelId quota => s.logTaskConsumption env now userId channelId quota
  | .recalculate now userId channelId preConsumedQuota actualQuota fundingFails =>
    s.recalculateTaskQuota env now userId channelId preConsumedQuota actualQuota fundingFails
  | .job i =>
    match s.jobs[i]? with
    | none     => s
    | some job => { s.runJob job with jobs := s.jobs.eraseIdx i }
  | .batchUpdate => { s with batch := s.batch.step .batchUpdate }
  | .nextFlush i key => { s with batch := s.batch.step (.next i key) }

/-! ### The agreement of the cache with the database -/

def CacheJob.adds (channelId : ℤ) : CacheJob → ℤ
  | .incr id delta => if channelId = id then delta else 0
  | .populate _ _ _ => 0

section

variable (channelId : ℤ) (s : ChannelQuotaState)

/-- The limit of a channel, and its used quota with what is recorded for it and not yet written. -/
def trueQuota : Option (ℤ × ℤ) :=
  (s.batch.view.channels.find channelId).map fun c => (c.quotaLimit, c.usedQuota)

/-- The cached limit and used quota of a channel, with what the jobs still have to add. -/
def cachedQuota : Option (ℤ × ℤ) :=
  (s.redis channelId).map fun cache =>
    (cache.quotaLimit, cache.usedQuota + inFlight (CacheJob.adds channelId) s.jobs)

/-- The cache says what is used. -/
def Agrees : Prop :=
  s.cachedQuota channelId = s.trueQuota channelId

end

/-- The entry of the channel is there and will not be written anew. -/
structure Ready (k : ℤ) (s : ChannelQuotaState) : Prop where
  wf : s.batch.Wf
  populated : (s.redis k).isSome = true
  kept : ∀ quotaLimit usedQuota, CacheJob.populate k quotaLimit usedQuota ∉ s.jobs

/-- A text request to the channel costs nothing. -/
def PassesCache (channelId : ℤ) : UsageEvent → Prop
  | .text _ id totalTokens quota => id = channelId → totalTokens = 0 ∨ quota = 0
  | _ => True

instance (channelId : ℤ) : ∀ e, Decidable (PassesCache channelId e)
  | .text _ id _ _ => inferInstanceAs (Decidable (id = channelId → _ ∨ _))
  | .audio _ _ _ _ _ => .isTrue trivial
  | .realtime _ _ _ _ _ => .isTrue trivial
  | .task _ _ _ _ => .isTrue trivial
  | .recalculate _ _ _ _ _ _ => .isTrue trivial
  | .job _ => .isTrue trivial
  | .batchUpdate => .isTrue trivial
  | .nextFlush _ _ => .isTrue trivial

/-! ### What the parts of a request add -/

/-- From `s` to `s'` the used quota of the channel grows by `a`, and the cached one by `b`. -/
structure Adds (k a b : ℤ) (s s' : ChannelQuotaState) : Prop where
  wf : s'.batch.Wf
  populated : (s'.redis k).isSome = true
  kept : ∀ quotaLimit usedQuota, CacheJob.populate k quotaLimit usedQuota ∉ s'.jobs
  used : s'.trueQuota k = (s.trueQuota k).map fun q => (q.1, q.2 + a)
  cached : s'.cachedQuota k = (s.cachedQuota k).map fun q => (q.1, q.2 + b)

section

variable {s s' s'' : ChannelQuotaState} {k a b a' b' id quota now channelId : ℤ}
  {batch : BatchState} (batchUpdateEnabled : Bool) {jobs : List CacheJob}

lemma Adds.ready (h : Adds k a b s s') : Ready k s' := ⟨h.wf, h.populated, h.kept⟩

/-- A part that leaves both. -/
lemma adds_of_eq (h : Ready k s') (hused : s'.trueQuota k = s.trueQuota k)
    (hcached : s'.cachedQuota k = s.cachedQuota k) : Adds k 0 0 s s' where
  wf := h.wf
  populated := h.populated
  kept := h.kept
  used := by simp [hused]
  cached := by simp [hcached]

lemma adds_self (h : Ready k s) : Adds k 0 0 s s := adds_of_eq h rfl rfl

lemma Adds.trans (h : Adds k a b s s') (h' : Adds k a' b' s' s'') :
    Adds k (a + a') (b + b') s s'' where
  wf := h'.wf
  populated := h'.populated
  kept := h'.kept
  used := by
    rw [h'.used, h.used]
    simp [Function.comp_def, add_assoc]
  cached := by
    rw [h'.cached, h.cached]
    simp [Function.comp_def, add_assoc]

lemma trueQuota_eq (k : ℤ) (s : ChannelQuotaState) :
    s.trueQuota k = (s.batch.db.channels.find k).map fun c => (c.quotaLimit,
      c.usedQuota +
        (s.batch.pending + inFlight Flush.held s.batch.flushes) .channelUsedQuota k) := by
  rw [trueQuota, view, plus, find_modifyWhere]
  cases h : s.batch.db.channels.find k with
  | none => rfl
  | some c =>
    obtain rfl : c.id = k := (find_eq_some_iff.mp h).2
    rfl

/-- A part that leaves the cache and its jobs. -/
lemma adds_of_batch (h : Ready k s) (hwf : batch.Wf)
    (hview : (batch.view.channels.find k).map (fun c => (c.quotaLimit, c.usedQuota)) =
      (s.trueQuota k).map fun q => (q.1, q.2 + a)) :
    Adds k a 0 s { s with batch := batch } where
  wf := hwf
  populated := h.populated
  kept := h.kept
  used := hview
  cached := by
    simp only [add_zero, Option.map_id']
    rfl

lemma trueQuota_plus {d : Deltas} (hview : batch.view = s.batch.view.plus d) :
    (batch.view.channels.find k).map (fun c => (c.quotaLimit, c.usedQuota)) =
      (s.trueQuota k).map fun q => (q.1, q.2 + d .channelUsedQuota k) := by
  rw [hview, plus, find_modifyWhere, trueQuota, Option.map_map]
  cases h : s.batch.view.channels.find k with
  | none => rfl
  | some c =>
    obtain rfl : c.id = k := (find_eq_some_iff.mp h).2
    rfl

/-- Records and steps of flushes. -/
lemma adds_batchStep (h : Ready k s) (e : BatchEvent) :
    Adds k (e.deltas .channelUsedQuota k) 0 s { s with batch := s.batch.step e } := by
  obtain ⟨hwf, hview⟩ := view_step h.wf e
  exact adds_of_batch h hwf (trueQuota_plus hview)

/-- Statements that are made at once. -/
lemma adds_plus (h : Ready k s) (d : Deltas) {db : QuotaTables} (hdb : db = s.batch.db.plus d) :
    Adds k (d .channelUsedQuota k) 0 s { s with batch := { s.batch with db := db } } := by
  refine adds_of_batch h h.wf (trueQuota_plus ?_)
  subst hdb
  rw [view, view, plus_plus, plus_plus]
  congr 1
  exact add_comm _ _

lemma adds_updateChannelUsedQuota (id quota : ℤ) (h : Ready k s) :
    Adds k (if k = id then quota else 0) 0 s
      (s.updateChannelUsedQuota batchUpdateEnabled id quota) := by
  have hdelta : Deltas.single .channelUsedQuota id quota .channelUsedQuota k =
      if k = id then quota else 0 := by
    simp [Deltas.single]
  rw [← hdelta]
  unfold updateChannelUsedQuota
  split_ifs
  · exact adds_batchStep h (.addNewRecord .channelUsedQuota id quota)
  · exact adds_plus h _ (updateChannelUsedQuota_eq quota)

lemma adds_updateUserUsedQuota (id quota : ℤ) (h : Ready k s) :
    Adds k 0 0 s (s.updateUserUsedQuotaAndRequestCount batchUpdateEnabled id quota) := by
  unfold updateUserUsedQuotaAndRequestCount
  split_ifs
  · have hused := adds_batchStep h (.addNewRecord .usedQuota id quota)
    exact hused.trans (adds_batchStep hused.ready (.addNewRecord .requestCount id 1))
  · exact adds_plus h _ (updateUserUsedQuota_eq id quota 1)

/-- More jobs, none of which writes the entry of the channel anew. -/
lemma adds_jobs (h : Ready k s)
    (hkept : ∀ quotaLimit usedQuota, CacheJob.populate k quotaLimit usedQuota ∉ jobs) :
    Adds k 0 (inFlight (CacheJob.adds k) jobs) s { s with jobs := s.jobs ++ jobs } where
  wf := h.wf
  populated := h.populated
  kept quotaLimit usedQuota hmem :=
    (List.mem_append.mp hmem).elim (h.kept quotaLimit usedQuota) (hkept quotaLimit usedQuota)
  used := by
    simp only [add_zero, Option.map_id']
    rfl
  cached := by
    simp [cachedQuota, Function.comp_def, add_assoc]

lemma adds_go (h : Ready k s) :
    Adds k 0 (if k = id then quota else 0) s (s.go (.incr id quota)) := by
  have hjobs : Adds k 0 (inFlight (CacheJob.adds k) [.incr id quota]) s (s.go (.incr id quota)) :=
    adds_jobs h (by simp)
  rwa [inFlight_singleton] at hjobs

lemma adds_job (h : Ready k s) {i : ℕ} {job : CacheJob} (hi : s.jobs[i]? = some job) :
    Adds k 0 0 s { s.runJob job with jobs := s.jobs.eraseIdx i } := by
  have hkept : ∀ quotaLimit usedQuota,
      CacheJob.populate k quotaLimit usedQuota ∉ s.jobs.eraseIdx i :=
    fun quotaLimit usedQuota hmem => h.kept quotaLimit usedQuota (List.mem_of_mem_eraseIdx hmem)
  have hqueue := inFlight_eraseIdx (CacheJob.adds k) hi
  cases job with
  | incr id delta =>
    by_cases hid : k = id
    · subst hid
      refine adds_of_eq ⟨h.wf, ?_, hkept⟩ rfl ?_
      · simpa [runJob, cacheIncrChannelUsedQuota] using h.populated
      · have hadds : CacheJob.adds k (.incr k delta) = delta := if_pos rfl
        simp only [cachedQuota, runJob, cacheIncrChannelUsedQuota, Function.update_self,
          Option.map_map, Function.comp_def, ← hqueue, hadds]
        congr 1
        funext cache
        rw [add_assoc, add_comm delta]
    · have hadds : CacheJob.adds k (.incr id delta) = 0 := if_neg hid
      rw [hadds, add_zero] at hqueue
      refine adds_of_eq ⟨h.wf, ?_, hkept⟩ rfl ?_
      · simpa [runJob, cacheIncrChannelUsedQuota, hid] using h.populated
      · simp [cachedQuota, runJob, cacheIncrChannelUsedQuota, hid, hqueue]
  | populate id quotaLimit usedQuota =>
    have hid : k ≠ id := by
      rintro rfl
      exact h.kept quotaLimit usedQuota (List.mem_of_getElem? hi)
    have hadds : CacheJob.adds k (.populate id quotaLimit usedQuota) = 0 := rfl
    rw [hadds, add_zero] at hqueue
    refine adds_of_eq ⟨h.wf, ?_, hkept⟩ rfl ?_
    · simpa [runJob, populateChannelQuotaCache, hid] using h.populated
    · simp [cachedQuota, runJob, populateChannelQuotaCache, hid, hqueue]

/-- Only a channel without an entry has one written. -/
lemma populate_not_mem_of_getChannelQuotaLimit (h : Ready k s) {quotaLimit usedQuota : ℤ}
    (hget : s.getChannelQuotaLimit channelId false = .ok (quotaLimit, usedQuota, jobs)) :
    inFlight (CacheJob.adds k) jobs = 0 ∧
      ∀ quotaLimit usedQuota, CacheJob.populate k quotaLimit usedQuota ∉ jobs := by
  simp only [getChannelQuotaLimit, Bool.false_eq_true, if_false] at hget
  split at hget
  · obtain ⟨-, -, rfl⟩ : _ ∧ _ ∧ [] = jobs := by simpa using Except.ok.inj hget
    simp
  next hmiss =>
    split at hget
    · cases hget
    · obtain ⟨-, -, rfl⟩ : _ ∧ _ ∧ [_] = jobs := by simpa using Except.ok.inj hget
      have hid : k ≠ channelId := by
        rintro rfl
        simpa [hmiss] using h.populated
      simp [CacheJob.adds, hid]

lemma adds_withStore (h : Ready k s) {store : ChannelStore}
    (hquotas : store.quotas k = s.store.quotas k) : Adds k 0 0 s (s.withStore store) := by
  refine adds_of_eq ⟨h.wf, h.populated, h.kept⟩ ?_ rfl
  have hadd : ∀ t : ChannelQuotaState, t.trueQuota k = (t.store.quotas k).map fun q => (q.1,
      q.2 + (t.batch.pending + inFlight Flush.held t.batch.flushes) .channelUsedQuota k) := by
    intro t
    rw [trueQuota_eq, ChannelStore.quotas, Option.map_map]
    rfl
  rw [hadd, hadd, ← hquotas]
  rfl

/-- The check leaves the used quota and its cache. -/
lemma adds_check (unmarshal : String → Option (List String)) (formatQuota : ℤ → String)
    (h : Ready k s) : Adds k 0 0 s
      (s.checkAndDisableChannelOnQuotaExceeded unmarshal formatQuota now channelId) := by
  unfold checkAndDisableChannelOnQuotaExceeded
  split
  · exact adds_self h
  next quotaLimit usedQuota jobs hget =>
    obtain ⟨hzero, hkept⟩ := populate_not_mem_of_getChannelQuotaLimit h hget
    have hjobs := adds_jobs h hkept
    rw [hzero] at hjobs
    dsimp only
    split
    · exact hjobs
    · split
      · exact hjobs
      · split
        · exact hjobs
        · exact hjobs.trans (adds_withStore hjobs.ready ChannelStore.quotas_updateChannelStatus)

/-! ### The paths -/

variable (env : Env) {userId : ℤ}

lemma adds_increaseChannelUsedQuota (channelId quota : ℤ) (h : Ready k s) :
    Adds k (if k = channelId then quota else 0) (if k = channelId then quota else 0) s
      (s.increaseChannelUsedQuota batchUpdateEnabled channelId quota) := by
  by_cases hzero : quota = 0
  · simp only [hzero, ite_self]
    exact adds_self h
  · rw [increaseChannelUsedQuota, if_neg hzero]
    have hgo : Adds k 0 (if k = channelId then quota else 0) s (s.go (.incr channelId quota)) :=
      adds_go h
    simpa using hgo.trans (adds_updateChannelUsedQuota batchUpdateEnabled channelId quota hgo.ready)

lemma decreaseChannelUsedQuota_eq :
    s.decreaseChannelUsedQuota batchUpdateEnabled channelId quota =
      s.increaseChannelUsedQuota batchUpdateEnabled channelId (-quota) := by
  simp only [decreaseChannelUsedQuota, increaseChannelUsedQuota, neg_eq_zero]

lemma adds_consume (h : Ready k s) :
    Adds k (if k = channelId then quota else 0) (if k = channelId then quota else 0) s
      (s.consume env now userId channelId quota) := by
  have huser := adds_updateUserUsedQuota env.batchUpdateEnabled userId quota h
  have hchannel := huser.trans
    (adds_increaseChannelUsedQuota env.batchUpdateEnabled channelId quota huser.ready)
  simpa [consume] using hchannel.trans (adds_check env.unmarshal env.formatQuota hchannel.ready)

/-- The text path adds nothing to the cache. -/
lemma adds_postTextConsumeQuota (userId channelId quota : ℤ) {totalTokens : ℤ} (h : Ready k s)
    (htokens : totalTokens ≠ 0) :
    Adds k (if k = channelId then quota else 0) 0 s
      (s.postTextConsumeQuota env userId channelId totalTokens quota) := by
  rw [postTextConsumeQuota, if_neg htokens]
  have huser := adds_updateUserUsedQuota env.batchUpdateEnabled userId quota h
  simpa using huser.trans
    (adds_updateChannelUsedQuota env.batchUpdateEnabled channelId quota huser.ready)

end

/-- What adds as much to the used quota as to the cache, and no other part, keeps the agreement. -/
lemma Adds.agrees_iff {k a b : ℤ} {s s' : ChannelQuotaState} (h : Adds k a b s s')
    (hready : Ready k s) (hs : s.Agrees k) : s'.Agrees k ↔ a = b := by
  obtain ⟨cache, hcache⟩ := Option.isSome_iff_exists.mp hready.populated
  rw [Agrees] at hs ⊢
  rw [h.cached, h.used, ← hs, cachedQuota, hcache]
  simp [eq_comm]

/-- A step adds as much to the used quota as to the cache just in case it is not a text request to
the channel that costs. -/
lemma exists_adds_step (env : Env) {k : ℤ} {s : ChannelQuotaState} (h : Ready k s)
    (e : UsageEvent) : ∃ a b, Adds k a b s (s.step env e) ∧ (a = b ↔ PassesCache k e) := by
  have haudio : ∀ {now userId channelId totalTokens quota},
      ∃ a, Adds k a a s (s.postAudioConsumeQuota env now userId channelId totalTokens quota) := by
    intro now userId channelId totalTokens quota
    rw [postAudioConsumeQuota]
    split_ifs
    · exact ⟨0, adds_check env.unmarshal env.formatQuota h⟩
    · exact ⟨_, adds_consume env h⟩
  have hboth : ∀ {s'}, (∃ a, Adds k a a s s') → ∃ a b, Adds k a b s s' ∧ (a = b ↔ True) := by
    rintro s' ⟨a, hadds⟩
    exact ⟨a, a, hadds, iff_true_intro rfl⟩
  cases e with
  | text userId channelId totalTokens quota =>
    by_cases htokens : totalTokens = 0
    · refine ⟨0, 0, ?_, by simp [PassesCache, htokens]⟩
      rw [step, postTextConsumeQuota, if_pos htokens]
      exact adds_self h
    · refine ⟨_, _, adds_postTextConsumeQuota env userId channelId quota h htokens, ?_⟩
      simp [PassesCache, htokens, eq_comm]
  | audio now userId channelId totalTokens quota => exact hboth haudio
  | realtime now userId channelId totalTokens quota => exact hboth haudio
  | task now userId channelId quota => exact hboth ⟨_, adds_consume env h⟩
  | recalculate now userId channelId preConsumedQuota actualQuota fundingFails =>
    apply hboth
    rw [step, recalculateTaskQuota]
    split_ifs
    · exact ⟨0, adds_self h⟩
    · exact ⟨_, adds_consume env h⟩
    · rw [decreaseChannelUsedQuota_eq]
      have hadds := adds_increaseChannelUsedQuota env.batchUpdateEnabled channelId
        (- -(actualQuota - preConsumedQuota)) h
      exact ⟨_, hadds.trans (adds_check env.unmarshal env.formatQuota hadds.ready)⟩
  | job i =>
    apply hboth
    rw [step]
    split
    · exact ⟨0, adds_self h⟩
    next job hi => exact ⟨0, adds_job h hi⟩
  | batchUpdate => exact hboth ⟨0, adds_batchStep h .batchUpdate⟩
  | nextFlush i key => exact hboth ⟨0, adds_batchStep h (.next i key)⟩

/-! ### Runs -/

/-- Nothing runs in the background. -/
def Quiet (s : ChannelQuotaState) : Prop := s.jobs = [] ∧ s.batch.Idle

instance (s : ChannelQuotaState) : Decidable s.Quiet := inferInstanceAs (Decidable (_ ∧ _))

/-- What `ChannelQuotaExceeded` says from the database. -/
def exceededFromDB (channelId : ℤ) (s : ChannelQuotaState) : Bool :=
  match s.getChannelQuotaLimit channelId true with
  | .error _ => false
  | .ok (quotaLimit, usedQuota, _) => exceeds quotaLimit usedQuota

section

variable {k : ℤ} {s : ChannelQuotaState}

section

variable (h : s.Agrees k) (hs : Ready k s) (hquiet : s.Quiet)

include h hs hquiet

/-- With nothing in the background, the cached used quota is what is stored and pending. -/
lemma Agrees.redis_eq :
    (s.redis k).map (fun cache => (cache.quotaLimit, cache.usedQuota)) =
      (s.batch.db.channels.find k).map fun c =>
        (c.quotaLimit, c.usedQuota + s.batch.pending .channelUsedQuota k) := by
  obtain ⟨hjobs, hidle⟩ := hquiet
  have hcached : s.cachedQuota k =
      (s.redis k).map fun cache => (cache.quotaLimit, cache.usedQuota) := by
    simp [cachedQuota, hjobs]
  rw [← hcached, h, trueQuota, hidle.view_eq hs.wf, plus, find_modifyWhere]
  cases hc : s.batch.db.channels.find k with
  | none => rfl
  | some c =>
    obtain rfl : c.id = k := (find_eq_some_iff.mp hc).2
    rfl

/-- Then a channel is found to have reached its limit just in case it has. -/
lemma Agrees.exceeded_iff :
    (s.channelQuotaExceeded k).1 = true ↔ ∃ c ∈ s.batch.db.channels.find k,
      0 < c.quotaLimit ∧ c.quotaLimit ≤ c.usedQuota + s.batch.pending .channelUsedQuota k := by
  have hredis := h.redis_eq hs hquiet
  obtain ⟨cache, hcache⟩ := Option.isSome_iff_exists.mp hs.populated
  rw [hcache] at hredis
  obtain ⟨c, hc, heq⟩ := Option.map_eq_some_iff.mp hredis.symm
  obtain ⟨hlimit, hused⟩ := Prod.mk.inj heq
  simp [channelQuotaExceeded, getChannelQuotaLimit, hcache, hc, exceeds, hlimit, hused]

lemma Agrees.exceeded_eq_fromDB (hpending : s.batch.pending .channelUsedQuota k = 0) :
    (s.channelQuotaExceeded k).1 = s.exceededFromDB k := by
  rw [Bool.eq_iff_iff, h.exceeded_iff hs hquiet, hpending, exceededFromDB, getChannelQuotaLimit]
  cases hc : s.batch.db.channels.find k with
  | none => simp
  | some c => simp [exceeds]

end

/-- With an entry that says what is used, the cache keeps saying so in every state of a run just in
case no text request of the run costs the channel anything; `ChannelQuotaExceeded` is right then. -/
theorem cachedQuota_states_iff (env : Env) (hready : Ready k s) (hs : s.Agrees k)
    (es : List UsageEvent) :
    ((∀ t ∈ states (step env) s es, t.Agrees k) ↔ Along (step env) (fun _ => PassesCache k) s es) ∧
      (Along (step env) (fun _ => PassesCache k) s es →
        ∀ t ∈ states (step env) s es, t.Quiet →
          (t.redis k).map (fun cache => (cache.quotaLimit, cache.usedQuota)) =
              (t.batch.db.channels.find k).map (fun c =>
                (c.quotaLimit, c.usedQuota + t.batch.pending .channelUsedQuota k)) ∧
            ((t.channelQuotaExceeded k).1 = true ↔ ∃ c ∈ t.batch.db.channels.find k,
              0 < c.quotaLimit ∧ c.quotaLimit ≤ c.usedQuota + t.batch.pending .channelUsedQuota k) ∧
            (t.batch.pending .channelUsedQuota k = 0 →
              (t.channelQuotaExceeded k).1 = t.exceededFromDB k)) := by
  have hall : ∀ t ∈ states (step env) s es, Ready k t := by
    refine states_invariant (fun t e ht => ?_) hready es
    obtain ⟨a, b, hadds, -⟩ := exists_adds_step env ht e
    exact hadds.ready
  have hiff : (∀ t ∈ states (step env) s es, t.Agrees k) ↔
      Along (step env) (fun _ => PassesCache k) s es := by
    rw [← forall_states_iff_along (I := fun t => Ready k t ∧ t.Agrees k) ?_ ⟨hready, hs⟩]
    · exact ⟨fun h t ht => ⟨hall t ht, h t ht⟩, fun h t ht => (h t ht).2⟩
    · rintro t e ⟨ht, hagrees⟩
      obtain ⟨a, b, hadds, heq⟩ := exists_adds_step env ht e
      rw [and_iff_right hadds.ready, hadds.agrees_iff ht hagrees, heq]
  refine ⟨hiff, ?_⟩
  intro hpasses t ht hquiet
  have hagrees := hiff.mpr hpasses t ht
  exact ⟨hagrees.redis_eq (hall t ht) hquiet, hagrees.exceeded_iff (hall t ht) hquiet,
    hagrees.exceeded_eq_fromDB (hall t ht) hquiet⟩

end

def directEnv : Env where
  unmarshal _ := none
  formatQuota quota := toString quota
  batchUpdateEnabled := false

/-- A channel with a limit of 100, with its entry. -/
def limitedChannel : ChannelQuotaState where
  batch := init
    { oneOfEach with
      channels := empty.insert { id := 0, models := "m", group := "g", quotaLimit := 100 } }
  abilities := Keyed.empty
  memoryCache := none
  redis := fun id => if id = 1 then some ⟨100, 0⟩ else none
  jobs := []

/-- Two audio requests, each with its job. -/
def audioRun : List UsageEvent := [.audio 0 1 1 10 60, .job 0, .audio 5 1 1 10 60, .job 0]

def audioDone : ChannelQuotaState := run (step directEnv) limitedChannel audioRun

theorem cachedQuota_states_audioRun :
    (Ready 1 limitedChannel ∧ limitedChannel.Agrees 1) ∧
      Along (step directEnv) (fun _ => PassesCache 1) limitedChannel audioRun ∧ audioDone.Quiet ∧
      (audioDone.redis 1).map (fun cache => (cache.quotaLimit, cache.usedQuota)) =
        (audioDone.batch.db.channels.find 1).map fun c =>
          (c.quotaLimit, c.usedQuota + audioDone.batch.pending .channelUsedQuota 1) := by
  have hready : Ready 1 limitedChannel := ⟨wf_init _, rfl, by simp [limitedChannel]⟩
  have hagrees : limitedChannel.Agrees 1 := by
    show _ = _
    decide +kernel
  have hpasses : Along (step directEnv) (fun _ => PassesCache 1) limitedChannel audioRun := by
    decide +kernel
  have hquiet : audioDone.Quiet := by decide +kernel
  exact ⟨⟨hready, hagrees⟩, hpasses, hquiet, ((cachedQuota_states_iff directEnv hready hagrees
    audioRun).2 hpasses _ (run_mem_states _ _ _) hquiet).1⟩

def textDone : ChannelQuotaState := limitedChannel.step directEnv (.text 1 1 10 100)

/-- After a text request that reaches the limit, the channel is not found to have reached it. -/
theorem text_not_exceeded :
    Ready 1 limitedChannel ∧ limitedChannel.Agrees 1 ∧ textDone.Quiet ∧ ¬textDone.Agrees 1 ∧
      (textDone.channelQuotaExceeded 1).1 = false ∧ textDone.exceededFromDB 1 = true := by
  refine ⟨⟨wf_init _, rfl, by simp [limitedChannel]⟩, ?_, by decide +kernel, ?_,
    by decide +kernel, by decide +kernel⟩
  · show _ = _
    decide +kernel
  · show ¬_ = _
    decide +kernel

end ChannelQuotaState

end XinghaiApi
