import XinghaiApi.Service.TaskPolling

/-!
# What polling keeps of a task

Polls write whole rows from copies in memory. These are the facts that survive this in every run,
however old the copies are: every copy and the row agree on who pays for the task, a sweep that has
not come to its copy holds one that is not finished, and only Suno tasks are saved unguarded.
-/

namespace XinghaiApi

open List

/-- What tells who pays for a task, and which of the pollers looks after it. -/
structure TaskAccount where
  platform : TaskPlatform
  userId : Int
  billingSource : String
  subscriptionId : Int
  tokenId : Int
deriving DecidableEq

def Task.account (t : Task) : TaskAccount where
  platform := t.platform
  userId := t.userId
  billingSource := t.privateData.billingSource
  subscriptionId := t.privateData.subscriptionId
  tokenId := t.privateData.tokenId

section

variable {t t' : Task}

lemma platform_eq_of_account (h : t.account = t'.account) : t.platform = t'.platform :=
  congrArg TaskAccount.platform h

lemma taskAdjustFunding_congr (h : t.account = t'.account) (delta : Int) (db : DB) :
    taskAdjustFunding t delta db = taskAdjustFunding t' delta db := by
  simp only [Task.account, TaskAccount.mk.injEq] at h
  obtain ⟨-, huser, hsource, hsub, -⟩ := h
  have hfunding : taskIsSubscription t = taskIsSubscription t' := by
    simp only [taskIsSubscription, hsource, hsub]
  rw [taskAdjustFunding, taskAdjustFunding, hfunding, huser, hsub]

lemma taskAdjustTokenQuota_congr (h : t.account = t'.account) (fails : Bool) (delta : Int)
    (db : DB) : taskAdjustTokenQuota fails t delta db = taskAdjustTokenQuota fails t' delta db := by
  have htoken : t.privateData.tokenId = t'.privateData.tokenId := congrArg TaskAccount.tokenId h
  simp only [taskAdjustTokenQuota, htoken]

end

/-! ### The writes of a poll -/

section

variable (setting : TaskSetting) (now : Int) (result : TaskInfo)

@[simp] lemma account_applyTaskResult (t : Task) :
    (applyTaskResult setting now result t).account = t.account := by
  unfold applyTaskResult
  split <;> rfl

@[simp] lemma quota_applyTaskResult (t : Task) :
    (applyTaskResult setting now result t).quota = t.quota := by
  unfold applyTaskResult
  split <;> rfl

@[simp] lemma quota_timedOutTask (t : Task) : (timedOutTask setting now t).quota = t.quota := rfl

end

/-- A failed item completes the copy that it is applied to. -/
lemma isUnfinished_applySunoItem_of_failed {item : SunoDataResponse} {t : Task}
    (h : sunoFailed item (applySunoItem item t) = true) :
    (applySunoItem item t).isUnfinished = false := by
  -- whether the item counts as failed is decided before the progress is set
  have hprogress : (applySunoItem item t).progress = "100%" := by
    exact if_pos (Or.inl h)
  simp [Task.isUnfinished, hprogress]

lemma isTerminal_of_dueBilling {t : Task} {b : TaskBilling} (h : dueBilling t = some b) :
    t.status.isTerminal = true := by
  unfold dueBilling at h
  split at h
  case h_1 hstatus => rw [hstatus]; rfl
  case h_2 hstatus => rw [hstatus]; rfl
  case h_3 => cases h

section

variable (setting : TaskSetting) (now : Int) (answer : VideoAnswer) (fails : Bool) (row t : Task)
  (t' : Task) (totalTokens : Int)

/-- A poll stops before it writes, or it writes a copy that belongs to the same account. -/
lemma updateVideoTask_cases :
    (∃ t', t'.account = t.account ∧ t'.quota = t.quota ∧
      updateVideoSingleTask setting now answer fails row t = ⟨row, t', none, 0⟩) ∨
    ∃ t' totalTokens, t'.account = t.account ∧ t'.quota = t.quota ∧
      updateVideoSingleTask setting now answer fails row t =
        writeVideoTask fails row t t' totalTokens := by
  unfold updateVideoSingleTask
  cases answer.taskResult with
  | none => exact Or.inl ⟨t, rfl, rfl, rfl⟩
  | some result =>
    let stored := { t with data := answer.body }
    simp only
    cases orFailTaskInfo answer.errorBody result with
    | none => exact Or.inl ⟨stored, rfl, rfl, rfl⟩
    | some result =>
      have haccount := account_applyTaskResult setting now result stored
      have hquota := quota_applyTaskResult setting now result stored
      simp only
      split_ifs
      · exact Or.inr ⟨_, _, haccount, hquota, rfl⟩
      · exact Or.inl ⟨_, haccount, hquota, rfl⟩

@[simp] lemma task_writeVideoTask : (writeVideoTask fails row t t' totalTokens).task = t' := by
  unfold writeVideoTask
  split_ifs <;> rfl

/-- The row is left alone, or it was in the state of the copy and becomes the new one. -/
lemma row_writeVideoTask :
    (writeVideoTask fails row t t' totalTokens).row = row ∨
      row.status = t.status ∧ (writeVideoTask fails row t t' totalTokens).row = t' := by
  unfold writeVideoTask Task.updateWithStatus
  cases fails with
  | true =>
    simp only [if_true]
    split_ifs <;> exact Or.inl rfl
  | false =>
    by_cases hstatus : row.status = t.status
    · simp only [hstatus, true_and]
      split_ifs <;> simp
    · simp only [hstatus, false_and, or_false]
      split_ifs <;> rfl

/-- From a copy that is not finished, a poll bills only if its update has found the row. -/
lemma writeVideoTask_of_not_terminal {t : Task} (ht : t.status.isTerminal = false) :
    ((writeVideoTask fails row t t' totalTokens).row = row ∧
      (writeVideoTask fails row t t' totalTokens).billing = none) ∨
    row.status = t.status ∧ (writeVideoTask fails row t t' totalTokens).row = t' ∧
      (writeVideoTask fails row t t' totalTokens).billing = dueBilling t' := by
  by_cases hdone : t'.status.isTerminal = true
  · -- the new status differs from the old one, so the billing depends on the update
    have hne : t.status ≠ t'.status := by
      intro heq
      rw [heq, hdone] at ht
      cases ht
    unfold writeVideoTask Task.updateWithStatus
    cases fails with
    | true => simp [hdone, hne]
    | false =>
      by_cases hstatus : row.status = t.status <;> simp [hdone, hne, hstatus]
  · have hdue : dueBilling t' = none := by
      cases hb : dueBilling t' with
      | none => rfl
      | some b => exact absurd (isTerminal_of_dueBilling hb) hdone
    have hbilling : (writeVideoTask fails row t t' totalTokens).billing = none := by
      unfold writeVideoTask
      simp only [hdue]
      split_ifs <;> rfl
    rcases row_writeVideoTask fails row t t' totalTokens with hrow | ⟨hstatus, hrow⟩
    · exact Or.inl ⟨hrow, hbilling⟩
    · exact Or.inr ⟨hstatus, hrow, hbilling.trans hdue.symm⟩

lemma account_updateVideoTask :
    (updateVideoSingleTask setting now answer fails row t).task.account = t.account := by
  rcases updateVideoTask_cases setting now answer fails row t with
    ⟨t', haccount, -, heq⟩ | ⟨t', totalTokens, haccount, -, heq⟩ <;> simp [heq, haccount]

lemma quota_updateVideoTask :
    (updateVideoSingleTask setting now answer fails row t).task.quota = t.quota := by
  rcases updateVideoTask_cases setting now answer fails row t with
    ⟨t', -, hquota, heq⟩ | ⟨t', totalTokens, -, hquota, heq⟩ <;> simp [heq, hquota]

lemma row_updateVideoTask :
    (updateVideoSingleTask setting now answer fails row t).row = row ∨
      row.status = t.status ∧ (updateVideoSingleTask setting now answer fails row t).row =
        (updateVideoSingleTask setting now answer fails row t).task := by
  rcases updateVideoTask_cases setting now answer fails row t with
    ⟨t', -, -, heq⟩ | ⟨t', totalTokens, -, -, heq⟩
  · simp [heq]
  · rw [heq, task_writeVideoTask]
    exact row_writeVideoTask fails row t t' totalTokens

lemma updateVideoTask_of_not_terminal {t : Task} (ht : t.status.isTerminal = false) :
    ((updateVideoSingleTask setting now answer fails row t).row = row ∧
      (updateVideoSingleTask setting now answer fails row t).billing = none) ∨
    row.status = t.status ∧
      (updateVideoSingleTask setting now answer fails row t).row =
        (updateVideoSingleTask setting now answer fails row t).task ∧
      (updateVideoSingleTask setting now answer fails row t).billing =
        dueBilling (updateVideoSingleTask setting now answer fails row t).task := by
  rcases updateVideoTask_cases setting now answer fails row t with
    ⟨t', -, -, heq⟩ | ⟨t', totalTokens, -, -, heq⟩
  · simp [heq]
  · rw [heq, task_writeVideoTask]
    exact writeVideoTask_of_not_terminal fails row t' totalTokens ht

end

namespace TaskState

variable (setting : TaskSetting)

lemma save_notMem_videoStatements (answer : VideoAnswer) (db : DB) (u : VideoUpdate) :
    .save ∉ videoStatements setting answer db u := by
  unfold videoStatements
  split
  · exact save_notMem_settleOnComplete _ _ _ _ _
  · exact (notMem_refundTaskQuota _).1
  · simp

/-- A sweep misses the row, or it fails the task that it has found; it refunds a task that has a
quota and is no legacy one. -/
lemma sweepTask_cases (i : ℕ) (now : Int) (fails : Bool) (c : TaskCall) (s : TaskState) :
    s.sweepTask setting i now fails c =
        s.write i s.row ⟨.swept, timedOutTask setting now c.task, []⟩ none ∨
      (fails = false ∧ s.row.status = c.task.status) ∧
        (c.task.isLegacy = true ∨ c.task.quota = 0) ∧
        s.sweepTask setting i now fails c = s.write i (timedOutTask setting now c.task)
          ⟨.swept, timedOutTask setting now c.task, []⟩ none ∨
      (fails = false ∧ s.row.status = c.task.status) ∧
        s.sweepTask setting i now fails c = s.write i (timedOutTask setting now c.task)
          ⟨.swept, timedOutTask setting now c.task,
            refundTaskQuota (timedOutTask setting now c.task)⟩ (some .refund) := by
  unfold sweepTask Task.updateWithStatus
  cases fails with
  | true => exact Or.inl (by simp)
  | false =>
    by_cases hstatus : s.row.status = c.task.status
    · by_cases hskip : c.task.isLegacy = true ∨ c.task.quota = 0
      · rcases hskip with hlegacy | hquota
        · simp [hstatus, hlegacy]
        · simp [hstatus, hquota]
      · rw [not_or] at hskip
        simp [hstatus, hskip]
    · exact Or.inl (by simp [hstatus])

/-! ### What every call knows -/

variable {s : TaskState} {c : TaskCall}

structure Copy (s : TaskState) (c : TaskCall) : Prop where
  account : c.task.account = s.row.account
  sweep : c.kind = .sweep → c.task.status.isTerminal = false
  save : s.row.platform ≠ .suno → .save ∉ c.pending
  quota : s.row.platform = .suno → ∀ actual, .quota actual ∉ c.pending

/-- What holds of the copies in every run. -/
def Copies (s : TaskState) : Prop := ∀ c ∈ s.calls, s.Copy c

/-- What is known of a call does not change with the row, as long as the account is the same. -/
lemma Copy.of_account {s' : TaskState} (h : s.Copy c) (hrow : s'.row.account = s.row.account) :
    s'.Copy c := by
  have hplatform : s'.row.platform = s.row.platform := platform_eq_of_account hrow
  exact ⟨h.account.trans hrow.symm, h.sweep, hplatform ▸ h.save, hplatform ▸ h.quota⟩

section

variable (hs : s.Copies)

include hs

/-- One call moves, and the row changes within its account. -/
lemma Copies.of_move {s' : TaskState} {i : ℕ} (hc : s.Copy c)
    (hrow : s'.row.account = s.row.account) (hcalls : s'.calls = s.calls.set i c) : s'.Copies := by
  intro x hx
  rw [hcalls] at hx
  exact (Pool.forall_mem_set hs hc x hx).of_account hrow

lemma Copies.load (kind : TaskCallKind) (hrow : s.row.isUnfinished = true) :
    (s.load kind).Copies := by
  have hnew : s.Copy { kind := kind, task := s.row } :=
    ⟨rfl, fun _ => Task.not_isTerminal_of_isUnfinished hrow, by simp, by simp⟩
  intro x hx
  rcases mem_append.mp hx with hx | hx
  · exact (hs x hx).of_account rfl
  · rw [mem_singleton.mp hx]
    exact hnew.of_account rfl

lemma Copies.sweepTask (setting : TaskSetting) (i : ℕ) (now : Int) (fails : Bool)
    (hc : c ∈ s.calls) :
    (s.sweepTask setting i now fails c).Copies ∧
      (s.sweepTask setting i now fails c).row.account = s.row.account := by
  let t := timedOutTask setting now c.task
  have haccount : t.account = s.row.account := (hs c hc).account
  have hidle : s.Copy ⟨.swept, t, []⟩ := ⟨haccount, nofun, by simp, by simp⟩
  have hrefund : s.Copy ⟨.swept, t, refundTaskQuota t⟩ :=
    ⟨haccount, nofun, fun _ => (notMem_refundTaskQuota t).1, fun _ => (notMem_refundTaskQuota t).2⟩
  rcases sweepTask_cases setting i now fails c s with heq | ⟨-, -, heq⟩ | ⟨-, heq⟩ <;> rw [heq]
  · exact ⟨hs.of_move hidle rfl rfl, rfl⟩
  · exact ⟨hs.of_move hidle haccount rfl, haccount⟩
  · exact ⟨hs.of_move hrefund haccount rfl, haccount⟩

lemma Copies.pollVideo (setting : TaskSetting) (i : ℕ) (now : Int) (answer : VideoAnswer)
    (fails : Bool) (hc : c ∈ s.calls) (hplatform : c.task.platform ≠ .suno) :
    (s.pollVideo setting i now answer fails c).Copies ∧
      (s.pollVideo setting i now answer fails c).row.account = s.row.account := by
  have hcopy := hs c hc
  have haccount := account_updateVideoTask setting now answer fails s.row c.task
  have hrow : (s.pollVideo setting i now answer fails c).row.account = s.row.account := by
    rcases row_updateVideoTask setting now answer fails s.row c.task with heq | ⟨-, heq⟩
    · exact congrArg Task.account heq
    · exact (congrArg Task.account heq).trans (haccount.trans hcopy.account)
  let u := updateVideoSingleTask setting now answer fails s.row c.task
  have hnew : s.Copy ⟨.poll, u.task, videoStatements setting answer s.db u⟩ := by
    refine ⟨haccount.trans hcopy.account, nofun, ?_, ?_⟩
    · exact fun _ => save_notMem_videoStatements _ _ _ _
    · intro hsuno
      rw [← platform_eq_of_account hcopy.account] at hsuno
      exact absurd hsuno hplatform
  exact ⟨hs.of_move hnew hrow rfl, hrow⟩

lemma Copies.pollSuno (i : ℕ) (item : SunoDataResponse) (hc : c ∈ s.calls)
    (hplatform : c.task.platform = .suno) : (s.pollSuno i item c).Copies := by
  have hcopy := hs c hc
  refine Copies.of_move hs (c := ⟨.poll, applySunoItem item c.task, _⟩)
    ⟨hcopy.account, nofun, ?_, ?_⟩ rfl rfl
  · intro hother
    rw [← platform_eq_of_account hcopy.account] at hother
    exact absurd hplatform hother
  · intro _ actual hmem
    rcases mem_append.mp hmem with hmem | hmem
    · split_ifs at hmem
      · exact (notMem_refundTaskQuota _).2 actual hmem
      · cases hmem
    · simp at hmem

/-- Making a statement, whatever it is, leaves a call with fewer statements. -/
lemma Copies.execute (fails : Bool) {i : ℕ} (hc : s.calls[i]? = some c) :
    (s.execute fails i c).Copies ∧ (s.execute fails i c).row.account = s.row.account := by
  have hcopy := hs c (mem_of_getElem? hc)
  have hless : ∀ t : Task, t.account = c.task.account → t.status = c.task.status →
      ∀ rest, rest ⊆ c.pending → s.Copy ⟨c.kind, t, rest⟩ := by
    intro t haccount hstatus rest hsub
    refine ⟨haccount.trans hcopy.account, ?_, ?_, ?_⟩
    · exact fun hkind => (congrArg _ hstatus).trans (hcopy.sweep hkind)
    · exact fun hother hmem => hcopy.save hother (hsub hmem)
    · exact fun hsuno actual hmem => hcopy.quota hsuno actual (hsub hmem)
  have htail : ∀ {x rest}, c.pending = x :: rest → rest ⊆ c.pending := by
    intro x rest hpending
    rw [hpending]
    exact subset_cons_self x rest
  apply execute_cases (P := fun s' => s'.Copies ∧ s'.row.account = s.row.account)
  case none => exact fun _ => ⟨hs, rfl⟩
  case unfunded =>
    intro delta rest error hpending _
    have hdrop : rest.filter (!·.isBilling) ⊆ c.pending :=
      List.Subset.trans (filter_subset_self rest) (htail hpending)
    exact ⟨hs.of_move (hless c.task rfl rfl _ hdrop) rfl rfl, rfl⟩
  case funded =>
    intro delta rest db' hpending _
    exact ⟨hs.of_move (hless c.task rfl rfl _ (htail hpending)) rfl rfl, rfl⟩
  case token =>
    intro delta rest hpending
    exact ⟨hs.of_move (hless c.task rfl rfl _ (htail hpending)) rfl rfl, rfl⟩
  case quota =>
    intro actual rest hpending
    have hrow : (if fails then s.row else { s.row with quota := actual }).account =
        s.row.account := by
      split_ifs <;> rfl
    have hnew := hless { c.task with quota := actual } rfl rfl _ (htail hpending)
    exact ⟨hs.of_move hnew hrow rfl, hrow⟩
  case save =>
    intro rest hpending
    have hrow : (if fails then s.row else c.task).account = s.row.account := by
      split_ifs
      · rfl
      · exact hcopy.account
    exact ⟨hs.of_move (hless c.task rfl rfl _ (htail hpending)) hrow rfl, hrow⟩

theorem Copies.step (setting : TaskSetting) (e : TaskEvent) :
    (step setting s e).Copies ∧ (step setting s e).row.account = s.row.account := by
  apply step_cases (P := fun s' => s'.Copies ∧ s'.row.account = s.row.account)
  case same => exact ⟨hs, rfl⟩
  case load => exact fun kind hrow => ⟨hs.load kind hrow, rfl⟩
  case timeOut =>
    intro i now fails c _ hc
    exact hs.sweepTask setting i now fails (mem_of_ready hc)
  case missingId => exact fun i fails _ => ⟨fun c hc => (hs c hc).of_account rfl, rfl⟩
  case missingChannel =>
    exact fun i fails reason _ => ⟨fun c hc => (hs c hc).of_account rfl, rfl⟩
  case video =>
    intro i now answer fails c _ hc hplatform
    have hmem := mem_of_ready hc
    exact hs.pollVideo setting i now answer fails hmem hplatform
  case suno =>
    intro i item c _ hc hplatform _
    have hmem := mem_of_ready hc
    exact ⟨hs.pollSuno i item hmem hplatform, rfl⟩
  case statement => exact fun i fails c _ hc => hs.execute fails hc
  case stop =>
    intro i c _ hc
    have hcopy := hs c (mem_of_getElem? hc)
    have hnew : s.Copy { c with pending := [] } :=
      ⟨hcopy.account, hcopy.sweep, by simp, by simp⟩
    exact ⟨hs.of_move hnew rfl rfl, rfl⟩

end

end TaskState

end XinghaiApi
