import XinghaiApi.Service.Quota
import XinghaiApi.Service.TaskLedger

/-!
# Submission of a task

A task that upstream has accepted is settled to its final quota and then stored with that quota,
whatever became of the settlement. Refunds go by the stored quota, so they can give back more than
was taken when the settlement has failed.
-/

namespace XinghaiApi

open Machine List

/-! ### The submission -/

structure TaskRequest where
  requestId : String
  userId : Int
  tokenId : Int
  tokenUnlimited : Bool := false
  isPlayground : Bool := false
  usingGroup : String := ""
  billingPreference : String := ""
deriving DecidableEq

def TaskRequest.relayInfo (r : TaskRequest) : RelayInfo :=
  { requestId := r.requestId
    userId := r.userId
    tokenId := r.tokenId
    tokenUnlimited := r.tokenUnlimited
    isPlayground := r.isPlayground
    usingGroup := r.usingGroup
    billingPreference := r.billingPreference }

/-- What the accepted attempt of `RelayTaskSubmit` returns, and what the attempts have priced. -/
structure TaskSubmission where
  request : TaskRequest
  env : SessionEnv
  /-- the quota of the first attempt on a model that is not free, if there was one -/
  preConsume : Option Int
  clamp : Option QuotaClamp := none
  /-- the quota of the result, after the adaptor has adjusted it -/
  quota : Int
  /-- the updates of the settlement that fail -/
  faults : Faults := {}
  platform : TaskPlatform
  upstreamTaskId : String
  publicTaskId : String
  channelId : Int
  now : Int
  billingContext : TaskBillingContext
  taskData : String := ""

/-- The advance is forced, and taken at the first attempt only. -/
def openTaskBilling (sub : TaskSubmission) (db : DB) : DB × Except APIError Billing :=
  match sub.preConsume with
  | none       => (db, .ok (.skipped sub.request.relayInfo))
  | some quota =>
    match preConsumeBilling sub.env { sub.request.relayInfo with forcePreConsume := true } quota
        sub.clamp db with
    | (db', .ok s)    => (db', .ok (.session s))
    | (db', .error e) => (db', .error e)

def initTask (sub : TaskSubmission) (info : RelayInfo) : Task where
  taskId := sub.publicTaskId
  platform := sub.platform
  userId := info.userId
  group := info.usingGroup
  channelId := sub.channelId
  quota := sub.quota
  status := .notStart
  submitTime := sub.now
  progress := "0%"
  originModelName := sub.billingContext.originModelName
  privateData :=
    { upstreamTaskId := sub.upstreamTaskId
      billingSource := info.billingSource
      subscriptionId := info.subscriptionId
      tokenId := info.tokenId
      billingContext := some sub.billingContext }
  data := sub.taskData

/-- The task that is stored, and the database. The error of the settlement is only logged. -/
def relayTask (sub : TaskSubmission) (db : DB) : DB × Except APIError Task :=
  match openTaskBilling sub db with
  | (db₁, .error e)    => (db₁, .error e)
  | (db₁, .ok billing) =>
    let r := settleBilling sub.faults sub.quota billing db₁
    (r.2.1, .ok (initTask sub r.1.relayInfo))

/-! ### What a submission takes -/

/-- The update of the funding source in `postConsumeQuota`. -/
def postConsumeFunding (fails : Bool) (quota : Int) (info : RelayInfo) (db : DB) :
    Except Error DB :=
  if info.billingSource = "subscription" then
    if info.subscriptionId = 0 then .error .subscriptionIdMissing
    else if quota = 0 then .ok db
    else attempt fails (postConsumeUserSubscriptionDelta info.subscriptionId quota db)
  else attempt fails (takeUserQuota info.userId quota db)

/-- Whether the update of the funding source in a settlement goes through. -/
def settlesFunding (faults : Faults) (actualQuota : Int) (billing : Billing) (db : DB) : Bool :=
  match billing with
  | .session s    => (s.funding.settle faults.funding (actualQuota - s.preConsumedQuota) db).isOk
  | .skipped info =>
    (postConsumeFunding faults.funding (actualQuota - info.finalPreConsumedQuota) info db).isOk

namespace TaskSubmission

/-- What the funding source has paid for the task when it is stored: the quota where the settlement
has reached it, the advance otherwise. -/
def charged (sub : TaskSubmission) (db : DB) : Int :=
  match openTaskBilling sub db with
  | (_, .error _)      => 0
  | (db₁, .ok billing) =>
    max (if settlesFunding sub.faults sub.quota billing db₁ then sub.quota
      else billing.preConsumed) 0

/-- The quota of the task is paid: by the advance, or because the settlement reaches the source. -/
def isCovered (sub : TaskSubmission) (db : DB) : Bool :=
  match openTaskBilling sub db with
  | (_, .error _)      => true
  | (db₁, .ok billing) =>
    decide (sub.quota ≤ billing.preConsumed) || settlesFunding sub.faults sub.quota billing db₁

/-- A task that is covered has paid its quota. -/
lemma max_quota_le_charged {sub : TaskSubmission} {db db' : DB} {task : Task}
    (hsubmit : relayTask sub db = (db', .ok task)) (hcovered : sub.isCovered db = true) :
    task.quota = sub.quota ∧ max sub.quota 0 ≤ sub.charged db := by
  simp only [relayTask] at hsubmit
  simp only [isCovered] at hcovered
  simp only [charged]
  split at hsubmit
  · cases (Prod.mk.inj hsubmit).2
  · rename_i db₁ billing hopen
    simp only [hopen, Bool.or_eq_true, decide_eq_true_eq] at hcovered ⊢
    obtain rfl := Except.ok.inj (Prod.mk.inj hsubmit).2
    refine ⟨rfl, ?_⟩
    rcases hcovered with hadvance | hsettled
    · split_ifs <;> omega
    · rw [if_pos hsettled]

end TaskSubmission

/-! ### What a billing gives back -/

/-- What a statement gives back to the funding source. -/
def TaskStatement.back : TaskStatement → Int
  | .funding delta => max (-delta) 0
  | _              => 0

/-- What a billing has given back, and has still to give back, is within the quota. -/
def WithinQuota (row : Task) (_ : TaskBilling) (due : List TaskStatement) (_ : DB)
    (taken given : Int) : Prop :=
  0 ≤ taken ∧ given + (due.map TaskStatement.back).sum ≤ max row.quota 0

lemma sum_back_nonneg (due : List TaskStatement) : 0 ≤ (due.map TaskStatement.back).sum := by
  refine sum_nonneg (forall_mem_map.mpr fun x _ => ?_)
  cases x <;> simp [TaskStatement.back]

lemma billingRule_withinQuota (row : Task) (db : DB) :
    BillingRule row db false (WithinQuota row) where
  refund := by
    refine ⟨le_rfl, ?_⟩
    simp only [refundTaskQuota]
    split_ifs with hquota
    · simp
    · simp [TaskStatement.back]
  settle := by
    rintro due (rfl | ⟨actual, hpos, rfl⟩)
    · exact ⟨le_rfl, by simp⟩
    · refine ⟨le_rfl, ?_⟩
      simp only [map_cons, map_nil, sum_cons, sum_nil, TaskStatement.back]
      omega
  funding := by
    rintro b delta due x x' taken given ⟨htaken, hsum⟩ -
    simp only [map_cons, sum_cons, TaskStatement.back] at hsum
    exact ⟨by omega, by omega⟩
  token := by
    rintro b delta due x fails taken given - ⟨htaken, hsum⟩
    simp only [map_cons, sum_cons, TaskStatement.back] at hsum
    exact ⟨htaken, by omega⟩
  quota := by
    rintro b actual due x taken given ⟨htaken, hsum⟩
    simp only [map_cons, sum_cons, TaskStatement.back] at hsum
    exact ⟨htaken, by omega⟩
  dropped := by
    rintro b due x taken given - ⟨htaken, hsum⟩
    have hback := sum_back_nonneg due
    exact ⟨htaken, by simp; omega⟩

namespace TaskState

/-- What polling gives back is within the quota of the task. -/
lemma Ledger.given_le {row : Task} {db : DB} {s : TaskState}
    (h : s.Ledger row db (WithinQuota row)) : 0 ≤ s.taken ∧ s.given ≤ max row.quota 0 := by
  rcases h.phase with hopen | ⟨b, -, i, c, -, ⟨htaken, hsum⟩, -⟩
  · rw [hopen.taken, hopen.given]
    exact ⟨le_rfl, le_max_right _ _⟩
  · have hback := sum_back_nonneg c.due
    exact ⟨htaken, by omega⟩

/-- Refunds and recalculations give back at most what was taken for the task, in every run in order
of the polling of a task whose quota was covered when it was stored. -/
theorem task_refunds_le_charges (setting : TaskSetting) (sub : TaskSubmission) (db db' : DB)
    (task : Task) (hsubmit : relayTask sub db = (db', .ok task))
    (hcovered : sub.isCovered db = true) (es : List TaskEvent)
    (hes : Machine.Along (step setting) Orderly (start task db') es) :
    (run (step setting) (start task db') es).given ≤
      sub.charged db + (run (step setting) (start task db') es).taken := by
  have hinv : ∀ s e, s.Ledger task db' (WithinQuota task) → s.Orderly e →
      (step setting s e).Ledger task db' (WithinQuota task) :=
    fun s e hs hok => hs.step (billingRule_withinQuota task db') setting hok nofun
  obtain ⟨htaken, hgiven⟩ := (hes.invariant hinv (ledger_start task db' _)).given_le
  obtain ⟨hquota, hcharged⟩ := TaskSubmission.max_quota_le_charged hsubmit hcovered
  omega

/-- A submission that takes 100 in advance and ends with 150. -/
def adjustedSubmission (faults : Faults) : TaskSubmission where
  request := { requestId := "r", userId := 1, tokenId := 1, billingPreference := "wallet_only" }
  env := walletEnv
  preConsume := some 100
  quota := 150
  faults := faults
  platform := .video "sora"
  upstreamTaskId := "17"
  publicTaskId := "task_a"
  channelId := 3
  now := 1800000000
  billingContext :=
    { modelPrice := 0, groupRatio := 1, modelRatio := 1, originModelName := "sora-2"
      perCallBilling := true }

def adjustedTask : Task := initTask (adjustedSubmission {}) walletSession.relayInfo

def failedPollOf (task : Task) (db : DB) : TaskState :=
  run (step hourlySetting) (start task db)
    [.poll, .video 0 1800000100 failedAnswer false, .statement 0 false]

/-- The settlement takes 50 more, and the task that fails gets 150 back. -/
theorem task_refunds_le_charges_adjusted :
    (failedPollOf adjustedTask (relayTask (adjustedSubmission {}) walletDB).1).given ≤
      (adjustedSubmission {}).charged walletDB +
        (failedPollOf adjustedTask (relayTask (adjustedSubmission {}) walletDB).1).taken :=
  task_refunds_le_charges hourlySetting (adjustedSubmission {}) walletDB
    (relayTask (adjustedSubmission {}) walletDB).1 adjustedTask (by rfl) (by decide +kernel) _
    (by decide +kernel)

/-- The settlement fails to take 50 more, but the task is stored with 150 and gets 150 back when it
fails. -/
theorem task_refund_exceeds_charge :
    (relayTask (adjustedSubmission { funding := true }) walletDB).2.toOption.map Task.quota =
        some 150 ∧
      (adjustedSubmission { funding := true }).charged walletDB = 100 ∧
      ((relayTask (adjustedSubmission { funding := true }) walletDB).2.toOption.map fun task =>
        let s := failedPollOf task (relayTask (adjustedSubmission { funding := true }) walletDB).1
        (s.given, s.taken)) = some (150, 0) := by
  decide +kernel

end TaskState

end XinghaiApi
