import XinghaiApi.Lib.Pool
import XinghaiApi.Service.TaskBilling

/-!
# Polling of asynchronous tasks

Every instance has passes that look for unfinished tasks. A pass loads copies of the rows, asks
upstream about each, and writes back what it has learned; a sweep in front of it fails the tasks
that have timed out. Passes of several instances overlap, so a copy can be arbitrarily old when it
is written back.

The machine is about one task: its row, the database it is billed in, and any number of calls that
hold a copy of it. Each event makes at most one statement on the database.
-/

namespace XinghaiApi

/-! ### One answer for a video task -/

/-- What an adaptor reads from an answer. -/
structure TaskInfo where
  status : String
  reason : String := ""
  url : String := ""
  progress : String := ""
  totalTokens : Int := 0
deriving DecidableEq

def failTaskInfo (reason : String) : TaskInfo where
  status := "FAILURE"
  reason := reason

/-- An answer without a status, read as an error. -/
inductive ErrorBody where
  /-- it is no JSON of that form -/
  | invalid
  | openAIError (code : String)
  | unrecognized
deriving DecidableEq

structure VideoAnswer where
  /-- nothing when the answer cannot be fetched, read or parsed -/
  taskResult : Option TaskInfo
  errorBody : ErrorBody := .unrecognized
  /-- the answer as it is stored with the task -/
  body : String := ""
  /-- what `AdjustBillingOnComplete` of the adaptor returns -/
  adjustedQuota : Int := 0
deriving DecidableEq

/-- The result the poll goes on with; nothing where it waits for the next pass. -/
def orFailTaskInfo (errorBody : ErrorBody) (result : TaskInfo) : Option TaskInfo :=
  if result.status ≠ "" then some result
  else match errorBody with
    | .invalid          => some result
    | .openAIError code =>
      if code = "429" then none else some (failTaskInfo "upstream returned error")
    | .unrecognized     => some (failTaskInfo "upstream returned unrecognized message")

def buildProxyURL (setting : TaskSetting) (taskId : String) : String :=
  setting.serverAddress ++ "/v1/videos/" ++ taskId ++ "/content"

def TaskStatus.isKnown : TaskStatus → Bool
  | .submitted | .queued | .inProgress | .success | .failure => true
  | _ => false

/-- The progress a result shows, or the one that goes with its status. -/
def TaskInfo.progressOr (result : TaskInfo) (progress : String) : String :=
  if result.progress ≠ "" then result.progress else progress

/-- Where the result of a task is found; data is served by the proxy. -/
def resultURL (setting : TaskSetting) (url taskId : String) : String :=
  if "data:".toList.isPrefixOf url.toList ∨ url = "" then buildProxyURL setting taskId else url

/-- The copy after the switch over the status of the result. -/
def applyTaskResult (setting : TaskSetting) (now : Int) (result : TaskInfo) (t : Task) : Task :=
  match TaskStatus.ofText result.status with
  | .submitted  => { t with status := .submitted, progress := result.progressOr "10%" }
  | .queued     => { t with status := .queued, progress := result.progressOr "20%" }
  | .inProgress =>
    { t with
      status := .inProgress
      progress := result.progressOr "30%"
      startTime := if t.startTime = 0 then now else t.startTime }
  | .success    =>
    { t with
      status := .success
      progress := result.progressOr "100%"
      finishTime := if t.finishTime = 0 then now else t.finishTime
      privateData := { t.privateData with resultUrl := resultURL setting result.url t.taskId } }
  | .failure    =>
    { t with
      status := .failure
      progress := "100%"
      finishTime := if t.finishTime = 0 then now else t.finishTime
      failReason := result.reason }
  -- the status stays in memory, nothing is written
  | status      => { t with status := status }

/-- The two ways in which a finished task is billed. -/
inductive TaskBilling where
  | settle
  | refund
deriving DecidableEq

/-- What a poll leaves behind: the row, the copy in memory, the billing that it starts and the
result that billing goes by. -/
structure VideoUpdate where
  row : Task
  task : Task
  billing : Option TaskBilling := none
  totalTokens : Int := 0
deriving DecidableEq

/-- The billing a status calls for. -/
def dueBilling (t : Task) : Option TaskBilling :=
  match t.status with
  | .success => some .settle
  | .failure => if t.quota ≠ 0 then some .refund else none
  | _        => none

/-- Write the copy `t'` that a poll has made of `t`, from the status that `t` has. -/
def writeVideoTask (fails : Bool) (row t t' : Task) (totalTokens : Int) : VideoUpdate :=
  let (row', won) := if fails then (row, false) else row.updateWithStatus t.status t'
  if t'.status.isTerminal ∧ t.status ≠ t'.status then
    ⟨row', t', if won then dueBilling t' else none, totalTokens⟩
  else if t'.snapshot ≠ t.snapshot then
    ⟨row', t', dueBilling t', totalTokens⟩
  else
    ⟨row, t', dueBilling t', totalTokens⟩

/-- One poll of a video task from a copy `t`; the update fails where `fails` says so. -/
def updateVideoSingleTask (setting : TaskSetting) (now : Int) (answer : VideoAnswer)
    (fails : Bool) (row t : Task) : VideoUpdate :=
  match answer.taskResult with
  | none => ⟨row, t, none, 0⟩
  | some result =>
    match orFailTaskInfo answer.errorBody result with
    | none => ⟨row, { t with data := answer.body }, none, 0⟩
    | some result =>
      let t' := applyTaskResult setting now result { t with data := answer.body }
      if t'.status.isKnown then writeVideoTask fails row t t' result.totalTokens
      else ⟨row, t', none, 0⟩

/-! ### One item for a Suno task -/

structure SunoDataResponse where
  status : String
  failReason : String := ""
  submitTime : Int := 0
  startTime : Int := 0
  finishTime : Int := 0
  data : String := ""
deriving DecidableEq

/-- The bytes of a text, in UTF-8. -/
def bytes (data : String) : List UInt8 := data.toList.flatMap String.utf8EncodeChar

/-- The data is compared by its sorted bytes; it is the text that `Marshal` gives for it. -/
def taskNeedsUpdate (t : Task) (item : SunoDataResponse) : Bool :=
  t.submitTime != item.submitTime || t.startTime != item.startTime ||
    t.finishTime != item.finishTime || t.status.text != item.status ||
    t.failReason != item.failReason || (t.status.isTerminal && t.progress != "100%") ||
    !((bytes t.data).isPerm (bytes item.data))

/-- Whether the task counts as failed after the item, and so is refunded. -/
def sunoFailed (item : SunoDataResponse) (t : Task) : Bool :=
  item.failReason != "" || t.status == .failure

def applySunoItem (item : SunoDataResponse) (t : Task) : Task :=
  let t' := { t with
    status := if item.status ≠ "" then .ofText item.status else t.status
    failReason := if item.failReason ≠ "" then item.failReason else t.failReason
    submitTime := if item.submitTime ≠ 0 then item.submitTime else t.submitTime
    startTime := if item.startTime ≠ 0 then item.startTime else t.startTime
    finishTime := if item.finishTime ≠ 0 then item.finishTime else t.finishTime }
  { t' with
    progress := if sunoFailed item t' ∨ item.status = "SUCCESS" then "100%" else t'.progress
    data := item.data }

/-! ### The sweep -/

def legacyTaskCutoff : Int := 1740182400

def Task.isLegacy (t : Task) : Bool :=
  decide (0 < t.submitTime ∧ t.submitTime < legacyTaskCutoff)

def timedOutTask (setting : TaskSetting) (now : Int) (t : Task) : Task :=
  { t with
    status := .failure
    progress := "100%"
    finishTime := now
    failReason :=
      if t.isLegacy then "任务超时（旧系统遗留任务，不进行退款，请联系管理员）"
      else "任务超时（" ++ toString setting.taskTimeoutMinutes ++ "分钟）" }

/-! ### The machine -/

inductive TaskCallKind where
  | sweep
  | poll
  /-- a sweep that has been at the task: it looks at each copy once -/
  | swept
deriving DecidableEq

/-- A pass that holds a copy of the task, with the statements it has still to make. -/
structure TaskCall where
  kind : TaskCallKind
  task : Task
  pending : List TaskStatement := []
deriving DecidableEq

/-- The task, the database that it is billed in, and the passes. The last three fields only record
what has happened: the billings that were started, and what the funding source has paid and got
back. -/
structure TaskState where
  row : Task
  db : DB
  calls : List TaskCall := []
  billings : List TaskBilling := []
  taken : Int := 0
  given : Int := 0

inductive TaskEvent where
  /-- a sweep looks for tasks that have timed out -/
  | sweep (now : Int)
  /-- a pass looks for tasks that are not finished -/
  | poll
  /-- the sweep comes to the task -/
  | timeOut (i : ℕ) (now : Int) (fails : Bool)
  /-- a pass finds that the task has no upstream id -/
  | missingId (i : ℕ) (fails : Bool)
  /-- a pass finds that the channel of the task is gone -/
  | missingChannel (i : ℕ) (fails : Bool)
  | video (i : ℕ) (now : Int) (answer : VideoAnswer) (fails : Bool)
  | suno (i : ℕ) (item : SunoDataResponse)
  /-- the next statement of a billing, or a save -/
  | statement (i : ℕ) (fails : Bool)
  /-- the process of a pass ends -/
  | stop (i : ℕ)
deriving DecidableEq

def missingChannelReason (t : Task) : String :=
  if t.platform = .suno then "获取渠道信息失败，请联系管理员，渠道ID：" ++ toString t.channelId
  else "Failed to get channel info, channel ID: " ++ toString t.channelId

namespace TaskState

/-- The call with number `i`, when it is of that kind and has no statement to make first. -/
def ready (kind : TaskCallKind) (i : ℕ) (s : TaskState) : Option TaskCall :=
  (s.calls[i]?).filter fun c => c.kind == kind && c.pending.isEmpty

/-- The call with number `i`, when it can ask upstream about its task. -/
def polling (i : ℕ) (s : TaskState) : Option TaskCall :=
  (s.ready .poll i).filter fun c => c.task.getUpstreamTaskId != ""

/-- A new call with a copy of the row as it is now. -/
def load (kind : TaskCallKind) (s : TaskState) : TaskState :=
  { s with calls := s.calls ++ [{ kind := kind, task := s.row }] }

/-- Write the row from a call, with the billing that the call starts and its statements. -/
def write (i : ℕ) (row : Task) (c : TaskCall) (billing : Option TaskBilling) (s : TaskState) :
    TaskState :=
  { s with row := row, calls := s.calls.set i c, billings := s.billings ++ billing.toList }

def videoStatements (setting : TaskSetting) (answer : VideoAnswer) (db : DB) (u : VideoUpdate) :
    List TaskStatement :=
  match u.billing with
  | some .settle =>
    settleTaskBillingOnComplete setting answer.adjustedQuota u.totalTokens db u.task
  | some .refund => refundTaskQuota u.task
  | none         => []

def execute (fails : Bool) (i : ℕ) (c : TaskCall) (s : TaskState) : TaskState :=
  match c.pending with
  | [] => s
  | .funding delta :: rest =>
    match attempt fails (taskAdjustFunding c.task delta s.db) with
    -- the billing ends here, a save that comes after it does not
    | .error _ =>
      { s with calls := s.calls.set i { c with pending := rest.filter (!·.isBilling) } }
    | .ok db'  =>
      { s with
        db := db'
        calls := s.calls.set i { c with pending := rest }
        taken := s.taken + max delta 0
        given := s.given + max (-delta) 0 }
  | .token delta :: rest =>
    { s with
      db := taskAdjustTokenQuota fails c.task delta s.db
      calls := s.calls.set i { c with pending := rest } }
  | .quota actualQuota :: rest =>
    { s with
      row := if fails then s.row else { s.row with quota := actualQuota }
      calls := s.calls.set i
        { c with task := { c.task with quota := actualQuota }, pending := rest } }
  | .save :: rest =>
    { s with
      row := if fails then s.row else c.task
      calls := s.calls.set i { c with pending := rest } }

/-- The sweep comes to a copy: one guarded update, and a refund if it has found the row. -/
def sweepTask (setting : TaskSetting) (i : ℕ) (now : Int) (fails : Bool) (c : TaskCall)
    (s : TaskState) : TaskState :=
  let t := timedOutTask setting now c.task
  let (row', won) := if fails then (s.row, false) else s.row.updateWithStatus c.task.status t
  let refunds := won && !c.task.isLegacy && t.quota != 0
  s.write i row' ⟨.swept, t, if refunds then refundTaskQuota t else []⟩
    (if refunds then some .refund else none)

def pollVideo (setting : TaskSetting) (i : ℕ) (now : Int) (answer : VideoAnswer) (fails : Bool)
    (c : TaskCall) (s : TaskState) : TaskState :=
  let u := updateVideoSingleTask setting now answer fails s.row c.task
  s.write i u.row ⟨.poll, u.task, videoStatements setting answer s.db u⟩ u.billing

/-- The refund comes before the save. -/
def pollSuno (i : ℕ) (item : SunoDataResponse) (c : TaskCall) (s : TaskState) : TaskState :=
  let t := applySunoItem item c.task
  let failed := sunoFailed item t
  s.write i s.row ⟨.poll, t, (if failed then refundTaskQuota t else []) ++ [.save]⟩
    (if failed then some .refund else none)

def bulkUpdate (reason : Option String) (s : TaskState) : TaskState :=
  { s with row := s.row.bulkFail reason }

/-- The process of a pass ends with its statements not made. -/
def drop (i : ℕ) (c : TaskCall) (s : TaskState) : TaskState :=
  { s with calls := s.calls.set i { c with pending := [] } }

def step (setting : TaskSetting) (s : TaskState) : TaskEvent → TaskState
  | .sweep now =>
    let cutoff := now - setting.taskTimeoutMinutes * 60
    if 0 < setting.taskTimeoutMinutes ∧ s.row.isTimedOut cutoff then s.load .sweep else s
  | .poll => if s.row.isUnfinished then s.load .poll else s
  | .timeOut i now fails =>
    match s.ready .sweep i with
    | none   => s
    | some c => s.sweepTask setting i now fails c
  | .missingId i fails =>
    match s.ready .poll i with
    | none   => s
    | some c =>
      if c.task.getUpstreamTaskId = "" ∧ fails = false then s.bulkUpdate none else s
  | .missingChannel i fails =>
    match s.polling i with
    | none   => s
    | some c =>
      if c.task.platform ≠ .midjourney ∧ fails = false
        then s.bulkUpdate (some (missingChannelReason c.task))
        else s
  | .video i now answer fails =>
    match s.polling i with
    | none   => s
    | some c =>
      match c.task.platform with
      | .video _ => s.pollVideo setting i now answer fails c
      | _        => s
  | .suno i item =>
    match s.polling i with
    | none   => s
    | some c =>
      if c.task.platform = .suno ∧ taskNeedsUpdate c.task item then s.pollSuno i item c else s
  | .statement i fails =>
    match s.calls[i]? with
    | none   => s
    | some c => s.execute fails i c
  | .stop i =>
    match s.calls[i]? with
    | none   => s
    | some c => s.drop i c

/-! ### What a step can do -/

variable {s : TaskState} {c : TaskCall} {P : TaskState → Prop} {i : ℕ}

lemma ready_eq_some {kind : TaskCallKind} :
    s.ready kind i = some c ↔ s.calls[i]? = some c ∧ c.kind = kind ∧ c.pending = [] := by
  simp [ready]

lemma mem_of_ready {kind : TaskCallKind} (h : s.ready kind i = some c) : c ∈ s.calls :=
  List.mem_of_getElem? (ready_eq_some.mp h).1

lemma ready_of_polling (h : s.polling i = some c) : s.ready .poll i = some c :=
  (Option.filter_eq_some_iff.mp h).1

/-- A statement of a billing, or a save; a funding source that fails takes the rest of the billing
with it. -/
theorem execute_cases {fails : Bool} (none : c.pending = [] → P s)
    (unfunded : ∀ delta rest error, c.pending = .funding delta :: rest →
      attempt fails (taskAdjustFunding c.task delta s.db) = .error error →
      P { s with calls := s.calls.set i { c with pending := rest.filter (!·.isBilling) } })
    (funded : ∀ delta rest db', c.pending = .funding delta :: rest →
      attempt fails (taskAdjustFunding c.task delta s.db) = .ok db' →
      P { s with
        db := db'
        calls := s.calls.set i { c with pending := rest }
        taken := s.taken + max delta 0
        given := s.given + max (-delta) 0 })
    (token : ∀ delta rest, c.pending = .token delta :: rest →
      P { s with
        db := taskAdjustTokenQuota fails c.task delta s.db
        calls := s.calls.set i { c with pending := rest } })
    (quota : ∀ actual rest, c.pending = .quota actual :: rest →
      P { s with
        row := if fails then s.row else { s.row with quota := actual }
        calls := s.calls.set i
          { c with task := { c.task with quota := actual }, pending := rest } })
    (save : ∀ rest, c.pending = .save :: rest →
      P { s with
        row := if fails then s.row else c.task
        calls := s.calls.set i { c with pending := rest } }) : P (s.execute fails i c) := by
  unfold execute
  split
  case h_1 hpending => exact none hpending
  case h_2 delta rest hpending =>
    split
    case h_1 error herror => exact unfunded delta rest error hpending herror
    case h_2 db' hok => exact funded delta rest db' hpending hok
  case h_3 delta rest hpending => exact token delta rest hpending
  case h_4 actual rest hpending => exact quota actual rest hpending
  case h_5 rest hpending => exact save rest hpending

/-- A step does nothing, loads a copy, or moves one call. -/
theorem step_cases {setting : TaskSetting} {e : TaskEvent} (same : P s)
    (load : ∀ kind, s.row.isUnfinished = true → P (s.load kind))
    (timeOut : ∀ i now fails c, e = .timeOut i now fails → s.ready .sweep i = some c →
      P (s.sweepTask setting i now fails c))
    (missingId : ∀ i fails, e = .missingId i fails → P (s.bulkUpdate none))
    (missingChannel : ∀ i fails reason, e = .missingChannel i fails →
      P (s.bulkUpdate (some reason)))
    (video : ∀ i now answer fails c, e = .video i now answer fails → s.ready .poll i = some c →
      c.task.platform ≠ .suno → P (s.pollVideo setting i now answer fails c))
    (suno : ∀ i item c, e = .suno i item → s.ready .poll i = some c → c.task.platform = .suno →
      taskNeedsUpdate c.task item = true → P (s.pollSuno i item c))
    (statement : ∀ i fails c, e = .statement i fails → s.calls[i]? = some c →
      P (s.execute fails i c))
    (stop : ∀ i c, e = .stop i → s.calls[i]? = some c → P (s.drop i c)) :
    P (step setting s e) := by
  cases e <;> simp only [step]
  case sweep now =>
    split_ifs with h
    · exact load .sweep (Bool.and_eq_true_iff.mp h.2).1
    · exact same
  case poll =>
    split_ifs with h
    · exact load .poll h
    · exact same
  case timeOut i now fails =>
    split
    case h_1 => exact same
    case h_2 c hc => exact timeOut i now fails c rfl hc
  case missingId i fails =>
    split
    · exact same
    · split_ifs
      · exact missingId i fails rfl
      · exact same
  case missingChannel i fails =>
    split
    · exact same
    · split_ifs
      · exact missingChannel i fails _ rfl
      · exact same
  case video i now answer fails =>
    split
    case h_1 => exact same
    case h_2 c hc =>
      split
      case h_1 name hname =>
        exact video i now answer fails c rfl (ready_of_polling hc) (by simp [hname])
      case h_2 => exact same
  case suno i item =>
    split
    case h_1 => exact same
    case h_2 c hc =>
      split_ifs with h
      · exact suno i item c rfl (ready_of_polling hc) h.1 h.2
      · exact same
  case statement i fails =>
    split
    case h_1 => exact same
    case h_2 c hc => exact statement i fails c rfl hc
  case stop i =>
    split
    case h_1 => exact same
    case h_2 c hc => exact stop i c rfl hc

end TaskState

end XinghaiApi
