import XinghaiApi.Common.OtherRatios
import XinghaiApi.Model.Types

/-!
# Asynchronous tasks

A music or video task is one row. It is charged when it is submitted, and polled until its status is
`SUCCESS` or `FAILURE`. These are the row, the copies of it that pollers hold in memory, and the
statements that write it: an update guarded by the status, an unguarded save, and a bulk update.
-/

namespace XinghaiApi

/-- The status of a task. The column is a text, and upstream services can put any text there. -/
inductive TaskStatus where
  | notStart
  | submitted
  | queued
  | inProgress
  | failure
  | success
  | unknown
  | other (text : String)
deriving DecidableEq

namespace TaskStatus

def text : TaskStatus → String
  | .notStart   => "NOT_START"
  | .submitted  => "SUBMITTED"
  | .queued     => "QUEUED"
  | .inProgress => "IN_PROGRESS"
  | .failure    => "FAILURE"
  | .success    => "SUCCESS"
  | .unknown    => "UNKNOWN"
  | .other text => text

def ofText (s : String) : TaskStatus :=
  if s = "NOT_START" then .notStart
  else if s = "SUBMITTED" then .submitted
  else if s = "QUEUED" then .queued
  else if s = "IN_PROGRESS" then .inProgress
  else if s = "FAILURE" then .failure
  else if s = "SUCCESS" then .success
  else if s = "UNKNOWN" then .unknown
  else .other s

def isTerminal : TaskStatus → Bool
  | .failure => true
  | .success => true
  | _        => false

end TaskStatus

/-- Which service runs the task. -/
inductive TaskPlatform where
  | suno
  | midjourney
  | video (name : String)
deriving DecidableEq

/-- What a task was priced with when it was submitted. -/
structure TaskBillingContext where
  modelPrice : ℚ
  groupRatio : ℚ
  modelRatio : ℚ
  otherRatios : OtherRatios := ∅
  originModelName : String
  perCallBilling : Bool
deriving DecidableEq

structure TaskPrivateData where
  upstreamTaskId : String := ""
  resultUrl : String := ""
  billingSource : String := ""
  subscriptionId : Int := 0
  tokenId : Int := 0
  billingContext : Option TaskBillingContext := none
deriving DecidableEq

structure Task where
  taskId : String
  platform : TaskPlatform
  userId : Int
  group : String := ""
  channelId : Int
  quota : Int
  status : TaskStatus
  failReason : String := ""
  submitTime : Int
  startTime : Int := 0
  finishTime : Int := 0
  progress : String := "0%"
  originModelName : String := ""
  privateData : TaskPrivateData
  data : String := ""
deriving DecidableEq

namespace Task

/-- The id at the upstream service; an old task has it as its own id. -/
def getUpstreamTaskId (t : Task) : String :=
  if t.privateData.upstreamTaskId ≠ "" then t.privateData.upstreamTaskId else t.taskId

/-- What `GetAllUnFinishSyncTasks` selects. -/
def isUnfinished (t : Task) : Bool :=
  t.progress != "100%" && !t.status.isTerminal

/-- What `GetTimedOutUnfinishedTasks` selects. -/
def isTimedOut (cutoff : Int) (t : Task) : Bool :=
  t.isUnfinished && decide (t.submitTime < cutoff)

/-- The fields that tell whether a poll has changed anything. -/
structure Snapshot where
  status : TaskStatus
  progress : String
  startTime : Int
  finishTime : Int
  failReason : String
  resultUrl : String
  data : String
deriving DecidableEq

def snapshot (t : Task) : Snapshot where
  status := t.status
  progress := t.progress
  startTime := t.startTime
  finishTime := t.finishTime
  failReason := t.failReason
  resultUrl := t.privateData.resultUrl
  data := t.data

/-- `UPDATE tasks SET * WHERE id = ? AND status = fromStatus`: the row afterwards, and whether the
update has found it. -/
def updateWithStatus (row : Task) (fromStatus : TaskStatus) (t : Task) : Task × Bool :=
  if row.status = fromStatus then (t, true) else (row, false)

/-- `TaskBulkUpdateByID` as it is used: whatever the row is, it becomes a failed one. -/
def bulkFail (reason : Option String) (row : Task) : Task :=
  { row with
    failReason := reason.getD row.failReason
    status := .failure
    progress := "100%" }

lemma not_isTerminal_of_isUnfinished {t : Task} (h : t.isUnfinished = true) :
    t.status.isTerminal = false := by
  simp only [isUnfinished, Bool.and_eq_true, Bool.not_eq_true'] at h
  exact h.2

lemma isUnfinished_of_isTerminal {t : Task} (h : t.status.isTerminal = true) :
    t.isUnfinished = false := by
  simp [isUnfinished, h]

end Task

end XinghaiApi
