import Mathlib.Tactic.Ring
import XinghaiApi.Lib.Pool
import XinghaiApi.Lib.Run
import XinghaiApi.Relay.MjProxy

/-!
# Polling of Midjourney tasks

A pass loads the rows that are not at `100%`, asks the channels about them and writes back what they
answer, each row under the condition that it still has the status it was loaded with. A pass that
writes a failure gives the price on the row back to the user, in a statement of its own.

The machine is about one row and any number of passes that hold a copy of it. As the price is on the
row whether or not it was paid, and a failure need not change the status, more can be given back
than was paid; the result is that both have to be excluded, and that nothing else has to be.
-/

namespace XinghaiApi

open Machine Pool Midjourney

/-! ### One answer -/

/-- What a channel answers about a task. -/
structure MidjourneyDto where
  mjId : String
  promptEn : String := ""
  state : String := ""
  submitTime : Int := 0
  startTime : Int := 0
  finishTime : Int := 0
  imageUrl : String := ""
  videoUrl : String := ""
  /-- the addresses, each as it is written in JSON -/
  videoUrls : List String := []
  status : String
  progress : String
  failReason : String := ""
  /-- as they are stored -/
  buttons : Option String := none
  properties : Option String := none
deriving DecidableEq

/-- The addresses as they are stored. -/
def marshalVideoUrls (urls : List String) : String :=
  if urls = [] then ""
  else "[" ++ ",".intercalate (urls.map fun url => "\x7b\"url\":" ++ url ++ "\x7d") ++ "]"

def checkMjTaskNeedUpdate (oldTask : Midjourney) (newTask : MidjourneyDto) : Bool :=
  oldTask.code ≠ 1
    || oldTask.progress ≠ newTask.progress
    || oldTask.promptEn ≠ newTask.promptEn
    || oldTask.state ≠ newTask.state
    || oldTask.submitTime ≠ newTask.submitTime
    || oldTask.startTime ≠ newTask.startTime
    || oldTask.finishTime ≠ newTask.finishTime
    || oldTask.imageUrl ≠ newTask.imageUrl
    || oldTask.status ≠ newTask.status
    || oldTask.failReason ≠ newTask.failReason
    || (oldTask.progress ≠ "100%" && newTask.failReason ≠ "")
    || oldTask.videoUrl ≠ newTask.videoUrl
    || oldTask.videoUrls ≠ marshalVideoUrls newTask.videoUrls

/-- After an hour a task that is not at `100%` counts as failed, whatever the answer says. -/
def timeOutMjTask (now : Int) (task : Midjourney) (item : MidjourneyDto) : MidjourneyDto :=
  if now - task.submitTime > 3600000 ∧ task.progress ≠ "100%" then
    { item with failReason := "上游任务超时（超过1小时）", status := "FAILURE" }
  else item

/-- The copy with everything that the answer says. -/
def takeMjAnswer (task : Midjourney) (item : MidjourneyDto) : Midjourney :=
  { task with
    code := 1
    progress := item.progress
    promptEn := item.promptEn
    state := item.state
    submitTime := item.submitTime
    startTime := item.startTime
    finishTime := item.finishTime
    imageUrl := item.imageUrl
    status := item.status
    failReason := item.failReason
    properties := item.properties.getD task.properties
    buttons := item.buttons.getD task.buttons
    videoUrl := item.videoUrl
    videoUrls := marshalVideoUrls item.videoUrls }

/-- Whether the copy says that the task has failed. -/
def Midjourney.hasFailed (task : Midjourney) : Bool :=
  (task.progress ≠ "100%" && task.failReason ≠ "")
    || (task.progress = "100%" && task.status = "FAILURE")

/-- The copy a pass writes back, and whether it gives the price back then; nothing when the answer
has no news. -/
def updateMjTask (now : Int) (task : Midjourney) (item : MidjourneyDto) :
    Option (Midjourney × Bool) :=
  let item := timeOutMjTask now task item
  if checkMjTaskNeedUpdate task item then
    let t := takeMjAnswer task item
    if t.hasFailed then some ({ t with progress := "100%" }, t.quota ≠ 0) else some (t, false)
  else none

/-! ### The machine -/

/-- The copy a pass holds, and whether it has yet to give the price back. -/
structure MjPoll where
  task : Midjourney
  owes : Bool := false
deriving DecidableEq

structure MjState where
  row : Midjourney
  /-- what the wallet of the user was given back for the task -/
  returned : Int := 0
  polls : List MjPoll := []
deriving DecidableEq

inductive MjEvent where
  /-- a pass loads the row -/
  | load
  /-- a pass fails the tasks that upstream gave no id -/
  | failNull (i : ℕ)
  /-- a pass fails the tasks of a channel that is gone -/
  | failChannel (channelId : Int)
  /-- the `i`-th pass handles an answer -/
  | answer (i : ℕ) (now : Int) (item : MidjourneyDto)
  /-- the `i`-th pass gives the price back -/
  | increaseUserQuota (i : ℕ)
deriving DecidableEq

namespace MjState

section

variable (s : MjState)

/-- The `i`-th pass, if it goes on to the next answer and can find the task for it. -/
def reader (i : ℕ) (mjId : String) : Option MjPoll :=
  s.polls[i]?.filter fun p => !p.owes && p.task.mjId ≠ "" && p.task.mjId = mjId

def answer (i : ℕ) (now : Int) (item : MidjourneyDto) : MjState :=
  match s.reader i item.mjId with
  | none   => s
  | some p =>
    match updateMjTask now p.task item with
    | none              => s
    | some (t, returns) =>
      let (row, won) := s.row.updateWithStatus p.task.status t
      { s with row := row, polls := s.polls.set i ⟨t, won && returns⟩ }

/-- A negative amount is refused. -/
def increaseUserQuota (i : ℕ) : MjState :=
  match s.polls[i]? with
  | none   => s
  | some p =>
    if p.owes then
      { s with
        returned := s.returned + if p.task.quota < 0 then 0 else p.task.quota
        polls := s.polls.set i { p with owes := false } }
    else s

def failNull (i : ℕ) : MjState :=
  match s.polls[i]? with
  | none   => s
  | some p =>
    if p.task.mjId = "" then
      { s with row := { s.row with status := "FAILURE", progress := "100%" } }
    else s

def failChannel (channelId : Int) : MjState :=
  if s.row.mjId = "" then s
  else
    { s with
      row := { s.row with
        failReason := s!"获取渠道信息失败，请联系管理员，渠道ID：{channelId}"
        status := "FAILURE"
        progress := "100%" } }

def load : MjState :=
  if s.row.progress = "100%" then s else { s with polls := s.polls ++ [⟨s.row, false⟩] }

def step : MjEvent → MjState
  | .load                => s.load
  | .failNull i          => s.failNull i
  | .failChannel c       => s.failChannel c
  | .answer i now item   => s.answer i now item
  | .increaseUserQuota i => s.increaseUserQuota i

end

end MjState

def MjSubmission.initial (s : MjSubmission) : MjState where
  row := s.submitted.task

/-! ### What one step does -/

lemma updateMjTask_eq_some {now : Int} {task t : Midjourney} {item : MidjourneyDto}
    {returns : Bool} (h : updateMjTask now task item = some (t, returns)) :
    t.quota = task.quota ∧ t.mjId = task.mjId := by
  simp only [updateMjTask] at h
  split_ifs at h
  · obtain ⟨rfl, -⟩ := h
    exact ⟨rfl, rfl⟩
  · obtain ⟨rfl, -⟩ := h
    exact ⟨rfl, rfl⟩

namespace MjState

variable {s : MjState} {i : ℕ} {now : Int} {item : MidjourneyDto}

lemma reader_eq_some {mjId : String} {p : MjPoll} (h : s.reader i mjId = some p) :
    s.polls[i]? = some p ∧ p.owes = false ∧ p.task.mjId ≠ "" ∧ p.task.mjId = mjId := by
  simpa [reader, and_assoc] using h

/-- An answer without effect, one that lost against another pass, and one that was written. -/
lemma answer_cases (s : MjState) (i : ℕ) (now : Int) (item : MidjourneyDto) :
    s.answer i now item = s ∨
      ∃ p t returns, s.reader i item.mjId = some p ∧
        updateMjTask now p.task item = some (t, returns) ∧
        (s.row.status ≠ p.task.status ∧
            s.answer i now item = { s with polls := s.polls.set i ⟨t, false⟩ } ∨
          s.row.status = p.task.status ∧
            s.answer i now item = { s with row := t, polls := s.polls.set i ⟨t, returns⟩ }) := by
  rcases hreader : s.reader i item.mjId with _ | p
  · simp [answer, hreader]
  rcases hupdate : updateMjTask now p.task item with _ | ⟨t, returns⟩
  · simp [answer, hreader, hupdate]
  refine Or.inr ⟨p, t, returns, rfl, hupdate, ?_⟩
  by_cases hstatus : s.row.status = p.task.status
  · simp [answer, hreader, hupdate, updateWithStatus, hstatus]
  · simp [answer, hreader, hupdate, updateWithStatus, hstatus]

lemma increaseUserQuota_cases (s : MjState) (i : ℕ) :
    s.increaseUserQuota i = s ∨
      ∃ p, s.polls[i]? = some p ∧ p.owes = true ∧
        s.increaseUserQuota i =
          { s with
            returned := s.returned + max p.task.quota 0
            polls := s.polls.set i { p with owes := false } } := by
  rcases hpoll : s.polls[i]? with _ | p
  · simp [increaseUserQuota, hpoll]
  cases howes : p.owes
  · simp [increaseUserQuota, hpoll, howes]
  · have hamount : (if p.task.quota < 0 then 0 else p.task.quota) = max p.task.quota 0 := by
      split_ifs <;> omega
    simp [increaseUserQuota, hpoll, howes, hamount]

/-- A bulk update fails the row, finished or not. -/
def BulkFailed (s s' : MjState) : Prop :=
  s' = s ∨ ∃ reason, s' = { s with
    row := { s.row with status := "FAILURE", progress := "100%", failReason := reason } }

lemma bulkFailed_failNull (s : MjState) (i : ℕ) : s.BulkFailed (s.failNull i) := by
  rcases hpoll : s.polls[i]? with _ | p
  · simp [BulkFailed, failNull, hpoll]
  by_cases hmjId : p.task.mjId = ""
  · exact Or.inr ⟨s.row.failReason, by simp [failNull, hpoll, hmjId]⟩
  · exact Or.inl (by simp [failNull, hpoll, hmjId])

lemma bulkFailed_failChannel (s : MjState) (channelId : Int) :
    s.BulkFailed (s.failChannel channelId) := by
  by_cases hmjId : s.row.mjId = ""
  · exact Or.inl (by simp [failChannel, hmjId])
  · refine Or.inr ⟨s!"获取渠道信息失败，请联系管理员，渠道ID：{channelId}", ?_⟩
    simp [failChannel, hmjId]

/-! ### At most one refund -/

variable {quota : Int}

/-- The answers that a refund can rely on: one that is written and gives the price back moves the
row to `FAILURE` from another status, and none moves it away from there. -/
def Settles (s : MjState) : MjEvent → Prop
  | .answer i now item =>
    ∀ p ∈ s.reader i item.mjId, ∀ u ∈ updateMjTask now p.task item,
      s.row.status = p.task.status →
        (u.2 = true → s.row.status ≠ "FAILURE" ∧ u.1.status = "FAILURE") ∧
        (s.row.status = "FAILURE" → u.1.status = "FAILURE")
  | _ => True

instance : ∀ (s : MjState) (e : MjEvent), Decidable (s.Settles e)
  | s, .answer i now item =>
    inferInstanceAs (Decidable (∀ p ∈ s.reader i item.mjId, ∀ u ∈ updateMjTask now p.task item,
      s.row.status = p.task.status →
        (u.2 = true → s.row.status ≠ "FAILURE" ∧ u.1.status = "FAILURE") ∧
        (s.row.status = "FAILURE" → u.1.status = "FAILURE")))
  | _, .load | _, .failNull _ | _, .failChannel _ | _, .increaseUserQuota _ => .isTrue trivial

/-- The refunds that are made or due. -/
structure RefundedOnce (quota : Int) (s : MjState) : Prop where
  row : s.row.quota = quota
  polls : ∀ p ∈ s.polls, p.task.quota = quota
  /-- `made` refunds are made, and with those that are due it is at most one, which the status
  shows -/
  once : ∃ made : ℕ, s.returned = made * max quota 0 ∧
    made + s.polls.countP (·.owes) ≤ 1 ∧
    (made + s.polls.countP (·.owes) = 0 ∨ s.row.status = "FAILURE")

section

variable (h : s.RefundedOnce quota)

include h

lemma RefundedOnce.returned_le : s.returned ≤ max quota 0 := by
  obtain ⟨made, hreturned, hle, -⟩ := h.once
  rw [hreturned]
  have hmade : made = 0 ∨ made = 1 := by omega
  rcases hmade with rfl | rfl
  · simp
  · simp

lemma RefundedOnce.bulkFailed {s' : MjState} (hs' : s.BulkFailed s') : s'.RefundedOnce quota := by
  rcases hs' with rfl | ⟨reason, rfl⟩
  · exact h
  · obtain ⟨made, hreturned, hle, -⟩ := h.once
    exact ⟨h.row, h.polls, made, hreturned, hle, Or.inr rfl⟩

lemma RefundedOnce.load : s.load.RefundedOnce quota := by
  by_cases hprogress : s.row.progress = "100%"
  · simpa [MjState.load, hprogress] using h
  · obtain ⟨made, hreturned, honce⟩ := h.once
    have hload : s.load = { s with polls := s.polls ++ [⟨s.row, false⟩] } := by
      simp [MjState.load, hprogress]
    rw [hload]
    refine ⟨h.row, ?_, made, hreturned, ?_⟩
    · intro p hp
      rcases List.mem_append.mp hp with hp | hp
      · exact h.polls p hp
      · rw [List.mem_singleton.mp hp]
        exact h.row
    · simpa using honce

lemma RefundedOnce.increaseUserQuota (i : ℕ) : (s.increaseUserQuota i).RefundedOnce quota := by
  rcases s.increaseUserQuota_cases i with hsame | ⟨p, hpoll, howes, hnext⟩
  · rwa [hsame]
  · obtain ⟨made, hreturned, hle, hstatus⟩ := h.once
    have hquota : p.task.quota = quota := h.polls p (List.mem_of_getElem? hpoll)
    have hcount : (s.polls.set i { p with owes := false }).countP (·.owes) + 1
        = s.polls.countP (·.owes) := countP_set_leave hpoll howes rfl
    rw [hnext]
    refine ⟨h.row, forall_mem_set h.polls hquota, made + 1, ?_, ?_, ?_⟩
    · rw [hreturned, hquota]
      push_cast
      ring
    · dsimp only
      omega
    · exact hstatus.imp (fun hnone => by omega) fun hfailure => hfailure

lemma RefundedOnce.answer (hok : s.Settles (.answer i now item)) :
    (s.answer i now item).RefundedOnce quota := by
  rcases s.answer_cases i now item with
    hsame | ⟨p, t, returns, hreader, hupdate, ⟨-, hnext⟩ | ⟨hstatus, hnext⟩⟩
  · rwa [hsame]
  all_goals
    obtain ⟨hpoll, howes, -, -⟩ := reader_eq_some hreader
    have hquota : t.quota = quota :=
      (updateMjTask_eq_some hupdate).1.trans (h.polls p (List.mem_of_getElem? hpoll))
    obtain ⟨made, hreturned, hle, hdue⟩ := h.once
    rw [hnext]
  · have hcount : (s.polls.set i ⟨t, false⟩).countP (·.owes) = s.polls.countP (·.owes) :=
      countP_set_of_eq hpoll howes.symm
    refine ⟨h.row, forall_mem_set h.polls hquota, made, hreturned, ?_⟩
    rw [hcount]
    exact ⟨hle, hdue⟩
  · obtain ⟨hreturns, hstays⟩ := hok p hreader (t, returns) hupdate hstatus
    refine ⟨hquota, forall_mem_set h.polls hquota, made, hreturned, ?_⟩
    cases returns with
    | false =>
      have hcount : (s.polls.set i ⟨t, false⟩).countP (·.owes) = s.polls.countP (·.owes) :=
        countP_set_of_eq hpoll howes.symm
      rw [hcount]
      exact ⟨hle, hdue.imp_right hstays⟩
    | true =>
      -- the row was not failed before, so no refund was made or due
      obtain ⟨hbefore, hafter⟩ := hreturns rfl
      have hnone := hdue.resolve_right hbefore
      have hcount : (s.polls.set i ⟨t, true⟩).countP (·.owes) = s.polls.countP (·.owes) + 1 :=
        countP_set_enter hpoll howes rfl
      rw [hcount]
      exact ⟨by omega, Or.inr hafter⟩

lemma RefundedOnce.step {e : MjEvent} (hok : s.Settles e) : (s.step e).RefundedOnce quota := by
  cases e with
  | load => exact h.load
  | failNull i => exact h.bulkFailed (s.bulkFailed_failNull i)
  | failChannel c => exact h.bulkFailed (s.bulkFailed_failChannel c)
  | answer i now item => exact h.answer hok
  | increaseUserQuota i => exact h.increaseUserQuota i

end

/-! ### Rows that are never refunded -/

/-- Whether a pass can fail the row so that the status tells. -/
def IsRefundable (row : Midjourney) : Prop :=
  row.progress ≠ "100%" ∧ row.mjId ≠ "" ∧ row.status ≠ "FAILURE"

instance (row : Midjourney) : Decidable (IsRefundable row) :=
  inferInstanceAs (Decidable (row.progress ≠ "100%" ∧ row.mjId ≠ "" ∧ row.status ≠ "FAILURE"))

/-- No refund is made or due, and none can become due. -/
structure NeverRefunded (s : MjState) : Prop where
  returned : s.returned = 0
  owes : ∀ p ∈ s.polls, p.owes = false
  unreachable : (s.row.progress = "100%" ∧ s.polls = []) ∨
    (s.row.mjId = "" ∧ ∀ p ∈ s.polls, p.task.mjId = "") ∨ s.row.status = "FAILURE"

lemma NeverRefunded.bulkFailed {s' : MjState} (h : s.NeverRefunded) (hs' : s.BulkFailed s') :
    s'.NeverRefunded := by
  rcases hs' with rfl | ⟨reason, rfl⟩
  · exact h
  · exact ⟨h.returned, h.owes, Or.inr (Or.inr rfl)⟩

lemma NeverRefunded.load (h : s.NeverRefunded) : s.load.NeverRefunded := by
  by_cases hprogress : s.row.progress = "100%"
  · simpa [MjState.load, hprogress] using h
  · have hload : s.load = { s with polls := s.polls ++ [⟨s.row, false⟩] } := by
      simp [MjState.load, hprogress]
    rw [hload]
    refine ⟨h.returned, ?_, ?_⟩
    · simpa [or_imp, forall_and] using h.owes
    · rcases h.unreachable with ⟨hfinished, -⟩ | ⟨hmjId, hpolls⟩ | hfailure
      · exact absurd hfinished hprogress
      · refine Or.inr (Or.inl ⟨hmjId, ?_⟩)
        simpa [or_imp, forall_and, hmjId] using hpolls
      · exact Or.inr (Or.inr hfailure)

lemma NeverRefunded.increaseUserQuota (h : s.NeverRefunded) (i : ℕ) :
    (s.increaseUserQuota i).NeverRefunded := by
  rcases s.increaseUserQuota_cases i with hsame | ⟨p, hpoll, howes, -⟩
  · rwa [hsame]
  · rw [h.owes p (List.mem_of_getElem? hpoll)] at howes
    contradiction

lemma NeverRefunded.answer (h : s.NeverRefunded) (hok : s.Settles (.answer i now item)) :
    (s.answer i now item).NeverRefunded := by
  rcases s.answer_cases i now item with
    hsame | ⟨p, t, returns, hreader, hupdate, hwritten⟩
  · rwa [hsame]
  obtain ⟨hpoll, howes, hmjId, -⟩ := reader_eq_some hreader
  have hmem : p ∈ s.polls := List.mem_of_getElem? hpoll
  have hfailure : s.row.status = "FAILURE" := by
    rcases h.unreachable with ⟨-, hpolls⟩ | ⟨-, hpolls⟩ | hfailure
    · simp [hpolls] at hmem
    · exact absurd (hpolls p hmem) hmjId
    · exact hfailure
  rcases hwritten with ⟨-, hnext⟩ | ⟨hstatus, hnext⟩
  · rw [hnext]
    exact ⟨h.returned, forall_mem_set h.owes rfl, Or.inr (Or.inr hfailure)⟩
  · obtain ⟨hreturns, hstays⟩ := hok p hreader (t, returns) hupdate hstatus
    have hkeeps : returns = false := by
      cases returns with
      | false => rfl
      | true => exact absurd hfailure (hreturns rfl).1
    rw [hnext]
    exact ⟨h.returned, forall_mem_set h.owes hkeeps, Or.inr (Or.inr (hstays hfailure))⟩

lemma NeverRefunded.step {e : MjEvent} (h : s.NeverRefunded) (hok : s.Settles e) :
    (s.step e).NeverRefunded := by
  cases e with
  | load => exact h.load
  | failNull i => exact h.bulkFailed (s.bulkFailed_failNull i)
  | failChannel c => exact h.bulkFailed (s.bulkFailed_failChannel c)
  | answer i now item => exact h.answer hok
  | increaseUserQuota i => exact h.increaseUserQuota i

end MjState

/-! ### Submissions and their refunds -/

lemma MjSubmission.initial_refundedOnce (s : MjSubmission) : s.initial.RefundedOnce s.quota where
  row := s.submitted_quota
  polls := by simp [initial]
  once := ⟨0, by simp [initial]⟩

lemma MjSubmission.initial_neverRefunded {s : MjSubmission}
    (h : ¬MjState.IsRefundable s.submitted.task) : s.initial.NeverRefunded where
  returned := rfl
  owes := by simp [initial]
  unreachable := by
    simp only [MjState.IsRefundable, not_and_or] at h
    simpa [initial] using h

def failureAnswer (mjId : String) : MidjourneyDto where
  mjId := mjId
  status := "FAILURE"
  progress := "100%"

/-- A pass that learns of the failure, and gives the price back. -/
def failureRun (mjId : String) : List MjEvent :=
  [.load, .answer 0 0 (failureAnswer mjId), .increaseUserQuota 0]

lemma timeOutMjTask_failureAnswer (now : Int) (task : Midjourney) (mjId : String) :
    (timeOutMjTask now task (failureAnswer mjId)).status = "FAILURE" ∧
      (timeOutMjTask now task (failureAnswer mjId)).progress = "100%" := by
  simp only [timeOutMjTask]
  split_ifs <;> exact ⟨rfl, rfl⟩

lemma updateMjTask_failureAnswer {task : Midjourney} (hprogress : task.progress ≠ "100%")
    (hquota : task.quota ≠ 0) (now : Int) (mjId : String) :
    ∃ t, updateMjTask now task (failureAnswer mjId) = some (t, true) ∧ t.status = "FAILURE" := by
  obtain ⟨hstatus, hfinished⟩ := timeOutMjTask_failureAnswer now task mjId
  have hneeds : checkMjTaskNeedUpdate task (timeOutMjTask now task (failureAnswer mjId)) := by
    simp [checkMjTaskNeedUpdate, hfinished, hprogress]
  have hfailed : (takeMjAnswer task (timeOutMjTask now task (failureAnswer mjId))).hasFailed := by
    simp [hasFailed, takeMjAnswer, hstatus, hfinished]
  refine ⟨{ takeMjAnswer task (timeOutMjTask now task (failureAnswer mjId)) with
    progress := "100%" }, ?_, hstatus⟩
  have hreturns : (takeMjAnswer task (timeOutMjTask now task (failureAnswer mjId))).quota ≠ 0 :=
    hquota
  simp [updateMjTask, hneeds, hfailed, hreturns]

/-- A row that can be refunded is, whether or not it was paid for. -/
lemma failureRun_returned {s : MjSubmission} (h : MjState.IsRefundable s.submitted.task)
    (hquota : 0 < s.quota) :
    Along MjState.step MjState.Settles s.initial (failureRun s.submitted.task.mjId) ∧
      (run MjState.step s.initial (failureRun s.submitted.task.mjId)).returned
        = s.quota := by
  obtain ⟨hprogress, hmjId, hstatus⟩ := h
  have hprice : s.submitted.task.quota = s.quota := s.submitted_quota
  obtain ⟨t, hupdate, hfailed⟩ := updateMjTask_failureAnswer hprogress
    (by omega) 0 s.submitted.task.mjId
  let loaded : MjState := { row := s.submitted.task, polls := [⟨s.submitted.task, false⟩] }
  have hload : s.initial.step .load = loaded := by
    simp [MjState.step, MjState.load, MjSubmission.initial, hprogress, loaded]
  have hreader : loaded.reader 0 (failureAnswer s.submitted.task.mjId).mjId
      = some ⟨s.submitted.task, false⟩ := by
    simp [loaded, MjState.reader, failureAnswer, hmjId]
  have hanswer : loaded.step (.answer 0 0 (failureAnswer s.submitted.task.mjId))
      = { row := t, polls := [⟨t, true⟩] } := by
    simp only [MjState.step, MjState.answer, hreader, hupdate]
    simp [loaded, updateWithStatus]
  have hsettles : loaded.Settles (.answer 0 0 (failureAnswer s.submitted.task.mjId)) := by
    simp [MjState.Settles, hreader, hupdate, hfailed, loaded, hstatus]
  constructor
  · simp only [failureRun, along_cons, hload]
    exact ⟨trivial, hsettles, trivial, trivial⟩
  · have hreturned : t.quota = s.quota := (updateMjTask_eq_some hupdate).1.trans hprice
    simp only [failureRun, run_cons, run_nil, hload, hanswer]
    simp only [MjState.step, MjState.increaseUserQuota, List.getElem?_cons_zero, if_true]
    omega

lemma MjSubmission.isRefundable_iff (s : MjSubmission) :
    MjState.IsRefundable s.submitted.task ↔ ¬s.IsFinished := by
  cases hhandler : s.handler with
  | swapFace => simp [MjState.IsRefundable, submitted, IsFinished, hhandler, relaySwapFace]
  | submit =>
    simp only [MjState.IsRefundable, submitted, IsFinished, hhandler, relayMidjourneySubmit]
    -- a task that exists is stored as the answer says, any other is finished if it is an upload
    by_cases hexists : s.response.code = 21
    · rcases hproperties : s.response.properties with _ | p
      · simp [takeExisting, isTakenCode, existingCode, hexists, hproperties]
      · by_cases hsuccess : p.status = "SUCCESS" <;>
          simp [takeExisting, isTakenCode, existingCode, hexists, hproperties, hsuccess]
    · have hcode : existingCode s.response = s.response.code := by
        rcases hproperties : s.response.properties with _ | p <;>
          simp [existingCode, hexists, hproperties]
      rw [hcode]
      by_cases hupload : s.response.code = 1 ∧ s.action = .upload
      · simp [hupload]
      · split_ifs <;> simp [hexists, hupload]

/-- What is given back for a task is at most what was paid for it, in all runs with answers that a
refund can rely on, iff the price of a call that is paid for is not negative, and a call that is not
paid for has no price or a row that is never refunded. -/
theorem returned_le_charge_iff (s : MjSubmission) :
    (∀ es, Along MjState.step MjState.Settles s.initial es →
        (run MjState.step s.initial es).returned ≤ s.submitted.charge) ↔
      if s.IsPaid then 0 ≤ s.quota else s.quota ≤ 0 ∨ s.IsFinished := by
  have hcondition : (if s.IsPaid then 0 ≤ s.quota else s.quota ≤ 0 ∨ s.IsFinished) ↔
      0 ≤ s.submitted.charge ∧
        (s.quota ≤ s.submitted.charge ∨ ¬MjState.IsRefundable s.submitted.task) := by
    rw [s.submitted_charge, s.isRefundable_iff, not_not]
    split_ifs <;> simp
  rw [hcondition]
  constructor
  · intro h
    refine ⟨h [] trivial, ?_⟩
    by_contra hnot
    simp only [not_or, not_not] at hnot
    obtain ⟨hcharge, hrefundable⟩ := hnot
    have hnonneg : 0 ≤ s.submitted.charge := h [] trivial
    obtain ⟨halong, hreturned⟩ := failureRun_returned hrefundable (by omega)
    have hle := h _ halong
    omega
  · rintro ⟨hnonneg, hpaid | hnever⟩ es hes
    · have honce := Along.invariant (fun _ _ h hok => h.step hok) s.initial_refundedOnce hes
      have hle := honce.returned_le
      omega
    · have hnone := Along.invariant (fun _ _ h hok => MjState.NeverRefunded.step h hok)
        (MjSubmission.initial_neverRefunded hnever) hes
      rw [hnone.returned]
      exact hnonneg

/-- A paid call that fails once, with two passes on the row of which one comes late. -/
theorem returned_le_charge_paid :
    (run MjState.step
        (MjSubmission.initial
          { action := .imagine, quota := 500, response := { code := 1, result := "17" } })
        [.load, .load, .answer 0 0 (failureAnswer "17"), .answer 1 0 (failureAnswer "17"),
          .increaseUserQuota 0, .increaseUserQuota 1]).returned ≤ 500 :=
  (returned_le_charge_iff
    { action := .imagine, quota := 500, response := { code := 1, result := "17" } }).mpr
    (by decide) _ (by decide)

/-- The queue is full, so nothing is paid, and the price is given back when the task is polled. A
paid task that fails while its status stays is refunded by every pass that has loaded it. -/
theorem returned_exceeds_charge :
    (∃ (s : MjSubmission) (es : List MjEvent), s.submitted.charge = 0 ∧
        (run MjState.step s.initial es).returned = 500) ∧
      ∃ (s : MjSubmission) (es : List MjEvent), s.submitted.charge = 500 ∧
        (run MjState.step s.initial es).returned = 1000 := by
  refine ⟨⟨{ action := .imagine, quota := 500, response := { code := 23, result := "17" } },
    failureRun "17", by decide, by decide⟩, ?_⟩
  refine ⟨{ action := .imagine, quota := 500, response := { code := 1, result := "17" } },
    [.load, .answer 0 0 { mjId := "17", status := "IN_PROGRESS", progress := "10%" }, .load, .load,
      .answer 1 0
        { mjId := "17", status := "IN_PROGRESS", progress := "20%", failReason := "banned prompt" },
      .answer 2 0
        { mjId := "17", status := "IN_PROGRESS", progress := "30%", failReason := "banned image" },
      .increaseUserQuota 1, .increaseUserQuota 2],
    by decide, by decide⟩

end XinghaiApi
