import XinghaiApi.Lib.Keyed
import XinghaiApi.Lib.Pool
import XinghaiApi.Lib.Run
import XinghaiApi.Lib.Table

/-!
# System tasks

Nodes share the work of system tasks through two tables. A task that is pending or running carries
its type as active key, which is unique. A node that claims a task takes the lock row of the type,
then marks the task as running. The lock is a lease: it is renewed while the task runs, and once it
has run out any node may take it over, or expire it and fail its task.

Each call is a sequence of statements, and the statements of all calls may interleave. A statement
may fail without effect; a call that is never resumed is a node that has died.
-/

namespace XinghaiApi

open Machine Table

/-! ### Rows -/

inductive SystemTaskStatus where
  | pending
  | running
  | succeeded
  | failed
deriving DecidableEq

structure SystemTask where
  id : ℤ
  taskId : String
  type : String
  status : SystemTaskStatus
  activeKey : Option String
  payload : String := ""
  state : String := ""
  result : String := ""
  error : String := ""
  lockedBy : String := ""
  createdAt : ℤ := 0
  updatedAt : ℤ := 0
deriving DecidableEq

structure SystemTaskLock where
  type : String
  taskId : String
  lockedBy : String
  lockedUntil : ℤ
  updatedAt : ℤ
deriving DecidableEq

instance : Row SystemTask where
  key r := r.id
  withKey k r := { r with id := k }
  key_withKey _ _ := rfl
  withKey_key _ := rfl

namespace SystemTaskLock

/-- What a takeover of the lock writes. -/
def takenBy (taskId lockedBy : String) (now lockUntil : ℤ) (lock : SystemTaskLock) :
    SystemTaskLock :=
  { lock with taskId := taskId, lockedBy := lockedBy, lockedUntil := lockUntil, updatedAt := now }

def renewed (now lockUntil : ℤ) (lock : SystemTaskLock) : SystemTaskLock :=
  { lock with lockedUntil := lockUntil, updatedAt := now }

end SystemTaskLock

namespace SystemTask

def Active (task : SystemTask) : Prop := task.status = .pending ∨ task.status = .running

instance (task : SystemTask) : Decidable task.Active := inferInstanceAs (Decidable (_ ∨ _))

def claimed (runnerId : String) (now : ℤ) (task : SystemTask) : SystemTask :=
  { task with status := .running, lockedBy := runnerId, updatedAt := now }

def leaseExpired (now : ℤ) (task : SystemTask) : SystemTask :=
  { task with
    status := .failed
    activeKey := none
    error := "task lease expired"
    updatedAt := now }

def withState (state : String) (now : ℤ) (task : SystemTask) : SystemTask :=
  { task with state := state, updatedAt := now }

def finished (status : SystemTaskStatus) (result error : String) (now : ℤ) (task : SystemTask) :
    SystemTask :=
  { task with
    status := status
    activeKey := none
    result := result
    error := error
    updatedAt := now }

end SystemTask

/-- The two tables, with their unique indexes. -/
structure SystemTaskDB where
  tasks : Table SystemTask
  locks : Keyed SystemTaskLock.type
  taskId_unique : ∀ a ∈ tasks, ∀ b ∈ tasks, a.taskId = b.taskId → a = b
  activeKey_unique : ∀ a ∈ tasks, ∀ b ∈ tasks,
    a.activeKey ≠ none → a.activeKey = b.activeKey → a = b

open SystemTaskDB

namespace SystemTaskDB

def empty : SystemTaskDB where
  tasks := .empty
  locks := .empty
  taskId_unique := by simp [Table.mem_def, Table.empty]
  activeKey_unique := by simp [Table.mem_def, Table.empty]

/-- A row that the unique indexes admit. -/
def Admits (db : SystemTaskDB) (task : SystemTask) : Prop :=
  ∀ t ∈ db.tasks.rows,
    t.taskId ≠ task.taskId ∧ (task.activeKey = none ∨ t.activeKey ≠ task.activeKey)

instance (db : SystemTaskDB) (task : SystemTask) : Decidable (db.Admits task) :=
  inferInstanceAs (Decidable (∀ t ∈ db.tasks.rows, _))

/-- `INSERT`, refused where a unique index has the key. -/
def insertTask (task : SystemTask) (db : SystemTaskDB) : Option SystemTaskDB :=
  if h : db.Admits task then
    some
      { db with
        tasks := db.tasks.insert task
        taskId_unique := by
          intro a ha b hb heq
          rcases mem_insert.mp ha with ha | rfl <;>
            rcases mem_insert.mp hb with hb | rfl
          · exact db.taskId_unique a ha b hb heq
          · exact absurd heq (h a ha).1
          · exact absurd heq.symm (h b hb).1
          · rfl
        activeKey_unique := by
          intro a ha b hb hne heq
          rcases mem_insert.mp ha with ha | rfl <;>
            rcases mem_insert.mp hb with hb | rfl
          · exact db.activeKey_unique a ha b hb hne heq
          · exact absurd heq ((h a ha).2.resolve_left fun hnone => hne (heq.trans hnone))
          · exact absurd heq.symm ((h b hb).2.resolve_left hne)
          · rfl }
  else none

/-- `UPDATE` of tasks, which leaves the task ids and sets the active key to null if anything. -/
def updateTasks (p : SystemTask → Bool) (f : SystemTask → SystemTask)
    (hid : ∀ t, (f t).taskId = t.taskId)
    (hkey : ∀ t, (f t).activeKey = t.activeKey ∨ (f t).activeKey = none) (db : SystemTaskDB) :
    SystemTaskDB :=
  { db with
    tasks := db.tasks.modifyWhere p f
    taskId_unique := by
      intro a ha b hb heq
      obtain ⟨t, ht, rfl⟩ := mem_modifyWhere.mp ha
      obtain ⟨u, hu, rfl⟩ := mem_modifyWhere.mp hb
      have hsame : ∀ t : SystemTask,
          (if p t then Row.withKey (Row.key t) (f t) else t).taskId = t.taskId := by
        intro r
        split_ifs
        · exact hid r
        · rfl
      rw [hsame, hsame] at heq
      rw [db.taskId_unique t ht u hu heq]
    activeKey_unique := by
      intro a ha b hb hne heq
      obtain ⟨t, ht, rfl⟩ := mem_modifyWhere.mp ha
      obtain ⟨u, hu, rfl⟩ := mem_modifyWhere.mp hb
      have hsame : ∀ t : SystemTask,
          (if p t then Row.withKey (Row.key t) (f t) else t).activeKey ≠ none →
          (if p t then Row.withKey (Row.key t) (f t) else t).activeKey = t.activeKey := by
        intro r hr
        split_ifs at hr ⊢
        · exact (hkey r).resolve_right hr
        · rfl
      have hne' := hne
      rw [heq] at hne'
      rw [hsame t hne, hsame u hne'] at heq
      rw [hsame t hne] at hne
      rw [db.activeKey_unique t ht u hu hne heq] }

/-! ### Statements -/

/-- The `EXISTS` of the guarded updates. -/
def HoldsLock (taskId lockedBy : String) (now : ℤ) (db : SystemTaskDB) : Prop :=
  ∃ lock ∈ db.locks.rows, lock.taskId = taskId ∧ lock.lockedBy = lockedBy ∧ now ≤ lock.lockedUntil

instance (taskId lockedBy : String) (now : ℤ) (db : SystemTaskDB) :
    Decidable (db.HoldsLock taskId lockedBy now) :=
  inferInstanceAs (Decidable (∃ lock ∈ db.locks.rows, _))

/-- The rows that a node may write: its own running task, while it holds the lock. -/
def writable (taskId lockedBy : String) (now : ℤ) (db : SystemTaskDB) (t : SystemTask) : Bool :=
  t.taskId = taskId ∧ t.status = .running ∧ t.lockedBy = lockedBy ∧ db.HoldsLock taskId lockedBy now

def claimable (id : ℤ) (taskType : String) (t : SystemTask) : Bool :=
  t.id = id ∧ t.type = taskType ∧ t.status = .pending

def markRunning (id : ℤ) (taskType runnerId : String) (now : ℤ) (db : SystemTaskDB) :
    SystemTaskDB :=
  db.updateTasks (claimable id taskType) (SystemTask.claimed runnerId now) (fun _ => rfl)
    fun _ => Or.inl rfl

def markSystemTaskLeaseExpired (taskId : String) (now : ℤ) (db : SystemTaskDB) : SystemTaskDB :=
  db.updateTasks (fun t => t.taskId = taskId ∧ t.status = .running) (SystemTask.leaseExpired now)
    (fun _ => rfl) fun _ => Or.inr rfl

def releaseSystemTaskLock (taskId lockedBy : String) (db : SystemTaskDB) : SystemTaskDB :=
  let locks := db.locks.deleteWhere fun lock => lock.taskId = taskId ∧ lock.lockedBy = lockedBy
  { db with locks := locks }

/-- The update of an expired lock by a node that takes it over. -/
def takeLock (taskType taskId lockedBy : String) (now lockUntil : ℤ) (db : SystemTaskDB) :
    SystemTaskDB :=
  let locks := db.locks.updateWhere (fun lock => lock.type = taskType ∧ lock.lockedUntil < now)
    (SystemTaskLock.takenBy taskId lockedBy now lockUntil) fun _ => rfl
  { db with locks := locks }

def deleteExpired (lock : SystemTaskLock) (now : ℤ) (db : SystemTaskDB) : SystemTaskDB :=
  let locks := db.locks.deleteWhere fun l =>
    l.type = lock.type ∧ l.taskId = lock.taskId ∧ l.lockedBy = lock.lockedBy ∧ l.lockedUntil < now
  { db with locks := locks }

end SystemTaskDB

/-! ### Calls -/

inductive SystemTaskError where
  | lockLost
  | database
deriving DecidableEq

def SystemTaskError.text : SystemTaskError → String
  | .lockLost => "system task lock lost"
  | .database => ""

namespace SystemTaskDB

def createSystemTask (taskId taskType payload state : String) (now : ℤ) (db : SystemTaskDB) :
    Except SystemTaskError SystemTaskDB :=
  let task : SystemTask :=
    { id := 0, taskId := taskId, type := taskType, status := .pending, activeKey := some taskType,
      payload := payload, state := state, createdAt := now, updatedAt := now }
  match db.insertTask task with
  | none    => .error .database
  | some db => .ok db

def updateSystemTaskState (taskId lockedBy state : String) (now : ℤ) (db : SystemTaskDB) :
    Except SystemTaskError SystemTaskDB :=
  if db.tasks.rows.any (db.writable taskId lockedBy now) then
    .ok (db.updateTasks (db.writable taskId lockedBy now) (SystemTask.withState state now)
      (fun _ => rfl) fun _ => Or.inl rfl)
  else .error .lockLost

def renewSystemTaskLock (taskId lockedBy : String) (now lockUntil : ℤ) (db : SystemTaskDB) :
    Except SystemTaskError SystemTaskDB :=
  if db.HoldsLock taskId lockedBy now then
    let locks := db.locks.updateWhere
      (fun lock => lock.taskId = taskId ∧ lock.lockedBy = lockedBy ∧ now ≤ lock.lockedUntil)
      (SystemTaskLock.renewed now lockUntil) fun _ => rfl
    .ok { db with locks := locks }
  else .error .lockLost

/-- The update of `FinishSystemTask`. -/
def finishSystemTask (taskId lockedBy : String) (status : SystemTaskStatus) (result error : String)
    (now : ℤ) (db : SystemTaskDB) : Except SystemTaskError SystemTaskDB :=
  if db.tasks.rows.any (db.writable taskId lockedBy now) then
    .ok (db.updateTasks (db.writable taskId lockedBy now)
      (SystemTask.finished status result error now) (fun _ => rfl) fun _ => Or.inr rfl)
  else .error .lockLost

end SystemTaskDB

/-- The arguments of `ClaimSystemTask`, with the task it has found and the time it has read. -/
structure SystemTaskClaim where
  id : ℤ
  taskId : String
  taskType : String
  runnerId : String
  now : ℤ
  lockUntil : ℤ
deriving DecidableEq

def SystemTaskClaim.lock (c : SystemTaskClaim) (clock : ℤ) : SystemTaskLock where
  type := c.taskType
  taskId := c.taskId
  lockedBy := c.runnerId
  lockedUntil := c.lockUntil
  updatedAt := if c.now = 0 then clock else c.now

/-- The statement that a claim makes next. -/
inductive ClaimPhase where
  | insertLock
  | readLock
  | takeLock (existing : SystemTaskLock)
  | markExpired (expiredTaskId : String)
  | markRunning
  | release (r : Except SystemTaskError (Option SystemTask))
  | read

inductive SystemTaskCall where
  | claim (c : SystemTaskClaim) (phase : ClaimPhase)
  /-- has finished the task and has to release its lock -/
  | finish (taskId lockedBy : String)
  /-- has to expire the locks, and has found the first one to fail its task -/
  | expire (now : ℤ) (lock : SystemTaskLock) (rest : List SystemTaskLock)
  /-- has failed the task of the lock and has to delete it -/
  | expireDelete (now : ℤ) (lock : SystemTaskLock) (rest : List SystemTaskLock)
  | returned (r : Except SystemTaskError (Option SystemTask))

namespace SystemTaskCall

/-- The loop over stale locks. -/
def expireNext (now : ℤ) : List SystemTaskLock → SystemTaskCall
  | []           => .returned (.ok none)
  | lock :: rest => .expire now lock rest

/-- What a claim does once it has the lock. -/
def acquired (c : SystemTaskClaim) (expiredTaskId : String) : SystemTaskCall :=
  if expiredTaskId ≠ "" ∧ expiredTaskId ≠ c.taskId then .claim c (.markExpired expiredTaskId)
  else .claim c .markRunning

def nextClaim (c : SystemTaskClaim) (phase : ClaimPhase) (clock : ℤ) (fails : Bool)
    (db : SystemTaskDB) : SystemTaskDB × SystemTaskCall :=
  match phase with
  | .insertLock =>
    if fails ∨ db.locks.find c.taskType ≠ none then (db, .claim c .readLock)
    else ({ db with locks := db.locks.insertNew (c.lock clock) }, acquired c "")
  | .readLock =>
    if fails then (db, .returned (.error .database))
    else
      match db.locks.find c.taskType with
      | none          => (db, .returned (.ok none))
      | some existing =>
        if c.now ≤ existing.lockedUntil then (db, .returned (.ok none))
        else (db, .claim c (.takeLock existing))
  | .takeLock existing =>
    if fails then (db, .returned (.error .database))
    else if db.locks.rows.any fun lock => lock.type = c.taskType ∧ lock.lockedUntil < c.now then
      (db.takeLock c.taskType c.taskId c.runnerId c.now c.lockUntil, acquired c existing.taskId)
    else (db, .returned (.ok none))
  | .markExpired expiredTaskId =>
    if fails then (db, .claim c (.release (.error .database)))
    else (db.markSystemTaskLeaseExpired expiredTaskId clock, .claim c .markRunning)
  | .markRunning =>
    if fails then (db, .claim c (.release (.error .database)))
    else if db.tasks.rows.any (claimable c.id c.taskType) then
      (db.markRunning c.id c.taskType c.runnerId c.now, .claim c .read)
    else (db, .claim c (.release (.ok none)))
  | .release r =>
    if fails then (db, .returned r) else (db.releaseSystemTaskLock c.taskId c.runnerId, .returned r)
  | .read =>
    if fails then (db, .returned (.error .database))
    else
      match db.tasks.find c.id with
      | none      => (db, .returned (.error .database))
      | some task => (db, .returned (.ok (some task)))

/-- The next statement of a call. -/
def next (clock : ℤ) (fails : Bool) (db : SystemTaskDB) :
    SystemTaskCall → SystemTaskDB × SystemTaskCall
  | .claim c phase => nextClaim c phase clock fails db
  | .finish taskId lockedBy =>
    if fails then (db, .returned (.error .database))
    else (db.releaseSystemTaskLock taskId lockedBy, .returned (.ok none))
  | .expire now lock rest =>
    if fails then (db, .returned (.error .database))
    else (db.markSystemTaskLeaseExpired lock.taskId clock, .expireDelete now lock rest)
  | .expireDelete now lock rest =>
    if fails then (db, .returned (.error .database))
    else (db.deleteExpired lock now, expireNext now rest)
  | .returned r => (db, .returned r)

end SystemTaskCall

/-- With what the handlers finish a task. -/
inductive SystemTaskOutcome where
  | succeeded
  | failed
deriving DecidableEq

def SystemTaskOutcome.status : SystemTaskOutcome → SystemTaskStatus
  | .succeeded => .succeeded
  | .failed    => .failed

structure SystemTaskState where
  db : SystemTaskDB
  calls : List SystemTaskCall

inductive SystemTaskEvent where
  | create (taskId taskType payload state : String) (now : ℤ)
  | claim (id : ℤ) (taskType runnerId : String) (now lockUntil : ℤ)
  | renew (taskId lockedBy : String) (now lockUntil : ℤ)
  | updateState (taskId lockedBy state : String) (now : ℤ)
  | finish (taskId lockedBy : String) (outcome : SystemTaskOutcome) (result error : String)
    (now : ℤ)
  | release (taskId lockedBy : String)
  | expire (now : ℤ)
  /-- the `i`-th call makes its next statement -/
  | next (i : ℕ) (clock : ℤ) (fails : Bool)
deriving DecidableEq

namespace SystemTaskState

def begin (call : SystemTaskCall) (s : SystemTaskState) : SystemTaskState :=
  { s with calls := s.calls ++ [call] }

def call (r : Except SystemTaskError SystemTaskDB) (s : SystemTaskState) : SystemTaskState :=
  match r with
  | .error e => s.begin (.returned (.error e))
  | .ok db   => { s with db := db }.begin (.returned (.ok none))

def step (s : SystemTaskState) : SystemTaskEvent → SystemTaskState
  | .create taskId taskType payload state now =>
    s.call (s.db.createSystemTask taskId taskType payload state now)
  | .claim id taskType runnerId now lockUntil =>
    match s.db.tasks.findBy (claimable id taskType) with
    | none      => s.begin (.returned (.ok none))
    | some task =>
      s.begin (.claim ⟨id, task.taskId, taskType, runnerId, now, lockUntil⟩ .insertLock)
  | .renew taskId lockedBy now lockUntil =>
    s.call (s.db.renewSystemTaskLock taskId lockedBy now lockUntil)
  | .updateState taskId lockedBy state now =>
    s.call (s.db.updateSystemTaskState taskId lockedBy state now)
  | .finish taskId lockedBy outcome result error now =>
    match s.db.finishSystemTask taskId lockedBy outcome.status result error now with
    | .error e => s.begin (.returned (.error e))
    | .ok db   => { s with db := db }.begin (.finish taskId lockedBy)
  | .release taskId lockedBy => s.call (.ok (s.db.releaseSystemTaskLock taskId lockedBy))
  | .expire now =>
    s.begin (SystemTaskCall.expireNext now (s.db.locks.rows.filter (·.lockedUntil < now)))
  | .next i clock fails =>
    match s.calls[i]? with
    | none      => s
    | some call =>
      { db := (call.next clock fails s.db).1
        calls := s.calls.set i (call.next clock fails s.db).2 }

end SystemTaskState

/-! ### What a step does to the tasks -/

variable {task : SystemTask}

namespace SystemTask

/-- A write of an active task, which keeps it active with its key, or ends it and takes the key. -/
structure Moves (task task' : SystemTask) : Prop where
  active : task.Active
  taskId_eq : task'.taskId = task.taskId
  type_eq : task'.type = task.type
  key : task'.Active ∧ task'.activeKey = task.activeKey ∨ ¬ task'.Active ∧ task'.activeKey = none

end SystemTask

/-- What one statement can do to the task table. -/
inductive TaskWrite (tasks : Table SystemTask) : Table SystemTask → Prop
  | none : TaskWrite tasks tasks
  | create (task : SystemTask) (hactive : task.Active) (hkey : task.activeKey = some task.type) :
      TaskWrite tasks (tasks.insert task)
  | update (p : SystemTask → Bool) (f : SystemTask → SystemTask)
      (hmoves : ∀ task, p task = true → task.Moves (f task)) :
      TaskWrite tasks (tasks.modifyWhere p f)

namespace SystemTaskDB

variable (db : SystemTaskDB) {taskId lockedBy state : String} {now : ℤ} {db' : SystemTaskDB}

lemma taskWrite_markRunning (id : ℤ) (taskType runnerId : String) (now : ℤ) :
    TaskWrite db.tasks (db.markRunning id taskType runnerId now).tasks := by
  apply TaskWrite.update
  intro task htask
  simp only [claimable, decide_eq_true_eq] at htask
  exact ⟨Or.inl htask.2.2, rfl, rfl, Or.inl ⟨Or.inr rfl, rfl⟩⟩

lemma taskWrite_markLeaseExpired (taskId : String) (now : ℤ) :
    TaskWrite db.tasks (db.markSystemTaskLeaseExpired taskId now).tasks := by
  apply TaskWrite.update
  intro task htask
  simp only [decide_eq_true_eq] at htask
  refine ⟨Or.inr htask.2, rfl, rfl, Or.inr ⟨?_, rfl⟩⟩
  simp [SystemTask.Active, SystemTask.leaseExpired]

lemma running_of_writable {db : SystemTaskDB} (h : db.writable taskId lockedBy now task = true) :
    task.status = .running := by
  simp only [writable, decide_eq_true_eq] at h
  exact h.2.1

variable {db}

lemma taskWrite_createSystemTask {taskType payload : String}
    (h : db.createSystemTask taskId taskType payload state now = .ok db') :
    TaskWrite db.tasks db'.tasks := by
  simp only [createSystemTask, insertTask] at h
  split_ifs at h
  obtain rfl := Except.ok.inj h
  exact .create _ (Or.inl rfl) rfl

lemma taskWrite_updateSystemTaskState
    (h : db.updateSystemTaskState taskId lockedBy state now = .ok db') :
    TaskWrite db.tasks db'.tasks := by
  simp only [updateSystemTaskState] at h
  split_ifs at h
  obtain rfl := Except.ok.inj h
  apply TaskWrite.update
  intro task htask
  have hrunning := running_of_writable htask
  exact ⟨Or.inr hrunning, rfl, rfl, Or.inl ⟨Or.inr hrunning, rfl⟩⟩

lemma taskWrite_finishSystemTask {outcome : SystemTaskOutcome} {result error : String}
    (h : db.finishSystemTask taskId lockedBy outcome.status result error now = .ok db') :
    TaskWrite db.tasks db'.tasks := by
  simp only [finishSystemTask] at h
  split_ifs at h
  obtain rfl := Except.ok.inj h
  apply TaskWrite.update
  intro task htask
  refine ⟨Or.inr (running_of_writable htask), rfl, rfl, Or.inr ⟨?_, rfl⟩⟩
  cases outcome <;>
    simp [SystemTask.Active, SystemTask.finished, SystemTaskOutcome.status]

lemma tasks_renewSystemTaskLock {lockUntil : ℤ}
    (h : db.renewSystemTaskLock taskId lockedBy now lockUntil = .ok db') :
    db'.tasks = db.tasks := by
  simp only [renewSystemTaskLock] at h
  split_ifs at h
  obtain rfl := Except.ok.inj h
  rfl

end SystemTaskDB

namespace SystemTaskCall

/-- A statement writes nothing, or makes the one write of its phase. -/
theorem next_cases {call : SystemTaskCall} {clock : ℤ} {fails : Bool} {db : SystemTaskDB}
    {P : SystemTaskDB → SystemTaskCall → Prop}
    (returned : ∀ r, (∀ c taskId, call ≠ .claim c (.markExpired taskId)) → P db (.returned r))
    (waiting : ∀ c phase phase', call = .claim c phase →
      (∀ taskId, phase ≠ .markExpired taskId) → P db (.claim c phase'))
    (inserted : ∀ c, call = .claim c .insertLock →
      P { db with locks := db.locks.insertNew (c.lock clock) } (acquired c ""))
    (taken : ∀ c existing, call = .claim c (.takeLock existing) → fails = false →
      P (db.takeLock c.taskType c.taskId c.runnerId c.now c.lockUntil) (acquired c existing.taskId))
    (unmarked : ∀ c taskId, call = .claim c (.markExpired taskId) → fails = true →
      P db (.claim c (.release (.error .database))))
    (expired : ∀ c taskId, call = .claim c (.markExpired taskId) →
      P (db.markSystemTaskLeaseExpired taskId clock) (.claim c .markRunning))
    (running : ∀ c, call = .claim c .markRunning → fails = false →
      db.tasks.rows.any (claimable c.id c.taskType) = true →
      P (db.markRunning c.id c.taskType c.runnerId c.now) (.claim c .read))
    (released : ∀ c r, call = .claim c (.release r) → fails = false →
      P (db.releaseSystemTaskLock c.taskId c.runnerId) (.returned r))
    (finished : ∀ taskId lockedBy, call = .finish taskId lockedBy →
      P (db.releaseSystemTaskLock taskId lockedBy) (.returned (.ok none)))
    (marked : ∀ now lock rest, call = .expire now lock rest →
      P (db.markSystemTaskLeaseExpired lock.taskId clock) (.expireDelete now lock rest))
    (deleted : ∀ now lock rest, call = .expireDelete now lock rest → fails = false →
      P (db.deleteExpired lock now) (expireNext now rest)) :
    P (call.next clock fails db).1 (call.next clock fails db).2 := by
  cases call with
  | claim c phase =>
    cases phase <;> simp only [next, nextClaim]
    case insertLock =>
      split_ifs
      · exact waiting c _ _ rfl (by simp)
      · exact inserted c rfl
    case readLock =>
      split_ifs
      · exact returned _ (by simp)
      · split
        · exact returned _ (by simp)
        · split_ifs
          · exact returned _ (by simp)
          · exact waiting c _ _ rfl (by simp)
    case takeLock existing =>
      split_ifs with hfails
      · exact returned _ (by simp)
      · exact taken c existing rfl (by simpa using hfails)
      · exact returned _ (by simp)
    case markExpired taskId =>
      split_ifs with hfails
      · exact unmarked c taskId rfl hfails
      · exact expired c taskId rfl
    case markRunning =>
      split_ifs with hfails hany
      · exact waiting c _ _ rfl (by simp)
      · exact running c rfl (by simpa using hfails) hany
      · exact waiting c _ _ rfl (by simp)
    case release r =>
      split_ifs with hfails
      · exact returned _ (by simp)
      · exact released c r rfl (by simpa using hfails)
    case read =>
      split_ifs
      · exact returned _ (by simp)
      · split <;> exact returned _ (by simp)
  | finish taskId lockedBy =>
    simp only [next]
    split_ifs
    · exact returned _ (by simp)
    · exact finished taskId lockedBy rfl
  | expire now lock rest =>
    simp only [next]
    split_ifs
    · exact returned _ (by simp)
    · exact marked now lock rest rfl
  | expireDelete now lock rest =>
    simp only [next]
    split_ifs with hfails
    · exact returned _ (by simp)
    · exact deleted now lock rest rfl (by simpa using hfails)
  | returned r => exact returned r (by simp)

lemma taskWrite_next (clock : ℤ) (fails : Bool) (db : SystemTaskDB) (call : SystemTaskCall) :
    TaskWrite db.tasks (call.next clock fails db).1.tasks := by
  apply next_cases (P := fun db' _ => TaskWrite db.tasks db'.tasks)
  case expired => exact fun c taskId _ => db.taskWrite_markLeaseExpired _ _
  case running => exact fun c _ _ _ => db.taskWrite_markRunning _ _ _ _
  case marked => exact fun now lock rest _ => db.taskWrite_markLeaseExpired _ _
  all_goals
    intros
    exact .none

end SystemTaskCall

namespace SystemTaskState

@[simp] lemma db_begin (call : SystemTaskCall) (s : SystemTaskState) : (s.begin call).db = s.db :=
  rfl

/-- What any step can do to the tasks. -/
lemma taskWrite_step (s : SystemTaskState) (e : SystemTaskEvent) :
    TaskWrite s.db.tasks (s.step e).db.tasks := by
  cases e with
  | create taskId taskType payload state now =>
    simp only [step, call]
    split
    next => exact .none
    next db hdb => exact taskWrite_createSystemTask hdb
  | claim id taskType runnerId now lockUntil =>
    simp only [step]
    split <;> exact .none
  | renew taskId lockedBy now lockUntil =>
    simp only [step, call]
    split
    next => exact .none
    next db hdb =>
      rw [db_begin, tasks_renewSystemTaskLock hdb]
      exact .none
  | updateState taskId lockedBy state now =>
    simp only [step, call]
    split
    next => exact .none
    next db hdb => exact taskWrite_updateSystemTaskState hdb
  | finish taskId lockedBy outcome result error now =>
    simp only [step]
    split
    next => exact .none
    next db hdb => exact taskWrite_finishSystemTask hdb
  | release taskId lockedBy => exact .none
  | expire now => exact .none
  | next i clock fails =>
    simp only [step]
    split
    next => exact .none
    next call _ => exact call.taskWrite_next clock fails s.db

end SystemTaskState

/-! ### Active keys -/

/-- A task carries its type as active key exactly while it is active. -/
def SystemTask.KeyWf (task : SystemTask) : Prop :=
  (task.Active → task.activeKey = some task.type) ∧ (¬ task.Active → task.activeKey = none)

instance (task : SystemTask) : Decidable task.KeyWf := inferInstanceAs (Decidable (_ ∧ _))

lemma SystemTask.KeyWf.activeKey_ne_none_iff (h : task.KeyWf) :
    task.activeKey ≠ none ↔ task.Active := by
  constructor
  · intro hkey
    by_contra hactive
    exact hkey (h.2 hactive)
  · intro hactive
    simp [h.1 hactive]

lemma SystemTask.Moves.keyWf {task' : SystemTask} (h : task.Moves task') (hwf : task.KeyWf) :
    task'.KeyWf := by
  rcases h.key with ⟨hactive, hkey⟩ | ⟨hactive, hkey⟩
  · refine ⟨fun _ => ?_, absurd hactive⟩
    rw [hkey, hwf.1 h.active, h.type_eq]
  · exact ⟨fun hactive' => absurd hactive' hactive, fun _ => hkey⟩

namespace TaskWrite

variable {tasks tasks' : Table SystemTask}

lemma keyWf (h : TaskWrite tasks tasks') (hwf : tasks.All SystemTask.KeyWf) :
    tasks'.All SystemTask.KeyWf := by
  cases h with
  | none => exact hwf
  | create task hactive hkey => exact hwf.insert ⟨fun _ => hkey, absurd hactive⟩
  | update p f hmoves => exact hwf.modifyWhere fun task htask hp => (hmoves task hp).keyWf htask

/-- No statement writes a task that has ended. -/
lemma mem_of_not_active (h : TaskWrite tasks tasks') (hmem : task ∈ tasks)
    (hended : ¬ task.Active) : task ∈ tasks' := by
  cases h with
  | none => exact hmem
  | create => exact mem_insert.mpr (Or.inl hmem)
  | update p f hmoves =>
    refine mem_modifyWhere.mpr ⟨task, hmem, if_neg ?_⟩
    intro hp
    exact hended (hmoves task hp).active

/-- A task keeps its ids and its type. -/
lemma exists_mem (h : TaskWrite tasks tasks') (hmem : task ∈ tasks) :
    ∃ task' ∈ tasks', task'.id = task.id ∧ task'.taskId = task.taskId ∧ task'.type = task.type := by
  cases h with
  | none => exact ⟨task, hmem, rfl, rfl, rfl⟩
  | create => exact ⟨task, mem_insert.mpr (Or.inl hmem), rfl, rfl, rfl⟩
  | update p f hmoves =>
    refine ⟨_, mem_modifyWhere.mpr ⟨task, hmem, rfl⟩, ?_⟩
    split_ifs with hp
    · exact ⟨rfl, (hmoves task hp).taskId_eq, (hmoves task hp).type_eq⟩
    · exact ⟨rfl, rfl, rfl⟩

end TaskWrite

namespace SystemTaskDB

variable {db : SystemTaskDB}

/-- The unique index on the active key keeps a second active task of a type out. -/
lemma eq_of_active (hwf : db.tasks.All SystemTask.KeyWf) {a b : SystemTask} (ha : a ∈ db.tasks)
    (hb : b ∈ db.tasks) (htype : a.type = b.type) (hactiveA : a.Active) (hactiveB : b.Active) :
    a = b := by
  have hkeyA := (hwf a ha).1 hactiveA
  have hkeyB := (hwf b hb).1 hactiveB
  apply db.activeKey_unique a ha b hb
  · simp [hkeyA]
  · rw [hkeyA, hkeyB, htype]

section

variable {taskId lockedBy : String}
  (hlost : ∀ lock ∈ db.locks, lock.taskId = taskId → lock.lockedBy ≠ lockedBy)

include hlost

lemma writable_of_lost (now : ℤ) (task : SystemTask) :
    db.writable taskId lockedBy now task = false := by
  simp only [writable, decide_eq_false_iff_not]
  rintro ⟨-, -, -, lock, hlock, htask, hby, -⟩
  exact hlost lock hlock htask hby

end

end SystemTaskDB

namespace SystemTaskState

/-- Whatever the interleaving, at most one task of a type is active, the active key is set exactly
for active tasks, an ended task never changes, and without the lock a node neither updates nor
finishes its task. -/
theorem exclusive_states (s : SystemTaskState) (hs : s.db.tasks.All SystemTask.KeyWf)
    (es : List SystemTaskEvent) : ∀ t ∈ states step s es,
      (∀ a ∈ t.db.tasks, ∀ b ∈ t.db.tasks, a.type = b.type → a.Active → b.Active → a = b) ∧
      (∀ a ∈ t.db.tasks, a.activeKey ≠ none ↔ a.Active) ∧
      (∀ a ∈ t.db.tasks, ¬ a.Active → ∀ es', ∀ u ∈ states step t es', a ∈ u.db.tasks) ∧
      ∀ taskId lockedBy,
        (∀ lock ∈ t.db.locks, lock.taskId = taskId → lock.lockedBy ≠ lockedBy) →
        (∀ state now, t.step (.updateState taskId lockedBy state now) =
          t.begin (.returned (.error .lockLost))) ∧
        ∀ outcome result error now, t.step (.finish taskId lockedBy outcome result error now) =
          t.begin (.returned (.error .lockLost)) := by
  intro t ht
  have hwf : t.db.tasks.All SystemTask.KeyWf :=
    states_invariant (I := fun u : SystemTaskState => u.db.tasks.All SystemTask.KeyWf)
      (fun u e => (u.taskWrite_step e).keyWf) hs es t ht
  refine ⟨?_, fun a ha => (hwf a ha).activeKey_ne_none_iff, ?_, ?_⟩
  · intro a ha b hb htype hactiveA hactiveB
    exact eq_of_active hwf ha hb htype hactiveA hactiveB
  · intro a ha hended es'
    exact states_invariant (I := fun u : SystemTaskState => a ∈ u.db.tasks)
      (fun u e hu => (u.taskWrite_step e).mem_of_not_active hu hended) ha es'
  · intro taskId lockedBy hlost
    constructor
    · intro state now
      simp [step, call, updateSystemTaskState, writable_of_lost hlost]
    · intro outcome result error now
      simp [step, finishSystemTask, writable_of_lost hlost]

/-- One node claims a task, a second one fails to create another of its type, and the lease of the
first one expires before it finishes. -/
def expiredRun : List SystemTaskEvent :=
  [.create "systask_a" "log_cleanup" "" "" 100, .claim 1 "log_cleanup" "runner-a" 100 160,
    .next 1 100 false, .next 1 100 false, .next 1 100 false,
    .create "systask_b" "log_cleanup" "" "" 101, .expire 200, .next 3 200 false, .next 3 200 false,
    .finish "systask_a" "runner-a" .succeeded "" "" 201]

theorem exclusive_states_expiredRun :
    ∃ a ∈ (run step ⟨.empty, []⟩ expiredRun).db.tasks,
      a.type = "log_cleanup" ∧ a.status = .failed ∧ a.error = "task lease expired" ∧
      (a.activeKey ≠ none ↔ a.Active) ∧
      (run step ⟨.empty, []⟩ expiredRun).step
          (.finish "systask_a" "runner-a" .succeeded "" "" 201) =
        (run step ⟨.empty, []⟩ expiredRun).begin (.returned (.error .lockLost)) := by
  have h := exclusive_states ⟨.empty, []⟩ (fun _ ha => absurd ha List.not_mem_nil) expiredRun _
    (run_mem_states step _ expiredRun)
  have hmem : ((⟨1, "systask_a", "log_cleanup", .failed, none, "", "", "", "task lease expired",
      "runner-a", 100, 200⟩ : SystemTask)) ∈ (run step ⟨.empty, []⟩ expiredRun).db.tasks := by
    decide +kernel
  exact ⟨_, hmem, rfl, rfl, rfl, h.2.1 _ hmem, (h.2.2.2 _ _ (by decide +kernel)).2 _ _ _ _⟩

end SystemTaskState

end XinghaiApi
