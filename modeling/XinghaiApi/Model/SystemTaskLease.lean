import XinghaiApi.Model.SystemTask

/-!
# Leases of running tasks

A running task is freed through its lock row: once the lease has run out, expiring the stale locks
fails the task. A running task without a lock row is out of reach, and its active key keeps every
other task of the type out. A claim writes the lock and the task in two statements, so others may
drop the lock in between. This file says what the statements must find so that no running task loses
its lock.
-/

namespace XinghaiApi

open Machine SystemTaskDB SystemTaskCall Keyed List

variable {task : SystemTask}

/-! ### Running tasks and lock rows -/

variable {fails : Bool} {lock : SystemTaskLock}

namespace SystemTaskDB

variable {db db' : SystemTaskDB} {taskId x taskType lockedBy payload state result error : String}
  {f : SystemTask → SystemTask} {hkey : ∀ t, (f t).activeKey = t.activeKey ∨ (f t).activeKey = none}
  {hid : ∀ t, (f t).taskId = t.taskId} {now lockUntil : ℤ} {outcome : SystemTaskOutcome}
  {lock : SystemTaskLock}

def Running (db : SystemTaskDB) (taskId : String) : Prop :=
  ∃ task ∈ db.tasks.rows, task.taskId = taskId ∧ task.status = .running

instance (db : SystemTaskDB) (taskId : String) : Decidable (db.Running taskId) :=
  inferInstanceAs (Decidable (∃ task ∈ db.tasks.rows, _))

def Locked (db : SystemTaskDB) (taskId : String) : Prop :=
  ∃ lock ∈ db.locks.rows, lock.taskId = taskId

instance (db : SystemTaskDB) (taskId : String) : Decidable (db.Locked taskId) :=
  inferInstanceAs (Decidable (∃ lock ∈ db.locks.rows, _))

/-- There is a lock row that a release would delete. -/
def LockedBy (db : SystemTaskDB) (taskId lockedBy : String) : Prop :=
  ∃ lock ∈ db.locks.rows, lock.taskId = taskId ∧ lock.lockedBy = lockedBy

instance (db : SystemTaskDB) (taskId lockedBy : String) : Decidable (db.LockedBy taskId lockedBy) :=
  inferInstanceAs (Decidable (∃ lock ∈ db.locks.rows, _))

/-- The lock row is still there as it was read, and has expired. -/
def Expired (db : SystemTaskDB) (lock : SystemTaskLock) (now : ℤ) : Prop :=
  ∃ l ∈ db.locks.rows, l.type = lock.type ∧ l.taskId = lock.taskId ∧
    l.lockedBy = lock.lockedBy ∧ l.lockedUntil < now

instance (db : SystemTaskDB) (lock : SystemTaskLock) (now : ℤ) : Decidable (db.Expired lock now) :=
  inferInstanceAs (Decidable (∃ l ∈ db.locks.rows, _))

lemma running_congr (h : db'.tasks = db.tasks) : db'.Running x ↔ db.Running x := by
  rw [Running, Running, h]

lemma not_running_of_not_active (hmem : task ∈ db.tasks) (hended : ¬ task.Active) :
    ¬ db.Running task.taskId := by
  rintro ⟨task', hmem', hid, hrunning⟩
  rw [db.taskId_unique task' hmem' task hmem hid] at hrunning
  exact hended (Or.inr hrunning)

lemma running_updateTasks {p : SystemTask → Bool} (h : (db.updateTasks p f hid hkey).Running x) :
    ∃ task ∈ db.tasks, task.taskId = x ∧
      (if p task then (f task).status else task.status) = .running := by
  obtain ⟨task', hmem', rfl, hrunning⟩ := h
  obtain ⟨task, hmem, rfl⟩ := Table.mem_modifyWhere.mp hmem'
  refine ⟨task, hmem, ?_⟩
  split_ifs with hp
  · rw [if_pos hp] at hrunning
    exact ⟨(hid task).symm, hrunning⟩
  · rw [if_neg hp] at hrunning
    exact ⟨rfl, hrunning⟩

lemma running_markRunning {id : ℤ} {runnerId : String}
    (h : (db.markRunning id taskType runnerId now).Running x) :
    db.Running x ∨ ∃ task ∈ db.tasks, task.id = id ∧ task.taskId = x := by
  obtain ⟨task, hmem, hx, hrunning⟩ := running_updateTasks h
  split_ifs at hrunning with hp
  · simp only [claimable, decide_eq_true_eq] at hp
    exact Or.inr ⟨task, hmem, hp.1, hx⟩
  · exact Or.inl ⟨task, hmem, hx, hrunning⟩

lemma running_markLeaseExpired
    (h : (db.markSystemTaskLeaseExpired taskId now).Running x) : db.Running x ∧ x ≠ taskId := by
  obtain ⟨task, hmem, rfl, hrunning⟩ := running_updateTasks h
  split_ifs at hrunning with hp
  · simp [SystemTask.leaseExpired] at hrunning
  · refine ⟨⟨task, hmem, rfl, hrunning⟩, ?_⟩
    intro hid
    exact hp (by simp [hid, hrunning])

/-- A statement that writes no lock and starts no task. -/
structure Quiet (db db' : SystemTaskDB) : Prop where
  write : TaskWrite db.tasks db'.tasks
  locks : db'.locks = db.locks
  running : ∀ x, db'.Running x → db.Running x

lemma quiet_createSystemTask
    (h : db.createSystemTask taskId taskType payload state now = .ok db') : Quiet db db' := by
  have hwrite := taskWrite_createSystemTask h
  simp only [createSystemTask, insertTask] at h
  split_ifs at h
  obtain rfl := Except.ok.inj h
  refine ⟨hwrite, rfl, ?_⟩
  rintro x ⟨task, hmem, hx, hrunning⟩
  rcases Table.mem_insert.mp hmem with hmem | rfl
  · exact ⟨task, hmem, hx, hrunning⟩
  · simp at hrunning

/-- The tasks that are written were running. -/
lemma running_of_updateTasks_writable
    (h : (db.updateTasks (db.writable taskId lockedBy now) f hid hkey).Running x) :
    db.Running x := by
  obtain ⟨task, hmem, hx, hrunning⟩ := running_updateTasks h
  refine ⟨task, hmem, hx, ?_⟩
  split_ifs at hrunning with hp
  · exact running_of_writable hp
  · exact hrunning

lemma quiet_updateSystemTaskState
    (h : db.updateSystemTaskState taskId lockedBy state now = .ok db') : Quiet db db' := by
  have hwrite := taskWrite_updateSystemTaskState h
  simp only [updateSystemTaskState] at h
  split_ifs at h
  obtain rfl := Except.ok.inj h
  exact ⟨hwrite, rfl, fun _ => running_of_updateTasks_writable⟩

lemma quiet_finishSystemTask
    (h : db.finishSystemTask taskId lockedBy outcome.status result error now = .ok db') :
    Quiet db db' := by
  have hwrite := taskWrite_finishSystemTask h
  simp only [finishSystemTask] at h
  split_ifs at h
  obtain rfl := Except.ok.inj h
  exact ⟨hwrite, rfl, fun _ => running_of_updateTasks_writable⟩

lemma exists_ended_finishSystemTask
    (hfinish : db.finishSystemTask taskId lockedBy outcome.status result error now = .ok db') :
    ∃ task ∈ db'.tasks, task.taskId = taskId ∧ ¬ task.Active := by
  simp only [finishSystemTask] at hfinish
  split_ifs at hfinish with hany
  obtain rfl := Except.ok.inj hfinish
  obtain ⟨task, hmem, hp⟩ := any_eq_true.mp hany
  refine ⟨_, Table.mem_modifyWhere.mpr ⟨task, hmem, rfl⟩, ?_⟩
  rw [if_pos hp]
  simp only [writable, decide_eq_true_eq] at hp
  refine ⟨hp.1, ?_⟩
  cases outcome <;>
    simp [SystemTask.Active, SystemTask.finished, SystemTaskOutcome.status]

/-! ### What the statements leave of a lock -/

lemma locked_releaseSystemTaskLock (h : db.Locked x)
    (hkeeps : db.LockedBy taskId lockedBy → x ≠ taskId) :
    (db.releaseSystemTaskLock taskId lockedBy).Locked x := by
  obtain ⟨lock, hlock, rfl⟩ := h
  refine ⟨lock, mem_deleteWhere.mpr ⟨hlock, ?_⟩, rfl⟩
  simp only [decide_eq_false_iff_not]
  rintro ⟨hid, hby⟩
  exact hkeeps ⟨lock, hlock, hid, hby⟩ hid

lemma locked_deleteExpired (h : db.Locked x)
    (hkeeps : db.Expired lock now → x ≠ lock.taskId) : (db.deleteExpired lock now).Locked x := by
  obtain ⟨lock', hlock', rfl⟩ := h
  refine ⟨lock', mem_deleteWhere.mpr ⟨hlock', ?_⟩, rfl⟩
  simp only [decide_eq_false_iff_not]
  intro hdeleted
  exact hkeeps ⟨lock', hlock', hdeleted⟩ hdeleted.2.1

lemma mem_takeLock :
    lock ∈ (db.takeLock taskType taskId lockedBy now lockUntil).locks ↔ ∃ lock₀ ∈ db.locks,
      (if lock₀.type = taskType ∧ lock₀.lockedUntil < now
        then lock₀.takenBy taskId lockedBy now lockUntil else lock₀) = lock := by
  simp [takeLock, mem_def, updateWhere]

/-- A takeover leaves a lock, or overwrites an expired one of its type by one of another task. -/
lemma locked_takeLock (hlock : lock ∈ db.locks) :
    (db.takeLock taskType taskId lockedBy now lockUntil).Locked lock.taskId ∨
      (lock.type = taskType ∧ lock.lockedUntil < now) ∧ lock.taskId ≠ taskId := by
  by_cases htaken : lock.type = taskType ∧ lock.lockedUntil < now
  · by_cases hown : lock.taskId = taskId
    · exact Or.inl ⟨_, mem_takeLock.mpr ⟨lock, hlock, if_pos htaken⟩, hown.symm⟩
    · exact Or.inr ⟨htaken, hown⟩
  · exact Or.inl ⟨lock, mem_takeLock.mpr ⟨lock, hlock, if_neg htaken⟩, rfl⟩

section

variable (hrenew : db.renewSystemTaskLock taskId lockedBy now lockUntil = .ok db')

include hrenew

lemma rows_renewSystemTaskLock :
    ∃ f : SystemTaskLock → SystemTaskLock, db'.locks.rows = db.locks.rows.map f ∧
      ∀ lock, (f lock).taskId = lock.taskId ∧ (f lock).type = lock.type := by
  simp only [renewSystemTaskLock] at hrenew
  split_ifs at hrenew
  obtain rfl := Except.ok.inj hrenew
  refine ⟨_, rfl, ?_⟩
  intro lock
  split_ifs <;> exact ⟨rfl, rfl⟩

lemma locked_renewSystemTaskLock (h : db.Locked x) : db'.Locked x := by
  obtain ⟨f, hrows, hf⟩ := rows_renewSystemTaskLock hrenew
  obtain ⟨lock, hlock, rfl⟩ := h
  refine ⟨f lock, ?_, (hf lock).1⟩
  rw [hrows]
  exact mem_map_of_mem hlock

end

end SystemTaskDB

/-! ### What the calls know -/

namespace SystemTaskCall

variable {call : SystemTaskCall} {db : SystemTaskDB} {c : SystemTaskClaim} {x : String}

/-- A claim has read its task, and a call that has finished a task has ended it. -/
def Known (tasks : Table SystemTask) : SystemTaskCall → Prop
  | .claim c _       => ∃ task ∈ tasks,
      task.id = c.id ∧ task.taskId = c.taskId ∧ task.type = c.taskType
  | .finish taskId _ => ∃ task ∈ tasks, task.taskId = taskId ∧ ¬ task.Active
  | _                => True

lemma Known.of_taskWrite {tasks tasks' : Table SystemTask} (h : call.Known tasks)
    (hwrite : TaskWrite tasks tasks') : call.Known tasks' := by
  cases call with
  | claim c phase =>
    obtain ⟨task, hmem, hid, htaskId, htype⟩ := h
    obtain ⟨task', hmem', hid', htaskId', htype'⟩ := hwrite.exists_mem hmem
    exact ⟨task', hmem', hid'.trans hid, htaskId'.trans htaskId, htype'.trans htype⟩
  | finish taskId lockedBy =>
    obtain ⟨task, hmem, hid, hended⟩ := h
    exact ⟨task, hwrite.mem_of_not_active hmem hended, hid, hended⟩
  | expire | expireDelete | returned => trivial

lemma known_expireNext (tasks : Table SystemTask) (now : ℤ) (locks : List SystemTaskLock) :
    (expireNext now locks).Known tasks := by
  cases locks <;> trivial

lemma known_acquired {tasks : Table SystemTask} {phase : ClaimPhase}
    (h : (claim c phase).Known tasks) (expiredTaskId : String) :
    (acquired c expiredTaskId).Known tasks := by
  unfold acquired
  split_ifs <;> exact h

/-- A call moves to a phase of the same claim, or returns. -/
lemma Known.next (h : call.Known db.tasks) (clock : ℤ) (fails : Bool) :
    (call.next clock fails db).2.Known db.tasks := by
  apply next_cases (P := fun _ call' => call'.Known db.tasks)
  case waiting =>
    rintro c phase phase' rfl -
    exact h
  case inserted =>
    rintro c rfl
    exact known_acquired h ""
  case taken =>
    rintro c existing rfl -
    exact known_acquired h existing.taskId
  case unmarked =>
    rintro c taskId rfl -
    exact h
  case expired =>
    rintro c taskId rfl
    exact h
  case running =>
    rintro c rfl - -
    exact h
  case deleted => exact fun now lock rest _ _ => known_expireNext _ _ _
  all_goals
    intros
    trivial

/-- The locks that a statement leaves are old ones, or that of the claim. -/
lemma lock_of_mem_next {clock : ℤ} (h : lock ∈ (call.next clock fails db).1.locks) :
    lock ∈ db.locks ∨ ∃ c phase, call = .claim c phase ∧ lock.taskId = c.taskId ∧
      lock.type = c.taskType := by
  revert h
  apply next_cases (P := fun db' _ => lock ∈ db'.locks → lock ∈ db.locks ∨ ∃ c phase,
    call = .claim c phase ∧ lock.taskId = c.taskId ∧ lock.type = c.taskType)
  case inserted =>
    rintro c rfl h
    rcases mem_insertNew h with h | rfl
    · exact Or.inl h
    · exact Or.inr ⟨c, _, rfl, rfl, rfl⟩
  case taken =>
    rintro c existing rfl - h
    obtain ⟨lock₀, hlock₀, rfl⟩ := mem_takeLock.mp h
    split_ifs with hp
    · exact Or.inr ⟨c, _, rfl, rfl, hp.1⟩
    · exact Or.inl hlock₀
  case released => exact fun c r _ _ h => Or.inl (mem_deleteWhere.mp h).1
  case finished => exact fun taskId lockedBy _ h => Or.inl (mem_deleteWhere.mp h).1
  case deleted => exact fun now lock rest _ _ h => Or.inl (mem_deleteWhere.mp h).1
  all_goals
    intros
    exact Or.inl ‹_›

/-! ### What a call must find -/

/-- The condition of the next statement, on the state before it. -/
def Keeps (fails : Bool) (db : SystemTaskDB) : SystemTaskCall → Prop
  -- the lock that is taken over is the one that was read, if its task is still running
  | .claim c (.takeLock existing) => fails = false →
      ∀ lock ∈ db.locks.rows, lock.type = c.taskType → lock.lockedUntil < c.now →
        db.Running lock.taskId →
        lock.taskId = c.taskId ∨ lock.taskId = existing.taskId ∧ existing.taskId ≠ ""
  | .claim _ (.markExpired taskId) => fails = true → ¬ db.Running taskId
  | .claim c .markRunning =>
      fails = false → db.tasks.rows.any (claimable c.id c.taskType) = true → db.Locked c.taskId
  | .claim c (.release _) =>
      fails = false → db.LockedBy c.taskId c.runnerId → ¬ db.Running c.taskId
  | .expireDelete now lock _ =>
      fails = false → db.Expired lock now → ¬ db.Running lock.taskId
  | _ => True

instance (fails : Bool) (db : SystemTaskDB) : ∀ call, Decidable (Keeps fails db call)
  | .claim c phase => by
    cases phase <;> unfold Keeps <;> first | exact instDecidableForall | infer_instance
  | .finish _ _ | .expire _ _ _ | .returned _ => .isTrue trivial
  | .expireDelete _ lock _ => inferInstanceAs (Decidable (_ = false → _ → ¬ db.Running lock.taskId))

def Returned : SystemTaskCall → Prop
  | .returned _ => True
  | _           => False

instance : ∀ call, Decidable (Returned call)
  | .returned _ => .isTrue trivial
  | .claim _ _ | .finish _ _ | .expire _ _ _ | .expireDelete _ _ _ => .isFalse id

/-- The call is about to fail the task. -/
def Covers (call : SystemTaskCall) (taskId : String) : Prop :=
  ∃ c, call = .claim c (.markExpired taskId)

@[simp] lemma covers_markExpired {taskId : String} :
    (claim c (.markExpired taskId)).Covers x ↔ taskId = x := by
  simp [Covers]

/-- A statement that finds what it must leaves each running task with a lock row, or with a call
that is about to fail it. `Q` stands for what the other calls are about to do. -/
lemma locked_or_covers_next {clock : ℤ} {Q : Prop} (hknown : call.Known db.tasks)
    (hkeeps : call.Keeps fails db) (h : db.Running x → db.Locked x ∨ call.Covers x ∨ Q)
    (hx : (call.next clock fails db).1.Running x) :
    (call.next clock fails db).1.Locked x ∨ (call.next clock fails db).2.Covers x ∨ Q := by
  -- only a claim that fails the task of a lock it has taken over covers anything
  have hkept : (∀ c taskId, call ≠ .claim c (.markExpired taskId)) → db.Running x →
      ∀ call' : SystemTaskCall, db.Locked x ∨ call'.Covers x ∨ Q := by
    intro hcall hrunning call'
    rcases h hrunning with h | ⟨c, rfl⟩ | h
    · exact Or.inl h
    · exact absurd rfl (hcall c x)
    · exact Or.inr (Or.inr h)
  revert hx
  apply next_cases (P := fun db' call' => db'.Running x → db'.Locked x ∨ call'.Covers x ∨ Q)
  case returned => exact fun r hcall hx => hkept hcall hx _
  case waiting =>
    rintro c phase phase' rfl hphase hx
    exact hkept (by simp [hphase]) hx _
  case inserted =>
    rintro c rfl hx
    refine (hkept (by simp) hx _).imp_left ?_
    rintro ⟨lock, hlock, rfl⟩
    exact ⟨lock, mem_insertNew_of_mem hlock, rfl⟩
  case taken =>
    rintro c existing rfl hmade hx
    have hrunning : db.Running x := hx
    rcases hkept (by simp) hrunning (acquired c existing.taskId) with ⟨lock, hlock, rfl⟩ | hcovers
    · rcases locked_takeLock hlock with hlocked | ⟨⟨htype, huntil⟩, hown⟩
      · exact Or.inl hlocked
      · -- the claim has overwritten the lock, and takes care of its task
        obtain ⟨hid, hne⟩ := (hkeeps hmade lock hlock htype huntil hrunning).resolve_left hown
        rw [← hid] at hne ⊢
        exact Or.inr (Or.inl ⟨_, by rw [acquired, if_pos ⟨hne, hown⟩]⟩)
    · exact Or.inr hcovers
  case unmarked =>
    rintro c taskId rfl hfails hx
    rcases h hx with h | hcovers | h
    · exact Or.inl h
    · rw [covers_markExpired] at hcovers
      subst hcovers
      exact absurd hx (hkeeps hfails)
    · exact Or.inr (Or.inr h)
  case expired =>
    rintro c taskId rfl hx
    obtain ⟨hrunning, hne⟩ := running_markLeaseExpired hx
    rcases h hrunning with h | hcovers | h
    · exact Or.inl h
    · rw [covers_markExpired] at hcovers
      exact absurd hcovers.symm hne
    · exact Or.inr (Or.inr h)
  case running =>
    rintro c rfl hmade hany hx
    rcases running_markRunning hx with hrunning | ⟨task, hmem, hid, rfl⟩
    · exact hkept (by simp) hrunning _
    · obtain ⟨task', hmem', hid', htaskId, -⟩ := hknown
      rw [Table.eq_of_key_eq hmem hmem' (hid.trans hid'.symm), htaskId]
      exact Or.inl (hkeeps hmade hany)
  case released =>
    rintro c r rfl hmade hx
    refine (hkept (by simp) hx _).imp_left fun hlocked => ?_
    apply locked_releaseSystemTaskLock hlocked
    rintro hby rfl
    exact hkeeps hmade hby hx
  case finished =>
    rintro taskId lockedBy rfl hx
    refine (hkept (by simp) hx _).imp_left fun hlocked => ?_
    apply locked_releaseSystemTaskLock hlocked
    rintro - rfl
    obtain ⟨task, hmem, rfl, hended⟩ := hknown
    exact not_running_of_not_active hmem hended hx
  case marked =>
    rintro now lock rest rfl hx
    exact hkept (by simp) (running_markLeaseExpired hx).1 _
  case deleted =>
    rintro now lock rest rfl hmade hx
    refine (hkept (by simp) hx _).imp_left fun hlocked => ?_
    apply locked_deleteExpired hlocked
    rintro hexpired rfl
    exact hkeeps hmade hexpired hx

end SystemTaskCall

namespace SystemTaskState

variable {s : SystemTaskState} {db : SystemTaskDB} {call : SystemTaskCall}

def Idle (s : SystemTaskState) : Prop := ∀ call ∈ s.calls, call.Returned

instance (s : SystemTaskState) : Decidable s.Idle :=
  inferInstanceAs (Decidable (∀ call ∈ s.calls, _))

/-- The condition of a step, on the state before it. -/
def Keeps (s : SystemTaskState) : SystemTaskEvent → Prop
  | .release taskId lockedBy => s.db.LockedBy taskId lockedBy → ¬ s.db.Running taskId
  | .next i _ fails          => ∀ call ∈ s.calls[i]?, call.Keeps fails s.db
  | _                        => True

instance (s : SystemTaskState) : ∀ e, Decidable (s.Keeps e)
  | .release _ _ => inferInstanceAs (Decidable (_ → _))
  | .next _ _ _  => inferInstanceAs (Decidable (∀ call ∈ s.calls[_]?, _))
  | .create _ _ _ _ _ | .claim _ _ _ _ _ | .renew _ _ _ _ | .updateState _ _ _ _
  | .finish _ _ _ _ _ _ | .expire _ => .isTrue trivial

/-- A lock row carries the task, or a call is about to fail it. -/
def Covered (s : SystemTaskState) (taskId : String) : Prop :=
  s.db.Locked taskId ∨ ∃ call ∈ s.calls, call.Covers taskId

/-- What holds between statements: the calls know their tasks, each lock carries a task of its type,
and each running task is covered. -/
structure Leased (s : SystemTaskState) : Prop where
  calls : ∀ call ∈ s.calls, call.Known s.db.tasks
  locks : ∀ lock ∈ s.db.locks, ∃ task ∈ s.db.tasks,
    task.taskId = lock.taskId ∧ task.type = lock.type
  running : ∀ x, s.db.Running x → s.Covered x

lemma leased_init : Leased ⟨.empty, []⟩ where
  calls := by simp
  locks _ h := absurd h not_mem_nil
  running _ h := by
    obtain ⟨task, hmem, -⟩ := h
    exact absurd hmem not_mem_nil

lemma Idle.locked_of_covered (hidle : s.Idle) {x : String} (h : s.Covered x) : s.db.Locked x := by
  rcases h with h | ⟨call, hcall, c, rfl⟩
  · exact h
  · exact absurd (hidle _ hcall) id

lemma calls_known_begin (hwrite : TaskWrite s.db.tasks db.tasks) (h : s.Leased)
    (hcall : call.Known db.tasks) :
    ∀ x ∈ ({ s with db := db }.begin call).calls, x.Known db.tasks := by
  intro x hx
  rcases mem_append.mp hx with hx | hx
  · exact (h.calls x hx).of_taskWrite hwrite
  · rw [mem_singleton.mp hx]
    exact hcall

/-- A call that starts, with a first statement that leaves the locks with their tasks. -/
lemma Leased.begin (h : s.Leased)
    (hwrite : TaskWrite s.db.tasks db.tasks) (hlocks : ∀ lock ∈ db.locks, ∃ lock₀ ∈ s.db.locks,
      lock₀.taskId = lock.taskId ∧ lock₀.type = lock.type)
    (hrunning : ∀ x, db.Running x → s.db.Running x)
    (hlocked : ∀ x, db.Running x → s.db.Locked x → db.Locked x) (hcall : call.Known db.tasks) :
    ({ s with db := db }.begin call).Leased where
  calls := calls_known_begin hwrite h hcall
  locks lock hlock := by
    obtain ⟨lock₀, hlock₀, hid, htype⟩ := hlocks lock hlock
    obtain ⟨task, hmem, hid', htype'⟩ := h.locks lock₀ hlock₀
    obtain ⟨task', hmem', -, hid'', htype''⟩ := hwrite.exists_mem hmem
    exact ⟨task', hmem', by rw [hid'', hid', hid], by rw [htype'', htype', htype]⟩
  running x hx := by
    rcases h.running x (hrunning x hx) with hcov | ⟨other, hother, hcovers⟩
    · exact Or.inl (hlocked x hx hcov)
    · exact Or.inr ⟨other, mem_append_left _ hother, hcovers⟩

/-- A call that starts, with a first statement that writes no lock. -/
lemma Leased.begin_quiet (h : s.Leased) (hquiet : SystemTaskDB.Quiet s.db db)
    (hcall : call.Known db.tasks) : ({ s with db := db }.begin call).Leased := by
  apply h.begin hquiet.write _ hquiet.running _ hcall
  · intro lock hlock
    rw [hquiet.locks] at hlock
    exact ⟨lock, hlock, rfl, rfl⟩
  · rintro x - ⟨lock, hlock, hid⟩
    rw [← hquiet.locks] at hlock
    exact ⟨lock, hlock, hid⟩

lemma Leased.next (h : s.Leased) {i : ℕ} (hcall : s.calls[i]? = some call) (clock : ℤ)
    (hkeeps : call.Keeps fails s.db) :
    Leased
      { db := (call.next clock fails s.db).1
        calls := s.calls.set i (call.next clock fails s.db).2 } := by
  have hknown := h.calls call (mem_of_getElem? hcall)
  have hwrite := call.taskWrite_next clock fails s.db
  refine ⟨?_, ?_, ?_⟩
  · apply Pool.forall_mem_set
    · intro other hother
      exact (h.calls other hother).of_taskWrite hwrite
    · exact (hknown.next clock fails).of_taskWrite hwrite
  · intro lock hlock
    have hold : ∃ task ∈ s.db.tasks, task.taskId = lock.taskId ∧ task.type = lock.type := by
      rcases lock_of_mem_next hlock with hlock | ⟨c, phase, rfl, hid, htype⟩
      · exact h.locks lock hlock
      · obtain ⟨task, hmem, -, hid', htype'⟩ := hknown
        exact ⟨task, hmem, hid'.trans hid.symm, htype'.trans htype.symm⟩
    obtain ⟨task, hmem, hid, htype⟩ := hold
    obtain ⟨task', hmem', -, hid', htype'⟩ := hwrite.exists_mem hmem
    exact ⟨task', hmem', hid'.trans hid, htype'.trans htype⟩
  · intro x hx
    unfold Covered
    rw [Pool.exists_mem_set_iff hcall]
    apply locked_or_covers_next hknown hkeeps _ hx
    intro hrunning
    have hcov := h.running x hrunning
    unfold Covered at hcov
    rw [Pool.exists_mem_iff hcall] at hcov
    exact hcov

lemma leased_step (s : SystemTaskState) (e : SystemTaskEvent) (h : s.Leased) (hkeeps : s.Keeps e) :
    (s.step e).Leased := by
  have hbegin : ∀ {call : SystemTaskCall}, call.Known s.db.tasks → (s.begin call).Leased :=
    h.begin_quiet ⟨.none, rfl, fun _ => id⟩
  cases e with
  | create taskId taskType payload state now =>
    simp only [step, call]
    split
    next => exact hbegin trivial
    next db hdb => exact h.begin_quiet (quiet_createSystemTask hdb) trivial
  | claim id taskType runnerId now lockUntil =>
    simp only [step]
    split
    next => exact hbegin trivial
    next task htask =>
      obtain ⟨hmem, hclaimable⟩ := Table.findBy_eq_some htask
      simp only [claimable, decide_eq_true_eq] at hclaimable
      exact hbegin ⟨task, hmem, hclaimable.1, rfl, hclaimable.2.1⟩
  | renew taskId lockedBy now lockUntil =>
    simp only [step, call]
    split
    next => exact hbegin trivial
    next db hdb =>
      have htasks := tasks_renewSystemTaskLock hdb
      refine h.begin (htasks ▸ .none) ?_ (fun x => (running_congr htasks).mp)
        (fun x _ => locked_renewSystemTaskLock hdb) trivial
      intro lock hlock
      obtain ⟨f, hrows, hf⟩ := rows_renewSystemTaskLock hdb
      rw [mem_def, hrows] at hlock
      obtain ⟨lock₀, hlock₀, rfl⟩ := mem_map.mp hlock
      exact ⟨lock₀, hlock₀, (hf lock₀).1.symm, (hf lock₀).2.symm⟩
  | updateState taskId lockedBy state now =>
    simp only [step, call]
    split
    next => exact hbegin trivial
    next db hdb => exact h.begin_quiet (quiet_updateSystemTaskState hdb) trivial
  | finish taskId lockedBy outcome result error now =>
    simp only [step]
    split
    next => exact hbegin trivial
    next db hdb =>
      exact h.begin_quiet (quiet_finishSystemTask hdb) (exists_ended_finishSystemTask hdb)
  | release taskId lockedBy =>
    refine h.begin .none ?_ (fun _ => id) ?_ trivial
    · intro lock hlock
      exact ⟨lock, (mem_deleteWhere.mp hlock).1, rfl, rfl⟩
    · intro x hx hlocked
      apply locked_releaseSystemTaskLock hlocked
      rintro hby rfl
      exact hkeeps hby hx
  | expire now => exact hbegin (known_expireNext _ _ _)
  | next i clock fails =>
    simp only [step]
    split
    next => exact h
    next call hcall => exact h.next hcall clock (hkeeps call hcall)

/-! ### Freeing a type -/

section

variable {now clock : ℤ} {locks : List SystemTaskLock} {db : SystemTaskDB}

/-- What expiring the locks does, if no other call comes in between. -/
def expireAll (now clock : ℤ) (locks : List SystemTaskLock) (db : SystemTaskDB) : SystemTaskDB :=
  locks.foldl
    (fun db lock => (db.markSystemTaskLeaseExpired lock.taskId clock).deleteExpired lock now) db

/-- The call that expires the locks takes two statements for each one. -/
lemma run_expireNext (now clock : ℤ) (calls : List SystemTaskCall) (locks : List SystemTaskLock)
    (db : SystemTaskDB) :
    run step ⟨db, calls ++ [expireNext now locks]⟩
        (List.replicate (2 * locks.length) (.next calls.length clock false)) =
      ⟨expireAll now clock locks db, calls ++ [.returned (.ok none)]⟩ := by
  induction locks generalizing db with
  | nil => rfl
  | cons lock rest ih =>
    rw [length_cons, show 2 * (rest.length + 1) = 2 * rest.length + 1 + 1 from rfl,
      replicate_succ, replicate_succ, run_cons, run_cons]
    have hsteps : ((⟨db, calls ++ [expireNext now (lock :: rest)]⟩ :
          SystemTaskState).step (.next calls.length clock false)).step
          (.next calls.length clock false) =
        ⟨(db.markSystemTaskLeaseExpired lock.taskId clock).deleteExpired lock now,
          calls ++ [expireNext now rest]⟩ := by
      simp [step, expireNext, SystemTaskCall.next]
    rw [hsteps, ih]
    rfl

/-- A task that is still running was running before, and no lock of the list carried it. -/
lemma mem_expireAll_of_running (hmem : task ∈ (expireAll now clock locks db).tasks)
    (hrunning : task.status = .running) :
    task ∈ db.tasks ∧ ∀ lock ∈ locks, lock.taskId ≠ task.taskId := by
  induction locks generalizing db with
  | nil => exact ⟨hmem, by simp⟩
  | cons lock rest ih =>
    obtain ⟨hmem', hrest⟩ := ih hmem
    obtain ⟨task₀, hmem₀, htask⟩ := Table.mem_modifyWhere.mp hmem'
    split_ifs at htask with hp
    · rw [← htask] at hrunning
      simp [SystemTask.leaseExpired] at hrunning
    · subst htask
      refine ⟨hmem₀, forall_mem_cons.mpr ⟨?_, hrest⟩⟩
      intro hid
      exact hp (by simp [hid, hrunning])

/-- A lock that is left was there before, and has not run out if it is in the list. -/
lemma mem_expireAll_locks (hlock : lock ∈ (expireAll now clock locks db).locks) :
    lock ∈ db.locks ∧ (lock ∈ locks → now ≤ lock.lockedUntil) := by
  induction locks generalizing db with
  | nil => exact ⟨hlock, by simp⟩
  | cons first rest ih =>
    obtain ⟨hlock', hrest⟩ := ih hlock
    obtain ⟨hmem, hp⟩ := mem_deleteWhere.mp hlock'
    refine ⟨hmem, ?_⟩
    intro hin
    rcases mem_cons.mp hin with rfl | hin
    · simpa using hp
    · exact hrest hin

end

/-- Once the leases of a type have run out, expiring the stale locks leaves none of its tasks
running and none of its locks. -/
lemma Leased.exists_freed (h : s.Leased) (hidle : s.Idle) {taskType : String} {now : ℤ}
    (hstale : ∀ lock ∈ s.db.locks, lock.type = taskType → lock.lockedUntil < now) (clock : ℤ) :
    ∃ n u, run step s (.expire now :: List.replicate n (.next s.calls.length clock false)) = u ∧
      u.Idle ∧ (∀ task ∈ u.db.tasks, task.type = taskType → task.status ≠ .running) ∧
      u.db.locks.find taskType = none := by
  have hrun := run_expireNext now clock s.calls (s.db.locks.rows.filter (·.lockedUntil < now)) s.db
  refine ⟨_, _, hrun, ?_, ?_, ?_⟩
  · intro call hcall
    rcases mem_append.mp hcall with hcall | hcall
    · exact hidle call hcall
    · rw [mem_singleton.mp hcall]
      trivial
  · intro task hmem htype hrunning
    obtain ⟨hmem', hlocks⟩ := mem_expireAll_of_running hmem hrunning
    obtain ⟨lock, hlock, hid⟩ :=
      hidle.locked_of_covered (h.running task.taskId ⟨task, hmem', rfl, hrunning⟩)
    obtain ⟨task', hmem'', hid', htype'⟩ := h.locks lock hlock
    rw [s.db.taskId_unique task' hmem'' task hmem' (hid'.trans hid), htype] at htype'
    have huntil := hstale lock hlock htype'.symm
    exact hlocks lock (mem_filter.mpr ⟨hlock, by simpa using huntil⟩) hid
  · rw [find_eq_none_iff]
    intro lock hlock htype
    obtain ⟨hmem, hkept⟩ := mem_expireAll_locks hlock
    have huntil := hstale lock hmem htype
    have hle := hkept (mem_filter.mpr ⟨hmem, by simpa using huntil⟩)
    omega

/-- In a run whose statements all find what they must, each running task has its lock row whenever
no call is in progress, and expiring the locks after the lease time frees the type. -/
theorem lease_states (s : SystemTaskState) (hs : s.Leased) (es : List SystemTaskEvent)
    (hes : Along step Keeps s es) : ∀ t ∈ states step s es, t.Idle →
      (∀ task ∈ t.db.tasks, task.status = .running →
        ∃ lock ∈ t.db.locks, lock.taskId = task.taskId) ∧
      ∀ taskType now clock,
        (∀ lock ∈ t.db.locks, lock.type = taskType → lock.lockedUntil < now) →
        ∃ n u, run step t (.expire now :: List.replicate n (.next t.calls.length clock false)) = u ∧
          u.Idle ∧ (∀ task ∈ u.db.tasks, task.type = taskType → task.status ≠ .running) ∧
          u.db.locks.find taskType = none := by
  intro t ht hidle
  have hleased : t.Leased := hes.states_invariant leased_step hs t ht
  constructor
  · intro task hmem hrunning
    exact hidle.locked_of_covered (hleased.running task.taskId ⟨task, hmem, rfl, hrunning⟩)
  · intro taskType now clock hstale
    exact hleased.exists_freed hidle hstale clock

/-- The lease of a task runs out. Between the two statements that expire it, a second node creates
another task and takes the lock over. -/
def takenOverRun : List SystemTaskEvent :=
  [.create "systask_a" "log_cleanup" "" "" 100, .claim 1 "log_cleanup" "runner-a" 100 160,
    .next 1 100 false, .next 1 100 false, .next 1 100 false, .expire 200, .next 2 200 false,
    .create "systask_b" "log_cleanup" "" "" 200, .claim 2 "log_cleanup" "runner-b" 200 260,
    .next 4 200 false, .next 4 200 false, .next 4 200 false, .next 4 200 false, .next 4 200 false,
    .next 4 200 false, .next 2 201 false]

theorem lease_states_takenOverRun :
    ∃ task ∈ (run step ⟨.empty, []⟩ takenOverRun).db.tasks, task.taskId = "systask_b" ∧
      task.status = .running ∧
      ∃ lock ∈ (run step ⟨.empty, []⟩ takenOverRun).db.locks, lock.taskId = task.taskId := by
  have hmem : (⟨2, "systask_b", "log_cleanup", .running, some "log_cleanup", "", "", "", "",
      "runner-b", 200, 200⟩ : SystemTask) ∈ (run step ⟨.empty, []⟩ takenOverRun).db.tasks := by
    decide +kernel
  exact ⟨_, hmem, rfl, rfl, (lease_states ⟨.empty, []⟩ leased_init takenOverRun
    (by decide +kernel) _ (run_mem_states step _ takenOverRun) (by decide +kernel)).1 _ hmem rfl⟩

/-- The lock of a claim runs out before the claim marks its task as running: expiring the locks
finds the task pending and deletes the lock. -/
def lateClaimRun : List SystemTaskEvent :=
  [.create "systask_a" "log_cleanup" "" "" 100, .claim 1 "log_cleanup" "runner-a" 100 160,
    .next 1 100 false, .expire 200, .next 2 200 false, .next 2 200 false, .next 1 201 false,
    .next 1 201 false]

/-- The claim goes on, and leaves a task that runs without a lock. -/
theorem not_locked_lateClaimRun :
    (run step ⟨.empty, []⟩ lateClaimRun).Idle ∧
      ∃ task ∈ (run step ⟨.empty, []⟩ lateClaimRun).db.tasks.rows, task.status = .running ∧
        ¬ ∃ lock ∈ (run step ⟨.empty, []⟩ lateClaimRun).db.locks.rows,
          lock.taskId = task.taskId := by
  decide +kernel

end SystemTaskState

end XinghaiApi
