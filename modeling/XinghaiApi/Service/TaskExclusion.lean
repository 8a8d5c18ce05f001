import XinghaiApi.Service.TaskCopies

/-!
# A task is billed once

Pollers and sweeps race for a task. The guarded update decides who bills a video task, as long as
no poll starts from a copy that is finished already: such a poll bills without having won the row. A
Suno task is refunded before its row is written and written without a guard, so there the passes
have to come one after the other.
-/

namespace XinghaiApi

open Machine Pool TaskStatement List

/-- The two bulk updates, which no poll and no sweep makes. -/
def TaskEvent.isBulk : TaskEvent → Bool
  | .missingId _ _ => true
  | .missingChannel _ _ => true
  | _ => false

namespace TaskState

/-- A task in the table, before any pass has seen it. -/
def start (row : Task) (db : DB) : TaskState where
  row := row
  db := db

/-! ### When the steps are in order -/

/-- No pass is about to save the task. -/
def NoSave (s : TaskState) : Prop := ∀ c ∈ s.calls, .save ∉ c.pending

instance (s : TaskState) : Decidable s.NoSave :=
  inferInstanceAs (Decidable (∀ c ∈ s.calls, _))

/-- A video task is polled from copies that are not finished. -/
def VideoOrderly (s : TaskState) : TaskEvent → Prop
  | .video i _ _ _ => ∀ c ∈ s.ready .poll i, c.task.status.isTerminal = false
  | _ => True

/-- The task can be written: it is not finished, and no save of it is under way. -/
def Open (s : TaskState) : Prop := s.NoSave ∧ s.row.isUnfinished = true

instance (s : TaskState) : Decidable s.Open := inferInstanceAs (Decidable (_ ∧ _))

/-- The items that update a Suno task and the sweeps that win its row come while it can be written,
and a save that is under way is made. -/
def SunoOrderly (s : TaskState) : TaskEvent → Prop
  | .suno i item => ∀ c ∈ s.ready .poll i, taskNeedsUpdate c.task item = true → s.Open
  | .timeOut i _ fails =>
    ∀ c ∈ s.ready .sweep i, fails = false ∧ s.row.status = c.task.status → s.Open
  | .statement i fails => ∀ c ∈ s.calls[i]?, c.pending.head? = some .save → fails = false
  | .stop i => ∀ c ∈ s.calls[i]?, .save ∉ c.pending
  | _ => True

instance (s : TaskState) : DecidablePred s.VideoOrderly
  | .video i _ _ _ => inferInstanceAs (Decidable (∀ c ∈ s.ready .poll i, _))
  | .sweep _ | .poll | .timeOut _ _ _ | .missingId _ _ | .missingChannel _ _ | .suno _ _
  | .statement _ _ | .stop _ => .isTrue trivial

instance (s : TaskState) : DecidablePred s.SunoOrderly
  | .suno i _ => inferInstanceAs (Decidable (∀ c ∈ s.ready .poll i, _ → _))
  | .timeOut i _ _ => inferInstanceAs (Decidable (∀ c ∈ s.ready .sweep i, _ → _))
  | .statement i _ => inferInstanceAs (Decidable (∀ c ∈ s.calls[i]?, _))
  | .stop i => inferInstanceAs (Decidable (∀ c ∈ s.calls[i]?, _))
  | .sweep _ | .poll | .missingId _ _ | .missingChannel _ _ | .video _ _ _ _ => .isTrue trivial

/-- The steps of the task are in order, whichever service it is of. -/
def Orderly (s : TaskState) (e : TaskEvent) : Prop :=
  if s.row.platform = .suno then s.SunoOrderly e else s.VideoOrderly e

instance (s : TaskState) (e : TaskEvent) : Decidable (s.Orderly e) :=
  inferInstanceAs (Decidable (if s.row.platform = .suno then _ else _))

/-! ### When a task can no longer be billed -/

variable {s : TaskState} {e : TaskEvent} {i : ℕ}

/-- A Suno task is closed when its row is finished or about to be. -/
def SunoClosed (s : TaskState) : Prop :=
  (∀ c ∈ s.calls, .save ∈ c.pending → c.task.isUnfinished = false) ∧
    (s.row.isUnfinished = false ∨ ∃ c ∈ s.calls, .save ∈ c.pending)

def Closed (s : TaskState) : Prop :=
  if s.row.platform = .suno then s.SunoClosed else s.row.status.isTerminal = true

lemma closed_of_suno (h : s.row.platform = .suno) : s.Closed ↔ s.SunoClosed := by
  simp [Closed, h]

lemma closed_of_not_suno (h : s.row.platform ≠ .suno) :
    s.Closed ↔ s.row.status.isTerminal = true := by
  simp [Closed, h]

/-- What a step in order does: a closed task stays closed, and a billing closes a task that was
open. -/
structure Advance (s s' : TaskState) : Prop where
  closed : s.Closed → s'.Closed
  billings : s'.billings = s.billings ∨ ¬s.Closed ∧ s'.Closed ∧ ∃ b, s'.billings = s.billings ++ [b]

lemma Advance.refl (s : TaskState) : s.Advance s := ⟨id, Or.inl rfl⟩

section

variable {s s' : TaskState} (billing : Option TaskBilling) {c : TaskCall}

/-- The status stays, and nothing is billed. -/
lemma Advance.of_status (hs : s.row.platform ≠ .suno) (hs' : s'.row.platform ≠ .suno)
    (hstatus : s'.row.status = s.row.status) (hbillings : s'.billings = s.billings) :
    s.Advance s' := by
  refine ⟨?_, Or.inl hbillings⟩
  rw [closed_of_not_suno hs, closed_of_not_suno hs', hstatus]
  exact id

/-- An open task is written, and a billing closes it. -/
lemma Advance.of_not_closed (hopen : ¬s.Closed)
    (hbillings : s'.billings = s.billings ++ billing.toList)
    (hclosed : ∀ b, billing = some b → s'.Closed) : s.Advance s' := by
  refine ⟨fun h => absurd h hopen, ?_⟩
  cases billing with
  | none => exact Or.inl (by simpa using hbillings)
  | some b => exact Or.inr ⟨hopen, hclosed b rfl, b, hbillings⟩

lemma Advance.of_open (hs : s.row.platform ≠ .suno) (hs' : s'.row.platform ≠ .suno)
    (hopen : s.row.status.isTerminal = false)
    (hbillings : s'.billings = s.billings ++ billing.toList)
    (hclosed : ∀ b, billing = some b → s'.row.status.isTerminal = true) : s.Advance s' := by
  apply of_not_closed billing _ hbillings
  · rwa [closed_of_not_suno hs']
  · simp [closed_of_not_suno hs, hopen]

lemma Advance.of_bulkUpdate (reason : Option String) (hs : s.row.platform ≠ .suno) :
    s.Advance (s.bulkUpdate reason) :=
  ⟨fun _ => (closed_of_not_suno (s := s.bulkUpdate reason) hs).mpr rfl, Or.inl rfl⟩

lemma Advance.of_sweepTask (hs : s.row.platform ≠ .suno) (setting : TaskSetting) (i : ℕ)
    (now : Int) (fails : Bool) (haccount : c.task.account = s.row.account)
    (hcopy : c.task.status.isTerminal = false) :
    s.Advance (s.sweepTask setting i now fails c) ∧ (s.row.status.isTerminal = true →
      (s.sweepTask setting i now fails c).row.status = s.row.status) := by
  have hplatform : (timedOutTask setting now c.task).platform ≠ .suno :=
    (platform_eq_of_account haccount).trans_ne hs
  rcases sweepTask_cases setting i now fails c s with
    heq | ⟨⟨-, hstatus⟩, -, heq⟩ | ⟨⟨-, hstatus⟩, heq⟩ <;> rw [heq]
  · exact ⟨.of_status hs hs rfl (append_nil _), fun _ => rfl⟩
  · rw [← hstatus] at hcopy
    exact ⟨.of_open none hs hplatform hcopy rfl nofun, by simp [hcopy]⟩
  · rw [← hstatus] at hcopy
    exact ⟨.of_open (some .refund) hs hplatform hcopy rfl fun _ _ => rfl, by simp [hcopy]⟩

lemma Advance.of_pollVideo (hs : s.row.platform ≠ .suno) (setting : TaskSetting) (i : ℕ)
    (now : Int) (answer : VideoAnswer) (fails : Bool) (haccount : c.task.account = s.row.account)
    (hcopy : c.task.status.isTerminal = false) :
    s.Advance (s.pollVideo setting i now answer fails c) ∧ (s.row.status.isTerminal = true →
      (s.pollVideo setting i now answer fails c).row.status = s.row.status) := by
  let u := updateVideoSingleTask setting now answer fails s.row c.task
  have hbillings : (s.pollVideo setting i now answer fails c).billings =
    s.billings ++ u.billing.toList := rfl
  rcases updateVideoTask_of_not_terminal setting now answer fails s.row hcopy with
    ⟨hrow, hbilling⟩ | ⟨hstatus, hrow, hbilling⟩
  · have hrow' : (s.pollVideo setting i now answer fails c).row = s.row := hrow
    have hnone : u.billing = none := hbilling
    rw [hnone, Option.toList_none, append_nil] at hbillings
    exact ⟨.of_status hs (hrow' ▸ hs) (congrArg _ hrow') hbillings, fun _ => congrArg _ hrow'⟩
  · have hrow' : (s.pollVideo setting i now answer fails c).row = u.task := hrow
    have hplatform : u.task.platform ≠ .suno := by
      have huaccount := account_updateVideoTask setting now answer fails s.row c.task
      exact (platform_eq_of_account (huaccount.trans haccount)).trans_ne hs
    rw [← hstatus] at hcopy
    refine ⟨.of_open u.billing hs (hrow' ▸ hplatform) hcopy hbillings ?_, by simp [hcopy]⟩
    intro b hb
    rw [hrow']
    exact isTerminal_of_dueBilling (hbilling.symm.trans hb)

/-- A statement of a task that is never saved leaves its status alone. -/
lemma Advance.of_execute (hs : s.row.platform ≠ .suno) (fails : Bool) (i : ℕ)
    (hsave : .save ∉ c.pending) :
    s.Advance (s.execute fails i c) ∧ (s.execute fails i c).row.status = s.row.status := by
  apply execute_cases (P := fun s' => s.Advance s' ∧ s'.row.status = s.row.status)
  case none => exact fun _ => ⟨.refl s, rfl⟩
  case unfunded => exact fun delta rest error _ _ => ⟨.of_status hs hs rfl rfl, rfl⟩
  case funded => exact fun delta rest db' _ _ => ⟨.of_status hs hs rfl rfl, rfl⟩
  case token => exact fun delta rest _ => ⟨.of_status hs hs rfl rfl, rfl⟩
  case quota =>
    intro actual rest _
    cases fails with
    | true => exact ⟨.of_status hs hs rfl rfl, rfl⟩
    | false => exact ⟨.of_status hs hs rfl rfl, rfl⟩
  case save =>
    intro rest hpending
    rw [hpending] at hsave
    simp at hsave

/-- What a step does to a task that is no Suno task; beyond the bulk updates, nothing changes a
status that is terminal. -/
theorem video_step (hs : s.Copies) (hplatform : s.row.platform ≠ .suno) (setting : TaskSetting)
    (hok : s.VideoOrderly e) :
    s.Advance (step setting s e) ∧ (e.isBulk = false → s.row.status.isTerminal = true →
      (step setting s e).row.status = s.row.status) := by
  apply step_cases (P := fun s' => s.Advance s' ∧
    (e.isBulk = false → s.row.status.isTerminal = true → s'.row.status = s.row.status))
  case same => exact ⟨.refl s, fun _ _ => rfl⟩
  case load => exact fun kind _ => ⟨.of_status hplatform hplatform rfl rfl, fun _ _ => rfl⟩
  case timeOut =>
    intro i now fails c _ hc
    obtain ⟨hget, hkind, -⟩ := ready_eq_some.mp hc
    have hcopy := hs c (mem_of_getElem? hget)
    have hmove := Advance.of_sweepTask hplatform setting i now fails hcopy.account
      (hcopy.sweep hkind)
    exact ⟨hmove.1, fun _ => hmove.2⟩
  case missingId =>
    rintro i fails rfl
    exact ⟨.of_bulkUpdate none hplatform, nofun⟩
  case missingChannel =>
    rintro i fails reason rfl
    exact ⟨.of_bulkUpdate (some reason) hplatform, nofun⟩
  case video =>
    rintro i now answer fails c rfl hc -
    have hcopy := hs c (mem_of_ready hc)
    have hmove := Advance.of_pollVideo hplatform setting i now answer fails hcopy.account (hok c hc)
    exact ⟨hmove.1, fun _ => hmove.2⟩
  case suno =>
    intro i item c _ hc hsuno _
    have hcopy := hs c (mem_of_ready hc)
    exact absurd ((platform_eq_of_account hcopy.account).symm.trans hsuno) hplatform
  case statement =>
    intro i fails c _ hc
    have hmove := Advance.of_execute hplatform fails i ((hs c (mem_of_getElem? hc)).save hplatform)
    exact ⟨hmove.1, fun _ _ => hmove.2⟩
  case stop => exact fun i c _ _ => ⟨.of_status hplatform hplatform rfl rfl, fun _ _ => rfl⟩

end

/-! ### Suno tasks -/

section

variable {s s' : TaskState} {c c' : TaskCall}

/-- A task that is not finished, and that no pass is about to save, is open. -/
lemma not_closed_suno (hs : s.row.platform = .suno) (hopen : s.Open) : ¬s.Closed := by
  rw [closed_of_suno hs]
  rintro ⟨-, hfinished | ⟨c, hc, hmem⟩⟩
  · rw [hopen.2] at hfinished
    cases hfinished
  · exact hopen.1 c hc hmem

/-- A call moves without a change of the saves to come. -/
lemma SunoClosed.set (h : s.SunoClosed) (hc : s.calls[i]? = some c)
    (hcalls : s'.calls = s.calls.set i c') (hrow : s'.row = s.row)
    (hsave : .save ∈ c'.pending ↔ .save ∈ c.pending)
    (htask : .save ∈ c.pending → c'.task = c.task) : s'.SunoClosed := by
  obtain ⟨hi, hget⟩ := List.getElem?_eq_some_iff.mp hc
  obtain ⟨hsaves, hfinished⟩ := h
  constructor
  · rw [hcalls]
    refine forall_mem_set hsaves ?_
    rw [hsave]
    intro hmem
    rw [htask hmem]
    exact hsaves c (mem_of_getElem? hc) hmem
  · rw [hrow, hcalls]
    refine hfinished.imp_right ?_
    rintro ⟨x, hx, hmem⟩
    obtain ⟨j, hj, rfl⟩ := getElem_of_mem hx
    by_cases hij : i = j
    · subst hij
      exact ⟨_, mem_set hi _, hsave.mpr (hget ▸ hmem)⟩
    · exact ⟨s.calls[j], mem_iff_getElem.mpr ⟨j, by simpa using hj, getElem_set_ne hij _⟩, hmem⟩

section

variable (hs : s.row.platform = .suno)

include hs

/-- Nothing is billed, and a closed task stays closed. -/
lemma Advance.of_sunoClosed (hs' : s'.row.platform = .suno) (hclosed : s.SunoClosed → s'.SunoClosed)
    (hbillings : s'.billings = s.billings) : s.Advance s' := by
  refine ⟨?_, Or.inl hbillings⟩
  rw [closed_of_suno hs, closed_of_suno hs']
  exact hclosed

/-- A sweep that wins the row finds the task open: nobody is about to save it, and a refund finishes
its row. -/
lemma Advance.of_sweepTask_suno (setting : TaskSetting) (now : Int) {fails : Bool}
    (hc : s.ready .sweep i = some c) (haccount : c.task.account = s.row.account)
    (hok : fails = false ∧ s.row.status = c.task.status → s.Open) :
    s.Advance (s.sweepTask setting i now fails c) := by
  have hplatform : (timedOutTask setting now c.task).platform = .suno :=
    (platform_eq_of_account haccount).trans hs
  obtain ⟨hget, -, hidle⟩ := ready_eq_some.mp hc
  rcases sweepTask_cases setting i now fails c s with heq | ⟨hwon, -, heq⟩ | ⟨hwon, heq⟩ <;>
    rw [heq]
  · have hnone : .save ∉ c.pending := by simp [hidle]
    refine .of_sunoClosed hs hs (fun h => h.set hget rfl rfl ?_ ?_) (append_nil _)
    · simp [hnone]
    · exact fun hmem => absurd hmem hnone
  · exact .of_not_closed none (not_closed_suno hs (hok hwon)) rfl nofun
  · refine .of_not_closed (some .refund) (not_closed_suno hs (hok hwon)) rfl fun _ _ => ?_
    refine (closed_of_suno hplatform).mpr ⟨?_, Or.inl rfl⟩
    refine forall_mem_set (fun x hx hmem => absurd hmem ((hok hwon).1 x hx)) fun hmem => ?_
    exact absurd hmem (notMem_refundTaskQuota _).1

/-- An item for an open task: a refund leaves a finished copy that is about to be saved. -/
lemma Advance.of_pollSuno (item : SunoDataResponse) (hc : s.calls[i]? = some c) (hopen : s.Open) :
    s.Advance (s.pollSuno i item c) := by
  refine .of_not_closed _ (not_closed_suno hs hopen) rfl ?_
  intro b hb
  rw [closed_of_suno (s := s.pollSuno i item c) hs]
  have hfailed : sunoFailed item (applySunoItem item c.task) = true := by
    by_contra hnot
    simp [hnot] at hb
  constructor
  · refine forall_mem_set (fun x hx hmem => absurd hmem (hopen.1 x hx)) ?_
    exact fun _ => isUnfinished_applySunoItem_of_failed hfailed
  · obtain ⟨hi, -⟩ := List.getElem?_eq_some_iff.mp hc
    exact Or.inr ⟨_, mem_set hi _, by simp⟩

lemma Advance.of_execute_suno {fails : Bool} (hc : s.calls[i]? = some c) (hcopy : s.Copy c)
    (hfails : c.pending.head? = some .save → fails = false) : s.Advance (s.execute fails i c) := by
  apply execute_cases
  case none => exact fun _ => .refl s
  case unfunded =>
    intro delta rest error hpending _
    have hsave : .save ∈ rest.filter (!·.isBilling) ↔ .save ∈ c.pending := by
      simp [hpending, isBilling]
    exact .of_sunoClosed hs hs (fun h => h.set hc rfl rfl hsave fun _ => rfl) rfl
  case funded =>
    intro delta rest db' hpending _
    have hsave : .save ∈ rest ↔ .save ∈ c.pending := by simp [hpending]
    exact .of_sunoClosed hs hs (fun h => h.set hc rfl rfl hsave fun _ => rfl) rfl
  case token =>
    intro delta rest hpending
    have hsave : .save ∈ rest ↔ .save ∈ c.pending := by simp [hpending]
    exact .of_sunoClosed hs hs (fun h => h.set hc rfl rfl hsave fun _ => rfl) rfl
  case quota =>
    intro actual rest hpending
    exact absurd (by simp [hpending]) (hcopy.quota hs actual)
  case save =>
    intro rest hpending
    have hmade : fails = false := hfails (by simp [hpending])
    subst hmade
    have hplatform := (platform_eq_of_account hcopy.account).trans hs
    refine .of_sunoClosed hs hplatform ?_ rfl
    rintro ⟨hsaves, -⟩
    have hfinished : c.task.isUnfinished = false :=
      hsaves c (mem_of_getElem? hc) (by simp [hpending])
    exact ⟨forall_mem_set hsaves fun _ => hfinished, Or.inl hfinished⟩

end

theorem suno_step (hs : s.Copies) (hplatform : s.row.platform = .suno) (setting : TaskSetting)
    (hok : s.SunoOrderly e) : s.Advance (step setting s e) := by
  apply step_cases
  case same => exact .refl s
  case load =>
    intro kind _
    refine .of_sunoClosed hplatform hplatform ?_ rfl
    rintro ⟨hsaves, hfinished⟩
    refine ⟨?_, hfinished.imp_right fun ⟨x, hx, hmem⟩ => ⟨x, mem_append_left _ hx, hmem⟩⟩
    intro x hx hmem
    rcases mem_append.mp hx with hx | hx
    · exact hsaves x hx hmem
    · rw [mem_singleton.mp hx] at hmem
      cases hmem
  case timeOut =>
    rintro i now fails c rfl hc
    have hcopy := hs c (mem_of_ready hc)
    exact .of_sweepTask_suno hplatform setting now hc hcopy.account (hok c hc)
  case missingId =>
    exact fun _ _ _ => .of_sunoClosed hplatform hplatform (fun h => ⟨h.1, Or.inl rfl⟩) rfl
  case missingChannel =>
    exact fun _ _ _ _ => .of_sunoClosed hplatform hplatform (fun h => ⟨h.1, Or.inl rfl⟩) rfl
  case video =>
    intro i now answer fails c _ hc hother
    have hcopy := hs c (mem_of_ready hc)
    exact absurd ((platform_eq_of_account hcopy.account).trans hplatform) hother
  case suno =>
    rintro i item c rfl hc - hneeds
    exact .of_pollSuno hplatform item (ready_eq_some.mp hc).1 (hok c hc hneeds)
  case statement =>
    rintro i fails c rfl hc
    exact .of_execute_suno hplatform hc (hs c (mem_of_getElem? hc)) (hok c hc)
  case stop =>
    rintro i c rfl hc
    have hnone : .save ∉ c.pending := hok c hc
    have hsave : save ∈ [] ↔ .save ∈ c.pending := by simp [hnone]
    exact .of_sunoClosed hplatform hplatform (fun h => h.set hc rfl rfl hsave fun _ => rfl) rfl

end

/-! ### Runs -/

variable {e : TaskEvent}

/-- A step in order of any task. -/
theorem advance_step (hs : s.Copies) (setting : TaskSetting) (hok : s.Orderly e) :
    s.Advance (step setting s e) := by
  by_cases hplatform : s.row.platform = .suno
  · rw [Orderly, if_pos hplatform] at hok
    exact suno_step hs hplatform setting hok
  · rw [Orderly, if_neg hplatform] at hok
    exact (video_step hs hplatform setting hok).1

/-- What every run in order keeps: a task that was billed is closed, and was billed once. -/
structure BilledOnce (s : TaskState) : Prop where
  copies : s.Copies
  once : s.billings = [] ∨ s.Closed ∧ ∃ b, s.billings = [b]

lemma copies_start (row : Task) (db : DB) : (start row db).Copies := by
  intro c hc
  cases hc

/-- Whatever polls, sweeps and failures do, a task and its copies stay with its account. -/
theorem account_run (setting : TaskSetting) (row : Task) (db : DB) (es : List TaskEvent) :
    (run (step setting) (start row db) es).row.account = row.account ∧
      ∀ c ∈ (run (step setting) (start row db) es).calls, c.task.account = row.account := by
  obtain ⟨hcopies, haccount⟩ := run_invariant
    (I := fun s : TaskState => s.Copies ∧ s.row.account = row.account)
    (fun _ e h => (h.1.step setting e).imp_right (·.trans h.2)) ⟨copies_start row db, rfl⟩ es
  exact ⟨haccount, fun c hc => (hcopies c hc).account.trans haccount⟩

lemma billedOnce_start (row : Task) (db : DB) : (start row db).BilledOnce :=
  ⟨copies_start row db, Or.inl rfl⟩

/-- An open task has not been billed. -/
lemma BilledOnce.billings_eq_nil (h : s.BilledOnce) (hopen : ¬s.Closed) : s.billings = [] :=
  h.once.resolve_right fun hclosed => hopen hclosed.1

theorem BilledOnce.step (h : s.BilledOnce) (setting : TaskSetting) (hok : s.Orderly e) :
    (step setting s e).BilledOnce := by
  have hadvance := advance_step h.copies setting hok
  refine ⟨(h.copies.step setting e).1, ?_⟩
  rcases hadvance.billings with hsame | ⟨hopen, hclosed, b, hbilled⟩
  · rw [hsame]
    exact h.once.imp_right fun ⟨hclosed, hone⟩ => ⟨hadvance.closed hclosed, hone⟩
  · rw [h.billings_eq_nil hopen] at hbilled
    exact Or.inr ⟨hclosed, b, hbilled⟩

lemma BilledOnce.length_le (h : s.BilledOnce) : s.billings.length ≤ 1 := by
  rcases h.once with hnil | ⟨-, b, hb⟩
  · simp [hnil]
  · simp [hb]

/-! ### Saves come one after the other -/

/-- At most one pass is about to save the task, once, and only while the row is not finished. -/
structure OneSave (s : TaskState) : Prop where
  row : ∀ c ∈ s.calls, .save ∈ c.pending → s.row.isUnfinished = true
  single : ∀ c ∈ s.calls, c.pending.count .save ≤ 1
  one : s.calls.countP (·.pending.contains .save) ≤ 1

section

variable {s s' : TaskState} {c c' : TaskCall}

lemma OneSave.of_noSave (h : s.NoSave) : s.OneSave := by
  refine ⟨fun c hc hmem => absurd hmem (h c hc), ?_, ?_⟩
  · intro c hc
    rw [count_eq_zero.mpr (h c hc)]
    exact Nat.zero_le 1
  · rw [countP_eq_zero.mpr]
    · exact Nat.zero_le 1
    · intro c hc
      simpa using h c hc

/-- A call makes or drops statements of a billing. -/
lemma OneSave.set (h : s.OneSave) (hc : s.calls[i]? = some c)
    (hcalls : s'.calls = s.calls.set i c') (hrow : s'.row = s.row)
    (hsub : c'.pending.Sublist c.pending) (hsave : .save ∈ c'.pending ↔ .save ∈ c.pending) :
    s'.OneSave := by
  have hmem := mem_of_getElem? hc
  refine ⟨?_, ?_, ?_⟩
  · rw [hrow, hcalls]
    exact forall_mem_set h.row fun hnew => h.row c hmem (hsave.mp hnew)
  · rw [hcalls]
    exact forall_mem_set h.single ((hsub.count_le _).trans (h.single c hmem))
  · rw [hcalls, countP_set_of_eq hc]
    · exact h.one
    · simp [hsave]

lemma OneSave.load (h : s.OneSave) (kind : TaskCallKind) : (s.load kind).OneSave := by
  refine ⟨?_, ?_, ?_⟩
  · intro c hc hmem
    rcases mem_append.mp hc with hc | hc
    · exact h.row c hc hmem
    · rw [mem_singleton.mp hc] at hmem
      cases hmem
  · intro c hc
    rcases mem_append.mp hc with hc | hc
    · exact h.single c hc
    · rw [mem_singleton.mp hc]
      exact Nat.zero_le 1
  · simpa [TaskState.load] using h.one

lemma OneSave.pollSuno (hopen : s.Open) (item : SunoDataResponse) (hc : s.calls[i]? = some c) :
    (s.pollSuno i item c).OneSave := by
  obtain ⟨hsave, hrow⟩ := hopen
  have h := OneSave.of_noSave hsave
  refine ⟨fun _ _ _ => hrow, ?_, ?_⟩
  · refine forall_mem_set h.single ?_
    have hrefund : ∀ t : Task, (refundTaskQuota t).count .save = 0 :=
      fun t => count_eq_zero.mpr (notMem_refundTaskQuota t).1
    split_ifs <;> simp [hrefund]
  · have hnone : s.calls.countP (·.pending.contains .save) = 0 := by
      rw [countP_eq_zero]
      intro x hx
      simpa using hsave x hx
    have hout : c.pending.contains .save = false := by
      simpa using hsave c (mem_of_getElem? hc)
    refine ((countP_set_enter hc hout ?_).trans (by rw [hnone])).le
    simp

/-- The save that is under way is the only one. -/
lemma OneSave.noSave_of_save (h : s.OneSave) (hc : s.calls[i]? = some c)
    {rest : List TaskStatement} (hpending : c.pending = .save :: rest)
    (hcalls : s'.calls = s.calls.set i { c with pending := rest }) : s'.NoSave := by
  have hrest : .save ∉ rest := by
    have hcount := h.single c (mem_of_getElem? hc)
    rw [hpending, count_cons_self] at hcount
    exact count_eq_zero.mp (by omega)
  have hleave : (s.calls.set i { c with pending := rest }).countP (·.pending.contains .save) + 1 =
      s.calls.countP (·.pending.contains .save) :=
    countP_set_leave hc (by simp [hpending]) (by simpa using hrest)
  have hone := h.one
  have hzero : s'.calls.countP (·.pending.contains .save) = 0 := by
    rw [hcalls]
    omega
  intro x hx
  simpa using countP_eq_zero.mp hzero x hx

lemma OneSave.execute (h : s.OneSave) (fails : Bool) (hc : s.calls[i]? = some c)
    (hquota : ∀ actual, .quota actual ∉ c.pending) :
    (s.execute fails i c).OneSave ∧
      (s.row.isUnfinished = false → (s.execute fails i c).row = s.row) := by
  apply execute_cases
    (P := fun s' => s'.OneSave ∧ (s.row.isUnfinished = false → s'.row = s.row))
  case none => exact fun _ => ⟨h, fun _ => rfl⟩
  case unfunded =>
    intro delta rest error hpending _
    have hsub : (rest.filter (!·.isBilling)).Sublist c.pending := by
      rw [hpending]
      exact filter_sublist.trans (sublist_cons_self _ _)
    have hsave : .save ∈ rest.filter (!·.isBilling) ↔ .save ∈ c.pending := by
      simp [hpending, isBilling]
    exact ⟨h.set hc rfl rfl hsub hsave, fun _ => rfl⟩
  case funded =>
    intro delta rest db' hpending _
    have hsub : rest.Sublist c.pending := hpending ▸ sublist_cons_self _ _
    exact ⟨h.set hc rfl rfl hsub (by simp [hpending]), fun _ => rfl⟩
  case token =>
    intro delta rest hpending
    have hsub : rest.Sublist c.pending := hpending ▸ sublist_cons_self _ _
    exact ⟨h.set hc rfl rfl hsub (by simp [hpending]), fun _ => rfl⟩
  case quota =>
    intro actual rest hpending
    exact absurd (by simp [hpending]) (hquota actual)
  case save =>
    intro rest hpending
    refine ⟨.of_noSave (h.noSave_of_save hc hpending rfl), fun hfinished => ?_⟩
    -- a save is only under way while the row is not finished
    have hrow := h.row c (mem_of_getElem? hc) (by simp [hpending])
    rw [hrow] at hfinished
    cases hfinished

/-- Between bulk updates, steps in order leave a finished row alone. -/
theorem oneSave_step (h : s.OneSave) (hs : s.Copies) (hplatform : s.row.platform = .suno)
    (setting : TaskSetting) (hbulk : e.isBulk = false) (hok : s.SunoOrderly e) :
    (step setting s e).OneSave ∧ (s.row.isUnfinished = false → (step setting s e).row = s.row) := by
  apply step_cases
    (P := fun s' => s'.OneSave ∧ (s.row.isUnfinished = false → s'.row = s.row))
  case same => exact ⟨h, fun _ => rfl⟩
  case load => exact fun kind _ => ⟨h.load kind, fun _ => rfl⟩
  case timeOut =>
    rintro i now fails c rfl hc
    obtain ⟨hget, -, hidle⟩ := ready_eq_some.mp hc
    have hrefund := (notMem_refundTaskQuota (timedOutTask setting now c.task)).1
    rcases sweepTask_cases setting i now fails c s with
      heq | ⟨hwon, -, heq⟩ | ⟨hwon, heq⟩ <;> rw [heq]
    · exact ⟨h.set hget rfl rfl (nil_sublist _) (by simp [hidle]), fun _ => rfl⟩
    · obtain ⟨hsave, hrow⟩ := hok c hc hwon
      exact ⟨.of_noSave (forall_mem_set hsave (by simp)), by simp [hrow]⟩
    · obtain ⟨hsave, hrow⟩ := hok c hc hwon
      exact ⟨.of_noSave (forall_mem_set hsave hrefund), by simp [hrow]⟩
  case missingId =>
    rintro i fails rfl
    cases hbulk
  case missingChannel =>
    rintro i fails reason rfl
    cases hbulk
  case video =>
    intro i now answer fails c _ hc hother
    have hcopy := hs c (mem_of_ready hc)
    exact absurd ((platform_eq_of_account hcopy.account).trans hplatform) hother
  case suno =>
    rintro i item c rfl hc - hneeds
    exact ⟨.pollSuno (hok c hc hneeds) item (ready_eq_some.mp hc).1, fun _ => rfl⟩
  case statement =>
    intro i fails c _ hc
    exact h.execute fails hc ((hs c (mem_of_getElem? hc)).quota hplatform)
  case stop =>
    rintro i c rfl hc
    have hnone : .save ∉ c.pending := hok c hc
    have hsave : save ∈ [] ↔ .save ∈ c.pending := by simp [hnone]
    exact ⟨h.set hc rfl rfl (nil_sublist _) hsave, fun _ => rfl⟩

/-- Whatever the service, steps in order between bulk updates leave a terminal status alone. -/
theorem status_step (hs : s.Copies) (h : s.row.platform = .suno → s.OneSave)
    (setting : TaskSetting) (hbulk : e.isBulk = false) (hok : s.Orderly e) :
    ((step setting s e).row.platform = .suno → (step setting s e).OneSave) ∧
      (s.row.status.isTerminal = true → (step setting s e).row.status = s.row.status) := by
  have hsame : (step setting s e).row.platform = s.row.platform :=
    platform_eq_of_account (hs.step setting e).2
  by_cases hplatform : s.row.platform = .suno
  · rw [Orderly, if_pos hplatform] at hok
    have hsaves := oneSave_step (h hplatform) hs hplatform setting hbulk hok
    refine ⟨fun _ => hsaves.1, fun hterminal => ?_⟩
    rw [hsaves.2 (Task.isUnfinished_of_isTerminal hterminal)]
  · rw [Orderly, if_neg hplatform] at hok
    refine ⟨fun hsuno => absurd (hsame.symm.trans hsuno) hplatform, ?_⟩
    exact (video_step hs hplatform setting hok).2 hbulk

end

/-! ### Video tasks -/

/-- The steps of polls and sweeps of a video task, each in order. -/
def VideoRun (s : TaskState) (e : TaskEvent) : Prop := e.isBulk = false ∧ s.VideoOrderly e

instance (s : TaskState) (e : TaskEvent) : Decidable (s.VideoRun e) :=
  inferInstanceAs (Decidable (_ ∧ _))

structure VideoInv (s : TaskState) : Prop extends s.BilledOnce where
  platform : s.row.platform ≠ .suno

lemma VideoInv.step (h : s.VideoInv) (setting : TaskSetting) (hok : s.VideoRun e) :
    (step setting s e).VideoInv := by
  refine ⟨h.toBilledOnce.step setting (by rw [Orderly, if_neg h.platform]; exact hok.2), ?_⟩
  rw [platform_eq_of_account (h.copies.step setting e).2]
  exact h.platform

/-- A video task is settled or refunded at most once, and a terminal status that was written stays,
in every run of polls and sweeps in which no poll starts from a copy that is finished. -/
theorem video_billed_once (setting : TaskSetting) (row : Task) (db : DB) {name : String}
    (hrow : row.platform = .video name) (es es' : List TaskEvent)
    (hes : Along (step setting) VideoRun (start row db) (es ++ es')) :
    (run (step setting) (start row db) (es ++ es')).billings.length ≤ 1 ∧
      ((run (step setting) (start row db) es).row.status.isTerminal = true →
        (run (step setting) (start row db) (es ++ es')).row.status =
          (run (step setting) (start row db) es).row.status) := by
  have hstart : (start row db).VideoInv := ⟨billedOnce_start row db, by simp [start, hrow]⟩
  have hinv : ∀ s e, VideoInv s → VideoRun s e → (step setting s e).VideoInv :=
    fun s e hs hok => hs.step setting hok
  refine ⟨(hes.invariant hinv hstart).length_le, fun hterminal => ?_⟩
  rw [along_append] at hes
  have hmid := hes.1.invariant hinv hstart
  rw [run_append]
  generalize run (step setting) (start row db) es = s at hmid hterminal hes ⊢
  -- the status of the middle state is kept by every step that follows
  have hkeep : ∀ t e, t.VideoInv ∧ t.row.status = s.row.status → t.VideoRun e →
      (step setting t e).VideoInv ∧ (step setting t e).row.status = s.row.status := by
    rintro t e ⟨ht, hstatus⟩ hok
    have hsame := (video_step ht.copies ht.platform setting hok.2).2 hok.1
    rw [hstatus] at hsame
    exact ⟨ht.step setting hok, hsame hterminal⟩
  exact (hes.2.invariant hkeep ⟨hmid, rfl⟩).2

def hourlySetting : TaskSetting where
  taskTimeoutMinutes := 60
  modelRatio := fun _ => (1, true)
  groupRatio := fun _ => 1
  groupGroupRatio := fun _ _ => none

def chargedTask (platform : TaskPlatform) : Task where
  taskId := "task_a"
  platform := platform
  userId := 1
  channelId := 3
  quota := 500
  status := .inProgress
  submitTime := 1800000000
  progress := "30%"
  privateData := { upstreamTaskId := "17", billingSource := "wallet", tokenId := 1 }

def failedAnswer : VideoAnswer where
  taskResult := some { status := "FAILURE", reason := "content policy" }

def succeededAnswer : VideoAnswer where
  taskResult := some { status := "SUCCESS", url := "https://cdn/17.mp4" }

def chargedRun (platform : TaskPlatform) (es : List TaskEvent) : TaskState :=
  run (step hourlySetting) (start (chargedTask platform) .empty) es

/-- Two passes hold a copy when one of them fails the task. -/
def firstFails : List TaskEvent := [.poll, .poll, .video 0 1800000100 failedAnswer false]

def secondSucceeds : List TaskEvent :=
  [.video 1 1800000101 succeededAnswer false, .statement 0 false]

/-- The pass that has lost the race bills nothing. -/
theorem video_billed_once_race :
    (chargedRun (.video "sora") (firstFails ++ secondSucceeds)).billings.length ≤ 1 ∧
      ((chargedRun (.video "sora") firstFails).row.status.isTerminal = true →
        (chargedRun (.video "sora") (firstFails ++ secondSucceeds)).row.status =
          (chargedRun (.video "sora") firstFails).row.status) :=
  video_billed_once hourlySetting (chargedTask (.video "sora")) .empty rfl firstFails
    secondSucceeds (by decide +kernel)

/-- A pass polls its copy and bills it. -/
def failedPoll : List TaskEvent :=
  [.poll, .video 0 1800000100 failedAnswer false, .statement 0 false, .statement 0 false]

/-- One pass polls one copy twice, as it does when two tasks share an upstream id. The second poll
finds the copy failed already, writes nothing that could be lost, and refunds once more; had it seen
a success, it would have rewritten the status and settled the task. -/
theorem video_billed_twice :
    (chargedRun (.video "sora")
        (failedPoll ++ [.video 0 1800000101 failedAnswer false])).billings = [.refund, .refund] ∧
      (chargedRun (.video "sora") failedPoll).row.status = .failure ∧
      (chargedRun (.video "sora")
        (failedPoll ++ [.video 0 1800000101 succeededAnswer false])).row.status = .success := by
  decide +kernel

/-! ### Suno tasks in runs -/

/-- The steps of polls and sweeps of a Suno task, each in order. -/
def SunoRun (s : TaskState) (e : TaskEvent) : Prop := e.isBulk = false ∧ s.SunoOrderly e

instance (s : TaskState) (e : TaskEvent) : Decidable (s.SunoRun e) :=
  inferInstanceAs (Decidable (_ ∧ _))

structure SunoInv (s : TaskState) : Prop extends s.BilledOnce, s.OneSave where
  platform : s.row.platform = .suno

lemma SunoInv.step (h : s.SunoInv) (setting : TaskSetting) (hok : s.SunoRun e) :
    (step setting s e).SunoInv := by
  have horderly : s.Orderly e := by
    rw [Orderly, if_pos h.platform]
    exact hok.2
  have hsaves := oneSave_step h.toOneSave h.copies h.platform setting hok.1 hok.2
  refine ⟨h.toBilledOnce.step setting horderly, hsaves.1, ?_⟩
  rw [platform_eq_of_account (h.copies.step setting e).2]
  exact h.platform

/-- A Suno task is refunded at most once, and a terminal status stays one, in every run of passes
and sweeps that come to the task one after the other and finish their saves. -/
theorem suno_refunded_once (setting : TaskSetting) (row : Task) (db : DB)
    (hrow : row.platform = .suno) (es es' : List TaskEvent)
    (hes : Along (step setting) SunoRun (start row db) (es ++ es')) :
    (run (step setting) (start row db) (es ++ es')).billings.count .refund ≤ 1 ∧
      ((run (step setting) (start row db) es).row.status.isTerminal = true →
        (run (step setting) (start row db) (es ++ es')).row.status.isTerminal = true) := by
  have hnone : (start row db).NoSave := by
    intro c hc
    cases hc
  have hstart : (start row db).SunoInv := ⟨billedOnce_start row db, .of_noSave hnone, hrow⟩
  have hinv : ∀ s e, SunoInv s → SunoRun s e → (step setting s e).SunoInv :=
    fun s e hs hok => hs.step setting hok
  have hend := hes.invariant hinv hstart
  refine ⟨count_le_length.trans hend.length_le, fun hterminal => ?_⟩
  rw [along_append] at hes
  have hmid := hes.1.invariant hinv hstart
  rw [run_append]
  generalize run (step setting) (start row db) es = s at hmid hterminal hes ⊢
  have hfinished := Task.isUnfinished_of_isTerminal hterminal
  -- a finished row is not written any more
  have hkeep : ∀ t e, t.SunoInv ∧ t.row = s.row → t.SunoRun e →
      (step setting t e).SunoInv ∧ (step setting t e).row = s.row := by
    rintro t e ⟨ht, hsame⟩ hok
    have hleft := (oneSave_step ht.toOneSave ht.copies ht.platform setting hok.1 hok.2).2
    rw [hsame] at hleft
    exact ⟨ht.step setting hok, hleft hfinished⟩
  rw [(hes.2.invariant hkeep ⟨hmid, rfl⟩).2]
  exact hterminal

def failedItem : SunoDataResponse where
  status := "FAILURE"
  failReason := "moderation"

/-- A pass refunds and saves the task. -/
def failedPass : List TaskEvent :=
  [.sweep 1900000000, .poll, .suno 1 failedItem, .statement 1 false, .statement 1 false,
    .statement 1 false]

/-- A sweep that had loaded the task before finds it finished. -/
def lateSweep : List TaskEvent := [.timeOut 0 1900000001 false, .sweep 1900000001, .poll]

theorem suno_refunded_once_pass :
    (chargedRun .suno (failedPass ++ lateSweep)).billings.count .refund ≤ 1 ∧
      ((chargedRun .suno failedPass).row.status.isTerminal = true →
        (chargedRun .suno (failedPass ++ lateSweep)).row.status.isTerminal = true) :=
  suno_refunded_once hourlySetting (chargedTask .suno) .empty rfl failedPass lateSweep
    (by decide +kernel)

/-- The second pass hears of progress before the first one fails the task. -/
def progressThenFailure : List TaskEvent :=
  [.poll, .poll, .suno 1 { status := "IN_PROGRESS", startTime := 5 }, .suno 0 failedItem,
    .statement 0 false, .statement 0 false, .statement 0 false]

/-- Two passes that overlap both refund the task; and a pass that was told about progress before the
other one failed the task brings it back to life with its save. -/
theorem suno_refunded_twice :
    (chargedRun .suno
        [.poll, .poll, .suno 0 failedItem, .suno 1 failedItem]).billings.count .refund = 2 ∧
      (chargedRun .suno progressThenFailure).row.status = .failure ∧
      (chargedRun .suno (progressThenFailure ++ [.statement 1 false])).row.status =
        .inProgress := by
  decide +kernel

end TaskState

end XinghaiApi
