import XinghaiApi.Service.TaskLedger

/-!
# Failed tasks are refunded

A task can be stored as failed by a sweep, by a poll or, unguarded, by one of the bulk updates. The
first two refund it; the bulk updates do not, and they hit finished tasks as well. Without them, and
with steps in order, a failed task has got its quota back once its pass has ended.
-/

namespace XinghaiApi

open Machine List

/-- How far a refund has come. -/
def RefundStage (row : Task) (db : DB) : TaskBilling → List TaskStatement → DB → Int → Int → Prop
  | .settle, _, _, _, _ => True
  | .refund, due, x, _, _ =>
    due = [.funding (-row.quota), .token (-row.quota)] ∧ x = db ∨
    due = [.token (-row.quota)] ∧ taskAdjustFunding row (-row.quota) db = .ok x ∨
    due = [] ∧ ∃ db', taskAdjustFunding row (-row.quota) db = .ok db' ∧
      x = taskAdjustTokenQuota false row (-row.quota) db'

/-- When nothing fails, a refund goes from one stage to the next. -/
lemma billingRule_refundStage (row : Task) (db : DB) (hquota : row.quota ≠ 0) :
    BillingRule row db true (RefundStage row db) where
  refund := Or.inl ⟨if_neg hquota, rfl⟩
  settle := fun _ _ => trivial
  funding := by
    intro b delta due x x' taken given hR hok
    cases b with
    | settle => trivial
    | refund =>
      rcases hR with ⟨hdue, rfl⟩ | ⟨hdue, -⟩ | ⟨hdue, -⟩
      · obtain ⟨rfl, rfl⟩ := hdue
        exact Or.inr (Or.inl ⟨rfl, hok⟩)
      · simp at hdue
      · simp at hdue
  token := by
    intro b delta due x fails taken given hfails hR
    cases b with
    | settle => trivial
    | refund =>
      rcases hR with ⟨hdue, -⟩ | ⟨hdue, hfunded⟩ | ⟨hdue, -⟩
      · simp at hdue
      · obtain ⟨rfl, rfl⟩ := hdue
        rw [hfails rfl]
        exact Or.inr (Or.inr ⟨rfl, x, hfunded, rfl⟩)
      · simp at hdue
  quota := by
    intro b actual due x taken given hR
    cases b with
    | settle => trivial
    | refund => rcases hR with ⟨hdue, -⟩ | ⟨hdue, -⟩ | ⟨hdue, -⟩ <;> simp at hdue
  dropped := fun _ _ _ _ _ hstrict => nomatch hstrict

namespace TaskState

/-- The copy that times out is none of a legacy task. -/
def TimesOutCurrent (s : TaskState) : TaskEvent → Prop
  | .timeOut i _ _ => ∀ c ∈ s.ready .sweep i, c.task.isLegacy = false
  | _ => True

instance (s : TaskState) : DecidablePred s.TimesOutCurrent
  | .timeOut i _ _ => inferInstanceAs (Decidable (∀ c ∈ s.ready .sweep i, _))
  | .sweep _ | .poll | .missingId _ _ | .missingChannel _ _ | .video _ _ _ _ | .suno _ _
  | .statement _ _ | .stop _ => .isTrue trivial

/-- The steps of a run in which failed tasks are refunded: no bulk update, everything in order and
undisturbed, and no legacy task times out. -/
def Refunding (s : TaskState) (e : TaskEvent) : Prop :=
  e.isBulk = false ∧ s.Orderly e ∧ s.Undisturbed e ∧ s.TimesOutCurrent e

instance (s : TaskState) (e : TaskEvent) : Decidable (s.Refunding e) :=
  inferInstanceAs (Decidable (_ ∧ _ ∧ _ ∧ _))

/-- A task that is stored as failed, or is about to be, was refunded. -/
structure FailureRefunded (s : TaskState) : Prop where
  row : s.row.status = .failure → s.billings = [.refund]
  saves : ∀ c ∈ s.calls, .save ∈ c.pending → c.task.status = .failure → s.billings = [.refund]

section

variable {row : Task} {db : DB} {R : TaskBilling → List TaskStatement → DB → Int → Int → Prop}
  {s s' : TaskState} {i : ℕ} {c : TaskCall}

/-- An open task was not billed yet. -/
lemma Ledger.unbilled (h : s.Ledger row db R) (hopen : ¬s.Closed) : s.Unbilled row db := by
  refine h.phase.resolve_right ?_
  rintro ⟨b, hb, -⟩
  rw [h.billings_eq_nil hopen] at hb
  cases hb

/-- A call moves, and keeps the status of its copy. -/
lemma FailureRefunded.set (h : s.FailureRefunded) (c' : TaskCall)
    (hc : s.calls[i]? = some c) (hstatus : c'.task.status = c.task.status)
    (hsub : c'.pending ⊆ c.pending) (hcalls : s'.calls = s.calls.set i c')
    (hrow : s'.row.status = .failure → s.billings = [.refund])
    (hbillings : s'.billings = s.billings) : s'.FailureRefunded := by
  refine ⟨?_, ?_⟩
  · rw [hbillings]
    exact hrow
  · rw [hbillings, hcalls]
    refine Pool.forall_mem_set h.saves fun hmem hfailure => ?_
    exact h.saves c (mem_of_getElem? hc) (hsub hmem) (hstatus ▸ hfailure)

/-- A call that has no save to make moves to one that has none either. -/
lemma FailureRefunded.write (h : s.FailureRefunded) (i : ℕ) {row' : Task}
    (hsave : .save ∉ c.pending) (hrow : row'.status = .failure → s.billings = [.refund]) :
    (s.write i row' c none).FailureRefunded := by
  refine ⟨?_, ?_⟩
  · intro hfailure
    exact (append_nil _).trans (hrow hfailure)
  · refine Pool.forall_mem_set ?_ fun hmem => absurd hmem hsave
    intro x hx hmem hfailure
    exact (append_nil _).trans (h.saves x hx hmem hfailure)

lemma FailureRefunded.refund (h : s.billings = []) (i : ℕ) (row' : Task) (c : TaskCall) :
    (s.write i row' c (some .refund)).FailureRefunded := by
  have hbillings : (s.write i row' c (some .refund)).billings = [.refund] := by
    simp [TaskState.write, h]
  exact ⟨fun _ => hbillings, fun _ _ _ _ => hbillings⟩

/-- The row was found in the state of a copy that is not finished, so the task is open. -/
lemma not_closed_of_found (hok : s.row.platform = .suno → s.Open)
    (hcopy : c.task.status.isTerminal = false) (hstatus : s.row.status = c.task.status) :
    ¬s.Closed := by
  by_cases hplatform : s.row.platform = .suno
  · exact not_closed_suno hplatform (hok hplatform)
  · rw [closed_of_not_suno hplatform, hstatus, hcopy]
    exact Bool.false_ne_true

section

variable (h : s.FailureRefunded) (hledger : s.Ledger row db R) (hquota : row.quota ≠ 0)
  (setting : TaskSetting) (now : Int)

include h hledger hquota

lemma FailureRefunded.sweepTask (fails : Bool) (hc : s.ready .sweep i = some c)
    (hlegacy : c.task.isLegacy = false)
    (hok : s.row.platform = .suno → fails = false ∧ s.row.status = c.task.status → s.Open) :
    (s.sweepTask setting i now fails c).FailureRefunded := by
  obtain ⟨hget, hkind, -⟩ := ready_eq_some.mp hc
  have hmem := mem_of_getElem? hget
  have hcopy := (hledger.copies c hmem).sweep hkind
  rcases sweepTask_cases setting i now fails c s with
    heq | ⟨hwon, hskip, heq⟩ | ⟨hwon, heq⟩ <;> rw [heq]
  · exact h.write i (by simp) h.row
  · -- the sweep does not refund, but the task has a quota and is no legacy one
    have hopen := not_closed_of_found (fun hsuno => hok hsuno hwon) hcopy hwon.2
    have hunbilled := hledger.unbilled hopen
    rw [hlegacy, hunbilled.copies c hmem] at hskip
    simp [hquota] at hskip
  · have hopen := not_closed_of_found (fun hsuno => hok hsuno hwon) hcopy hwon.2
    exact .refund (hledger.unbilled hopen).billings i _ _

lemma FailureRefunded.pollVideo (answer : VideoAnswer) (fails : Bool) (hc : c ∈ s.calls)
    (hplatform : s.row.platform ≠ .suno) (hcopy : c.task.status.isTerminal = false) :
    (s.pollVideo setting i now answer fails c).FailureRefunded := by
  have hnew := quota_updateVideoTask setting now answer fails s.row c.task
  have hspec := updateVideoTask_of_not_terminal setting now answer fails s.row hcopy
  have hnosave : ∀ t u,
      .save ∉ (TaskCall.mk .poll t (videoStatements setting answer s.db u)).pending :=
    fun _ u => save_notMem_videoStatements setting answer s.db u
  simp only [TaskState.pollVideo]
  generalize updateVideoSingleTask setting now answer fails s.row c.task = u at hnew hspec ⊢
  obtain ⟨uRow, task, billing, totalTokens⟩ := u
  simp only at hnew hspec ⊢
  rcases hspec with ⟨rfl, rfl⟩ | ⟨hstatus, rfl, rfl⟩
  · exact h.write i (hnosave _ _) h.row
  · have hopen : ¬s.Closed :=
      not_closed_of_found (fun hsuno => absurd hsuno hplatform) hcopy hstatus
    have hunbilled := hledger.unbilled hopen
    have htask : uRow.quota ≠ 0 := by
      rw [hnew, hunbilled.copies c hc]
      exact hquota
    cases hdue : dueBilling uRow with
    | none =>
      -- a failed task with a quota would have been due a refund
      refine h.write i (hnosave _ _) fun hfailure => ?_
      simp [dueBilling, hfailure, htask] at hdue
    | some b =>
      cases b with
      | refund => exact .refund hunbilled.billings i _ _
      | settle =>
        refine ⟨fun hfailure => ?_, Pool.forall_mem_set ?_ fun hmem => absurd hmem (hnosave _ _)⟩
        · have hfailed : uRow.status = .failure := hfailure
          simp [dueBilling, hfailed] at hdue
        · exact fun x hx hmem => absurd hmem ((hledger.copies x hx).save hplatform)

end

lemma FailureRefunded.pollSuno (hledger : s.Ledger row db R) (h : s.FailureRefunded)
    (item : SunoDataResponse) (c : TaskCall) (hplatform : s.row.platform = .suno)
    (hopen : s.Open) : (s.pollSuno i item c).FailureRefunded := by
  have hunbilled := hledger.unbilled (not_closed_suno hplatform hopen)
  simp only [TaskState.pollSuno]
  split_ifs with hfailed
  · exact .refund hunbilled.billings i _ _
  · refine ⟨fun hfailure => (append_nil _).trans (h.row hfailure), ?_⟩
    refine Pool.forall_mem_set (fun x hx hmem => absurd hmem (hopen.1 x hx)) fun _ hfailure => ?_
    have hstatus : (applySunoItem item c.task).status = .failure := hfailure
    simp [sunoFailed, hstatus] at hfailed

lemma FailureRefunded.execute (h : s.FailureRefunded) (fails : Bool) (hc : s.calls[i]? = some c) :
    (s.execute fails i c).FailureRefunded := by
  have htail : ∀ {x rest}, c.pending = x :: rest → rest ⊆ c.pending := by
    intro x rest hpending
    rw [hpending]
    exact subset_cons_self x rest
  apply execute_cases
  case none => exact fun _ => h
  case unfunded =>
    intro delta rest error hpending _
    have hsub : rest.filter (!·.isBilling) ⊆ c.pending :=
      List.Subset.trans (filter_subset_self rest) (htail hpending)
    exact h.set { c with pending := rest.filter (!·.isBilling) } hc rfl hsub rfl h.row rfl
  case funded =>
    intro delta rest db' hpending _
    exact h.set { c with pending := rest } hc rfl (htail hpending) rfl h.row rfl
  case token =>
    intro delta rest hpending
    exact h.set { c with pending := rest } hc rfl (htail hpending) rfl h.row rfl
  case quota =>
    intro actual rest hpending
    refine h.set { c with task := { c.task with quota := actual }, pending := rest } hc rfl
      (htail hpending) rfl ?_ rfl
    cases fails with
    | true => exact h.row
    | false => exact h.row
  case save =>
    intro rest hpending
    refine h.set { c with pending := rest } hc rfl (htail hpending) rfl ?_ rfl
    cases fails with
    | true => exact h.row
    | false => exact h.saves c (mem_of_getElem? hc) (by simp [hpending])

theorem FailureRefunded.step (h : s.FailureRefunded) (hledger : s.Ledger row db R)
    (hquota : row.quota ≠ 0) (setting : TaskSetting) {e : TaskEvent} (hok : s.Refunding e) :
    (step setting s e).FailureRefunded := by
  obtain ⟨hbulk, horderly, -, hlegacy⟩ := hok
  have hs := hledger.copies
  apply step_cases (P := fun s' => s'.FailureRefunded)
  case same => exact h
  case load =>
    intro kind _
    refine ⟨h.row, fun c hc hmem hfailure => ?_⟩
    rcases mem_append.mp hc with hc | hc
    · exact h.saves c hc hmem hfailure
    · rw [mem_singleton.mp hc] at hmem
      cases hmem
  case timeOut =>
    rintro i now fails c rfl hc
    refine h.sweepTask hledger hquota setting now fails hc (hlegacy c hc) fun hplatform => ?_
    rw [Orderly, if_pos hplatform] at horderly
    exact horderly c hc
  case missingId =>
    rintro i fails rfl
    cases hbulk
  case missingChannel =>
    rintro i fails reason rfl
    cases hbulk
  case video =>
    rintro i now answer fails c rfl hc hplatform
    have hmem := mem_of_ready hc
    have hother : s.row.platform ≠ .suno := by
      rw [← platform_eq_of_account (hs c hmem).account]
      exact hplatform
    rw [Orderly, if_neg hother] at horderly
    exact h.pollVideo hledger hquota setting now answer fails hmem hother (horderly c hc)
  case suno =>
    rintro i item c rfl hc hplatform hneeds
    have hmem := mem_of_ready hc
    have hsuno := (platform_eq_of_account (hs c hmem).account).symm.trans hplatform
    rw [Orderly, if_pos hsuno] at horderly
    exact .pollSuno hledger h item c hsuno (horderly c hc hneeds)
  case statement => exact fun i fails c _ hc => h.execute fails hc
  case stop =>
    intro i c _ hc
    exact h.set { c with pending := [] } hc rfl (nil_subset _) rfl h.row rfl

end

/-! ### Runs -/

/-- What a run keeps in which failed tasks are refunded. -/
structure RefundInv (row : Task) (db : DB) (s : TaskState) : Prop
    extends s.Ledger row db (RefundStage row db), s.FailureRefunded where
  oneSave : s.row.platform = .suno → s.OneSave

lemma RefundInv.step {row : Task} {db : DB} {s : TaskState} (h : s.RefundInv row db)
    (hquota : row.quota ≠ 0) (setting : TaskSetting) {e : TaskEvent} (hok : s.Refunding e) :
    (step setting s e).RefundInv row db := by
  have hledger := h.toLedger.step (billingRule_refundStage row db hquota) setting hok.2.1
    fun _ => hok.2.2.1
  have hrefunded := h.toFailureRefunded.step h.toLedger hquota setting hok
  exact ⟨hledger, hrefunded, (status_step h.copies h.oneSave setting hok.1 hok.2.1).1⟩

/-- When no call has a statement to make, a failed task was refunded in full. -/
lemma RefundInv.refunded {row : Task} {db : DB} {s : TaskState} (h : s.RefundInv row db)
    (hfailure : s.row.status = .failure) (hidle : ∀ c ∈ s.calls, c.pending = []) :
    ∃ db', taskAdjustFunding row (-row.quota) db = .ok db' ∧
      s.db = taskAdjustTokenQuota false row (-row.quota) db' := by
  have hbilled := h.toFailureRefunded.row hfailure
  rcases h.phase with hopen | ⟨b, hb, i, c, hc, hstage, -⟩
  · rw [hopen.billings] at hbilled
    cases hbilled
  · obtain rfl : b = .refund := by simpa using hb.symm.trans hbilled
    have hdue : c.due = [] := by
      rw [TaskCall.due, hidle c (mem_of_getElem? hc), filter_nil]
    rw [hdue] at hstage
    rcases hstage with ⟨hmore, -⟩ | ⟨hmore, -⟩ | ⟨-, hdone⟩
    · cases hmore
    · cases hmore
    · exact hdone

/-- A task that is stored as failed when its pass has ended has got its quota back, to the funding
source and to the token, and a task that is stored as succeeded does not become a failed one, in
every run in order without bulk updates. -/
theorem failed_task_refunded (setting : TaskSetting) (row : Task) (db : DB)
    (hquota : 0 < row.quota) (hrow : row.status ≠ .failure) (es es' : List TaskEvent)
    (hes : Along (step setting) Refunding (start row db) (es ++ es')) :
    ((run (step setting) (start row db) es).row.status = .failure →
      (∀ c ∈ (run (step setting) (start row db) es).calls, c.pending = []) →
      ∃ db', taskAdjustFunding row (-row.quota) db = .ok db' ∧
        (run (step setting) (start row db) es).db =
          taskAdjustTokenQuota false row (-row.quota) db') ∧
    ((run (step setting) (start row db) es).row.status = .success →
      (run (step setting) (start row db) (es ++ es')).row.status ≠ .failure) := by
  have hinv : ∀ s e, RefundInv row db s → Refunding s e → (step setting s e).RefundInv row db :=
    fun s e hs hok => hs.step hquota.ne' setting hok
  have hnone : (start row db).NoSave := by
    intro c hc
    cases hc
  have hstart : (start row db).RefundInv row db := by
    refine ⟨ledger_start row db _, ⟨fun hfailure => absurd hfailure hrow, ?_⟩, ?_⟩
    · exact fun c hc hmem => absurd hmem (hnone c hc)
    · exact fun _ => .of_noSave hnone
  rw [along_append] at hes
  have hmid := hes.1.invariant hinv hstart
  refine ⟨hmid.refunded, fun hsuccess => ?_⟩
  rw [run_append]
  have hkeep : ∀ t e, t.RefundInv row db ∧ t.row.status = .success → t.Refunding e →
      (step setting t e).RefundInv row db ∧ (step setting t e).row.status = .success := by
    rintro t e ⟨ht, hstatus⟩ hok
    have hsame := (status_step ht.copies ht.oneSave setting hok.1 hok.2.1).2
    rw [hstatus] at hsame
    exact ⟨ht.step hquota.ne' setting hok, hsame rfl⟩
  rw [(hes.2.invariant hkeep ⟨hmid, hsuccess⟩).2]
  exact nofun

/-- A user and a token that a task was charged to. -/
def payerDB : DB :=
  { DB.empty with
    users := Table.empty.insert { id := 0, group := "default", quota := 1000 }
    tokens := Table.empty.insert
      { id := 0, key := "sk", remainQuota := 200, usedQuota := 500, unlimitedQuota := false } }

def payerRun (es : List TaskEvent) : TaskState :=
  run (step hourlySetting) (start (chargedTask (.video "sora")) payerDB) es

/-- The pass that fails the task gives 500 back to the user and to the token. -/
theorem failed_task_refunded_poll :
    ((payerRun failedPoll).row.status = .failure →
      (∀ c ∈ (payerRun failedPoll).calls, c.pending = []) →
      ∃ db', taskAdjustFunding (chargedTask (.video "sora")) (-500) payerDB = .ok db' ∧
        (payerRun failedPoll).db =
          taskAdjustTokenQuota false (chargedTask (.video "sora")) (-500) db') ∧
    ((payerRun failedPoll).row.status = .success →
      (payerRun (failedPoll ++ [.sweep 1900000000])).row.status ≠ .failure) :=
  failed_task_refunded hourlySetting (chargedTask (.video "sora")) payerDB (by decide) (by decide)
    failedPoll [.sweep 1900000000] (by decide +kernel)

/-- The pass that does not find the channel of the task stores it as failed and gives nothing back;
and it does so to a task that another pass has stored as succeeded. -/
theorem failed_task_not_refunded :
    ((payerRun [.poll, .missingChannel 0 false]).row.status = .failure ∧
      (∀ c ∈ (payerRun [.poll, .missingChannel 0 false]).calls, c.pending = []) ∧
      ((payerRun [.poll, .missingChannel 0 false]).db.users.find 1).map User.quota = some 1000 ∧
      (payerDB.users.find 1).map User.quota = some 1000) ∧
    ((payerRun [.poll, .poll, .video 0 1800000100 succeededAnswer false]).row.status = .success ∧
      (payerRun [.poll, .poll, .video 0 1800000100 succeededAnswer false,
        .missingChannel 1 false]).row.status = .failure) := by
  decide +kernel

end TaskState

end XinghaiApi
