import XinghaiApi.Service.TaskExclusion

/-!
# The money of a task

In a run in order a task is billed once, so at any moment at most one call has statements of a
billing to make. What is true of the database and of the money moved then only depends on how far
that call has come. `BillingRule` says what has to be shown of a relation between the two for it to
hold throughout; the refund of failed tasks is one instance.
-/

namespace XinghaiApi

open TaskCall List

variable {rest : List TaskStatement}

def TaskCall.due (c : TaskCall) : List TaskStatement := c.pending.filter (·.isBilling)

/-- Whether the funding source can do what the next statement asks of it. -/
def TaskCall.isFunded (db : DB) (c : TaskCall) : Bool :=
  match c.pending with
  | .funding delta :: _ => (taskAdjustFunding c.task delta db).isOk
  | _ => true

lemma TaskCall.due_cons {c : TaskCall} {x : TaskStatement} (h : c.pending = x :: rest)
    (hx : x.isBilling = true) : c.due = x :: rest.filter (·.isBilling) := by
  rw [due, h, filter_cons_of_pos hx]

lemma TaskCall.due_save {c : TaskCall} (h : c.pending = .save :: rest) :
    c.due = rest.filter (·.isBilling) := by
  rw [due, h]
  exact filter_cons_of_neg (by simp [TaskStatement.isBilling])

lemma refundTaskQuota_congr {t t' : Task} (h : t.quota = t'.quota) :
    refundTaskQuota t = refundTaskQuota t' := by
  simp [refundTaskQuota, h]

@[simp] lemma filter_refundTaskQuota (t : Task) :
    (refundTaskQuota t).filter (·.isBilling) = refundTaskQuota t := by
  simp only [refundTaskQuota]
  split_ifs <;> rfl

@[simp] lemma filter_settleOnComplete (setting : TaskSetting)
    (adjusted totalTokens : Int) (db : DB) (t : Task) :
    (settleTaskBillingOnComplete setting adjusted totalTokens db t).filter (·.isBilling) =
      settleTaskBillingOnComplete setting adjusted totalTokens db t := by
  rcases settleOnComplete_cases setting adjusted totalTokens db t with
    hnone | ⟨actual, -, heq⟩
  · rw [hnone, filter_nil]
  · rw [heq]
    rfl

def IsSettlement (quota : Int) (due : List TaskStatement) : Prop :=
  due = [] ∨ ∃ actual, 0 < actual ∧
    due = [.funding (actual - quota), .token (actual - quota), .quota actual]

/-- What has to be shown of a relation `R` between the statements that a billing has still to make,
the database, and what the funding source has paid and got back. Where `strict` is set no statement
fails and no process ends on the way. -/
structure BillingRule (row : Task) (db : DB) (strict : Bool)
    (R : TaskBilling → List TaskStatement → DB → Int → Int → Prop) : Prop where
  refund : R .refund (refundTaskQuota row) db 0 0
  settle : ∀ due, IsSettlement row.quota due → R .settle due db 0 0
  funding : ∀ b delta due x x' taken given, R b (.funding delta :: due) x taken given →
    taskAdjustFunding row delta x = .ok x' →
    R b due x' (taken + max delta 0) (given + max (-delta) 0)
  token : ∀ b delta due x fails taken given, (strict = true → fails = false) →
    R b (.token delta :: due) x taken given →
    R b due (taskAdjustTokenQuota fails row delta x) taken given
  quota : ∀ b actual due x taken given, R b (.quota actual :: due) x taken given →
    R b due x taken given
  dropped : ∀ b due x taken given, strict = false → R b due x taken given → R b [] x taken given

namespace TaskState

/-- Every statement succeeds, and no process ends with statements to make. -/
def Undisturbed (s : TaskState) : TaskEvent → Prop
  | .statement i fails => fails = false ∧ ∀ c ∈ s.calls[i]?, c.isFunded s.db = true
  | .stop i => ∀ c ∈ s.calls[i]?, c.pending = []
  | _ => True

instance (s : TaskState) : DecidablePred s.Undisturbed
  | .statement i _ => inferInstanceAs (Decidable (_ ∧ ∀ c ∈ s.calls[i]?, _))
  | .stop i => inferInstanceAs (Decidable (∀ c ∈ s.calls[i]?, _))
  | .sweep _ | .poll | .timeOut _ _ _ | .missingId _ _ | .missingChannel _ _ | .video _ _ _ _
  | .suno _ _ => .isTrue trivial

/-! ### Before and after the billing has started -/

/-- Nothing was billed: the database is the one of the start, and every copy has the quota. -/
structure Unbilled (row : Task) (db : DB) (s : TaskState) : Prop where
  billings : s.billings = []
  db : s.db = db
  taken : s.taken = 0
  given : s.given = 0
  quota : s.row.quota = row.quota
  copies : ∀ c ∈ s.calls, c.task.quota = row.quota
  due : ∀ c ∈ s.calls, c.due = []

/-- A billing is under way, or done: its statements are those of one call. -/
def Billed (R : TaskBilling → List TaskStatement → DB → Int → Int → Prop) (s : TaskState) : Prop :=
  ∃ b, s.billings = [b] ∧ ∃ (i : ℕ) (c : TaskCall), s.calls[i]? = some c ∧
    R b c.due s.db s.taken s.given ∧
    ∀ (j : ℕ) (c' : TaskCall), s.calls[j]? = some c' → j ≠ i → c'.due = []

section

variable {row : Task} {db : DB} {strict : Bool}
  {R : TaskBilling → List TaskStatement → DB → Int → Int → Prop} {s s' : TaskState} {c : TaskCall}
  {i : ℕ}

/-- A call moves without a billing. -/
lemma Unbilled.set (h : s.Unbilled row db) (hquota : c.task.quota = row.quota)
    (hdue : c.due = []) (hrow : s'.row.quota = row.quota) (hcalls : s'.calls = s.calls.set i c)
    (hbillings : s'.billings = s.billings) (hdb : s'.db = s.db) (htaken : s'.taken = s.taken)
    (hgiven : s'.given = s.given) :
    s'.Unbilled row db where
  billings := hbillings.trans h.billings
  db := hdb.trans h.db
  taken := htaken.trans h.taken
  given := hgiven.trans h.given
  quota := hrow
  copies := hcalls ▸ Pool.forall_mem_set h.copies hquota
  due := hcalls ▸ Pool.forall_mem_set h.due hdue

lemma Unbilled.write (h : s.Unbilled row db) (i : ℕ) {row' : Task} (hrow : row'.quota = row.quota)
    (hquota : c.task.quota = row.quota) (hdue : c.due = []) :
    (s.write i row' c none).Unbilled row db :=
  h.set hquota hdue hrow rfl (append_nil _) rfl rfl rfl

lemma Unbilled.bill (h : s.Unbilled row db) (hi : i < s.calls.length) (row' : Task)
    {b : TaskBilling} (hR : R b c.due db 0 0) : (s.write i row' c (some b)).Billed R := by
  have hbillings : s.billings ++ [b] = [b] := by rw [h.billings, nil_append]
  refine ⟨b, hbillings, i, c, List.getElem?_set_self hi, ?_, ?_⟩
  · simp only [TaskState.write, h.db, h.taken, h.given]
    exact hR
  · intro j c' hc' hne
    have hold : s.calls[j]? = some c' := (List.getElem?_set_ne (Ne.symm hne)).symm.trans hc'
    exact h.due c' (mem_of_getElem? hold)

/-- A call moves without a change of what it has still to bill. -/
lemma Billed.set (h : s.Billed R) (c' : TaskCall) (hc : s.calls[i]? = some c)
    (hdue : c'.due = c.due) (hcalls : s'.calls = s.calls.set i c')
    (hbillings : s'.billings = s.billings) (hdb : s'.db = s.db) (htaken : s'.taken = s.taken)
    (hgiven : s'.given = s.given) : s'.Billed R := by
  obtain ⟨b, hb, k, d, hd, hR, hothers⟩ := h
  obtain ⟨hi, -⟩ := List.getElem?_eq_some_iff.mp hc
  by_cases hik : i = k
  · subst hik
    obtain rfl : c = d := Option.some.inj (hc.symm.trans hd)
    refine ⟨b, hbillings.trans hb, i, c', ?_, ?_, ?_⟩
    · rw [hcalls, List.getElem?_set_self hi]
    · rw [hdue, hdb, htaken, hgiven]
      exact hR
    · intro j x hx hne
      rw [hcalls, List.getElem?_set_ne (Ne.symm hne)] at hx
      exact hothers j x hx hne
  · refine ⟨b, hbillings.trans hb, k, d, ?_, ?_, ?_⟩
    · rw [hcalls, List.getElem?_set_ne hik]
      exact hd
    · rw [hdb, htaken, hgiven]
      exact hR
    · intro j x hx hne
      rw [hcalls] at hx
      by_cases hij : i = j
      · subst hij
        rw [List.getElem?_set_self hi] at hx
        rw [← Option.some.inj hx, hdue]
        exact hothers i c hc hne
      · rw [List.getElem?_set_ne hij] at hx
        exact hothers j x hx hne

lemma Billed.write (h : s.Billed R) {c' : TaskCall} (hc : s.calls[i]? = some c) (row' : Task)
    (hdue : c'.due = c.due) : (s.write i row' c' none).Billed R :=
  h.set c' hc hdue rfl (append_nil _) rfl rfl rfl

lemma Billed.advance (h : s.Billed R) (c' : TaskCall) (hc : s.calls[i]? = some c)
    (hdue : c.due ≠ [])
    (hR : ∀ b, R b c.due s.db s.taken s.given → R b c'.due s'.db s'.taken s'.given)
    (hcalls : s'.calls = s.calls.set i c') (hbillings : s'.billings = s.billings) :
    s'.Billed R := by
  obtain ⟨b, hb, k, d, hd, hRd, hothers⟩ := h
  obtain rfl : i = k := by
    by_contra hik
    exact hdue (hothers i c hc hik)
  obtain rfl : c = d := Option.some.inj (hc.symm.trans hd)
  obtain ⟨hi, -⟩ := List.getElem?_eq_some_iff.mp hc
  refine ⟨b, hbillings.trans hb, i, c', ?_, hR b hRd, ?_⟩
  · rw [hcalls, List.getElem?_set_self hi]
  · intro j x hx hne
    rw [hcalls, List.getElem?_set_ne (Ne.symm hne)] at hx
    exact hothers j x hx hne

lemma Billed.load (h : s.Billed R) (kind : TaskCallKind) : (s.load kind).Billed R := by
  obtain ⟨b, hb, i, c, hc, hR, hothers⟩ := h
  obtain ⟨hi, -⟩ := List.getElem?_eq_some_iff.mp hc
  refine ⟨b, hb, i, c, ?_, hR, ?_⟩
  · exact (List.getElem?_append_left hi).trans hc
  · intro j x hx hne
    by_cases hj : j < s.calls.length
    · exact hothers j x ((List.getElem?_append_left hj).symm.trans hx) hne
    · have hnew : (s.calls ++ [({ kind := kind, task := s.row } : TaskCall)])[j]? = some x := hx
      rw [List.getElem?_append_right (by omega)] at hnew
      rw [mem_singleton.mp (mem_of_getElem? hnew)]
      rfl

section

variable (rule : BillingRule row db strict R)

include rule

lemma Unbilled.pollVideo (h : s.Unbilled row db) (setting : TaskSetting) (now : Int)
    (answer : VideoAnswer) (fails : Bool) (hi : i < s.calls.length)
    (hquota : c.task.quota = row.quota) :
    (s.pollVideo setting i now answer fails c).Unbilled row db ∨
      (s.pollVideo setting i now answer fails c).Billed R := by
  have hnew := quota_updateVideoTask setting now answer fails s.row c.task
  have hrow := row_updateVideoTask setting now answer fails s.row c.task
  simp only [TaskState.pollVideo]
  generalize updateVideoSingleTask setting now answer fails s.row c.task = u at hnew hrow ⊢
  obtain ⟨uRow, task, billing, totalTokens⟩ := u
  simp only at hnew hrow ⊢
  cases billing with
  | none =>
    refine Or.inl (h.write i ?_ (hnew.trans hquota) rfl)
    rcases hrow with rfl | ⟨-, rfl⟩
    · exact h.quota
    · exact hnew.trans hquota
  | some b =>
    refine Or.inr (h.bill hi _ ?_)
    cases b with
    | settle =>
      simp only [TaskCall.due, videoStatements, filter_settleOnComplete]
      refine rule.settle _ ?_
      rw [← hnew.trans hquota]
      exact settleOnComplete_cases _ _ _ _ _
    | refund =>
      simp only [TaskCall.due, videoStatements, filter_refundTaskQuota]
      rw [refundTaskQuota_congr (hnew.trans hquota)]
      exact rule.refund

/-- A task that was not billed is still not, or the rule holds of the billing that has started. -/
theorem Unbilled.step (h : s.Unbilled row db) (setting : TaskSetting) (e : TaskEvent) :
    (step setting s e).Unbilled row db ∨ (step setting s e).Billed R := by
  have hcall : ∀ {i : ℕ} {c : TaskCall}, s.calls[i]? = some c →
      i < s.calls.length ∧ c.task.quota = row.quota ∧ c.due = [] := by
    intro i c hc
    have hmem := mem_of_getElem? hc
    exact ⟨(List.getElem?_eq_some_iff.mp hc).1, h.copies c hmem, h.due c hmem⟩
  apply step_cases (P := fun s' => s'.Unbilled row db ∨ s'.Billed R)
  case same => exact Or.inl h
  case load =>
    intro kind _
    refine Or.inl ⟨h.billings, h.db, h.taken, h.given, h.quota, ?_, ?_⟩
    · intro c hc
      rcases mem_append.mp hc with hc | hc
      · exact h.copies c hc
      · rw [mem_singleton.mp hc]
        exact h.quota
    · intro c hc
      rcases mem_append.mp hc with hc | hc
      · exact h.due c hc
      · rw [mem_singleton.mp hc]
        rfl
  case timeOut =>
    intro i now fails c _ hc
    obtain ⟨hi, hquota, -⟩ := hcall (ready_eq_some.mp hc).1
    rcases sweepTask_cases setting i now fails c s with heq | ⟨-, -, heq⟩ | ⟨-, heq⟩ <;> rw [heq]
    · exact Or.inl (h.write i h.quota hquota rfl)
    · exact Or.inl (h.write i hquota hquota rfl)
    · refine Or.inr (h.bill hi _ ?_)
      have hnew : (timedOutTask setting now c.task).quota = row.quota := hquota
      rw [TaskCall.due, filter_refundTaskQuota, refundTaskQuota_congr hnew]
      exact rule.refund
  case missingId =>
    exact fun _ _ _ => Or.inl ⟨h.billings, h.db, h.taken, h.given, h.quota, h.copies, h.due⟩
  case missingChannel =>
    exact fun _ _ _ _ => Or.inl ⟨h.billings, h.db, h.taken, h.given, h.quota, h.copies, h.due⟩
  case video =>
    intro i now answer fails c _ hc _
    obtain ⟨hi, hquota, -⟩ := hcall (ready_eq_some.mp hc).1
    exact h.pollVideo rule setting now answer fails hi hquota
  case suno =>
    intro i item c _ hc _ _
    obtain ⟨hi, hquota, -⟩ := hcall (ready_eq_some.mp hc).1
    have hnew : (applySunoItem item c.task).quota = row.quota := hquota
    simp only [pollSuno]
    split_ifs
    · refine Or.inr (h.bill hi _ ?_)
      rw [TaskCall.due, filter_append, filter_refundTaskQuota, refundTaskQuota_congr hnew]
      exact (append_nil _).symm ▸ rule.refund
    · exact Or.inl (h.write i h.quota hnew rfl)
  case statement =>
    intro i fails c _ hc
    obtain ⟨-, hquota, hdue⟩ := hcall hc
    -- nothing is due, so the statement can only be a save
    have hnot : ∀ x rest, c.pending = x :: rest → x.isBilling = true → False := by
      intro x rest hpending hx
      rw [c.due_cons hpending hx] at hdue
      cases hdue
    apply execute_cases (P := fun s' => s'.Unbilled row db ∨ s'.Billed R)
    case none => exact fun _ => Or.inl h
    case unfunded => exact fun _ _ _ hpending _ => (hnot _ _ hpending rfl).elim
    case funded => exact fun _ _ _ hpending _ => (hnot _ _ hpending rfl).elim
    case token => exact fun _ _ hpending => (hnot _ _ hpending rfl).elim
    case quota => exact fun _ _ hpending => (hnot _ _ hpending rfl).elim
    case save =>
      intro rest hpending
      have hrest := (c.due_save hpending).symm.trans hdue
      refine Or.inl (h.set (c := { c with pending := rest }) hquota hrest ?_ rfl rfl rfl rfl rfl)
      cases fails with
      | true => exact h.quota
      | false => exact hquota
  case stop =>
    intro i c _ hc
    have hquota := (hcall hc).2.1
    exact Or.inl (h.set (c := { c with pending := [] }) hquota rfl h.quota rfl rfl rfl rfl rfl)

lemma Billed.execute (h : s.Billed R) {fails : Bool} (hc : s.calls[i]? = some c)
    (haccount : c.task.account = row.account)
    (hstrict : strict = true → s.Undisturbed (.statement i fails)) :
    (s.execute fails i c).Billed R := by
  apply execute_cases
  case none => exact fun _ => h
  case unfunded =>
    intro delta rest error hpending herror
    have hdue := c.due_cons hpending rfl
    have hloose : strict = false := by
      by_contra hnot
      rw [Bool.not_eq_false] at hnot
      obtain ⟨rfl, hfunds⟩ := hstrict hnot
      have hok := hfunds c hc
      have hfails : taskAdjustFunding c.task delta s.db = .error error := by
        simpa [attempt] using herror
      simp only [isFunded, hpending, hfails] at hok
      cases hok
    refine h.advance { c with pending := rest.filter (!·.isBilling) } hc
      (by simp [hdue]) (fun b hR => ?_) rfl rfl
    have hnone : due { c with pending := rest.filter (!·.isBilling) } = [] := by
      simp [due]
    rw [hnone]
    exact rule.dropped b c.due s.db s.taken s.given hloose hR
  case funded =>
    intro delta rest db' hpending hok
    have hdue := c.due_cons hpending rfl
    obtain ⟨-, hok⟩ := attempt_eq_ok.mp hok
    rw [taskAdjustFunding_congr haccount] at hok
    refine h.advance { c with pending := rest } hc (by simp [hdue]) (fun b hR => ?_)
      rfl rfl
    rw [hdue] at hR
    exact rule.funding b delta _ s.db db' s.taken s.given hR hok
  case token =>
    intro delta rest hpending
    have hdue := c.due_cons hpending rfl
    refine h.advance { c with pending := rest } hc (by simp [hdue]) (fun b hR => ?_)
      rfl rfl
    rw [hdue] at hR
    rw [taskAdjustTokenQuota_congr haccount]
    exact rule.token b delta _ s.db fails s.taken s.given (fun hs => (hstrict hs).1) hR
  case quota =>
    intro actual rest hpending
    have hdue := c.due_cons hpending rfl
    refine h.advance { c with task := { c.task with quota := actual }, pending := rest } hc
      (by simp [hdue]) (fun b hR => ?_) rfl rfl
    rw [hdue] at hR
    exact rule.quota b actual _ s.db s.taken s.given hR
  case save =>
    intro rest hpending
    exact h.set { c with pending := rest } hc (c.due_save hpending).symm rfl rfl rfl rfl rfl

/-- The rule holds of a billing to its end, as long as no second one starts. -/
theorem Billed.step (h : s.Billed R) (hs : s.Copies) (haccount : s.row.account = row.account)
    (setting : TaskSetting) {e : TaskEvent} (hstrict : strict = true → s.Undisturbed e)
    (honce : (step setting s e).billings.length ≤ 1) : (step setting s e).Billed R := by
  -- a step that bills would be the second to do so
  have hsecond : ∀ {i : ℕ} {row' : Task} {c : TaskCall} {b : TaskBilling},
      ¬(s.write i row' c (some b)).billings.length ≤ 1 := by
    obtain ⟨b, hb, -⟩ := h
    simp [TaskState.write, hb]
  -- a call that is ready has nothing due
  have hidle : ∀ {kind i c}, s.ready kind i = some c → s.calls[i]? = some c ∧ c.due = [] := by
    intro kind i c hc
    obtain ⟨hget, -, hpending⟩ := ready_eq_some.mp hc
    exact ⟨hget, by rw [due, hpending, filter_nil]⟩
  revert honce
  apply step_cases (P := fun s' => s'.billings.length ≤ 1 → s'.Billed R)
  case same => exact fun _ => h
  case load => exact fun kind _ _ => h.load kind
  case timeOut =>
    intro i now fails c _ hc
    obtain ⟨hget, hdue⟩ := hidle hc
    rcases sweepTask_cases setting i now fails c s with heq | ⟨-, -, heq⟩ | ⟨-, heq⟩ <;> rw [heq]
    · exact fun _ => h.write hget _ hdue.symm
    · exact fun _ => h.write hget _ hdue.symm
    · exact fun honce => absurd honce hsecond
  case missingId => exact fun _ _ _ _ => h
  case missingChannel => exact fun _ _ _ _ _ => h
  case video =>
    intro i now answer fails c _ hc _
    obtain ⟨hget, hdue⟩ := hidle hc
    simp only [TaskState.pollVideo]
    generalize updateVideoSingleTask setting now answer fails s.row c.task = u
    obtain ⟨uRow, task, billing, totalTokens⟩ := u
    cases billing with
    | none => exact fun _ => h.write hget _ hdue.symm
    | some b => exact fun honce => absurd honce hsecond
  case suno =>
    intro i item c _ hc _ _
    obtain ⟨hget, hdue⟩ := hidle hc
    simp only [TaskState.pollSuno]
    split_ifs
    · exact fun honce => absurd honce hsecond
    · exact fun _ => h.write hget _ hdue.symm
  case statement =>
    rintro i fails c rfl hc -
    have hcopy := (hs c (mem_of_getElem? hc)).account
    exact h.execute rule hc (hcopy.trans haccount) hstrict
  case stop =>
    rintro i c rfl hc -
    by_cases hdue : c.due = []
    · exact h.set { c with pending := [] } hc hdue.symm rfl rfl rfl rfl rfl
    · have hloose : strict = false := by
        by_contra hnot
        rw [Bool.not_eq_false] at hnot
        have hpending : c.pending = [] := hstrict hnot c hc
        exact hdue (by rw [due, hpending, filter_nil])
      refine h.advance { c with pending := [] } hc hdue (fun b hR => ?_) rfl rfl
      exact rule.dropped b c.due s.db s.taken s.given hloose hR

end

/-! ### Runs -/

/-- What a run in order keeps of the money of a task. -/
structure Ledger (row : Task) (db : DB)
    (R : TaskBilling → List TaskStatement → DB → Int → Int → Prop) (s : TaskState) : Prop
    extends s.BilledOnce where
  account : s.row.account = row.account
  phase : s.Unbilled row db ∨ s.Billed R

lemma ledger_start (row : Task) (db : DB)
    (R : TaskBilling → List TaskStatement → DB → Int → Int → Prop) :
    (start row db).Ledger row db R := by
  refine ⟨billedOnce_start row db, rfl, Or.inl ⟨rfl, rfl, rfl, rfl, rfl, ?_, ?_⟩⟩
  · intro c hc
    cases hc
  · intro c hc
    cases hc

theorem Ledger.step (h : s.Ledger row db R) (rule : BillingRule row db strict R)
    (setting : TaskSetting) {e : TaskEvent} (hok : s.Orderly e)
    (hstrict : strict = true → s.Undisturbed e) : (step setting s e).Ledger row db R := by
  have hnext := h.toBilledOnce.step setting hok
  refine ⟨hnext, (h.copies.step setting e).2.trans h.account, ?_⟩
  rcases h.phase with hopen | hbilled
  · exact hopen.step rule setting e
  · exact Or.inr (hbilled.step rule h.copies h.account setting hstrict hnext.length_le)

end

end TaskState

end XinghaiApi
