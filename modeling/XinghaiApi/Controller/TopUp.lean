import XinghaiApi.Lib.Pool
import XinghaiApi.Lib.Run
import XinghaiApi.Model.TopUp

/-!
# Payment callbacks of a top-up order

Any number of calls for one order, in any number of server processes, one database statement at a
time. Most calls are one transaction that holds the lock of the row. `EpayNotify` is not: it reads
the row without a lock, saves the whole row, and credits the user in a third statement. The lock
that all calls of a process share does not reach other processes.

Any statement may fail, and a process may crash at any time. What the user has been credited for
the order is recorded in a list, which the quota of the user is compared with.
-/

namespace XinghaiApi

open Machine TopUpTransaction Pool List

/-! ### Calls -/

inductive TopUpCallKind where
  /-- a paid and verified notification; `type` is the payment method it names -/
  | epayNotify (type : String)
  /-- Stripe reports that a delayed payment has failed -/
  | sessionAsyncPaymentFailed
  | transaction (t : TopUpTransaction)
deriving DecidableEq

/-- Whether the handler takes the lock of the order in its process: all do but one. -/
def TopUpCallKind.locksOrder : TopUpCallKind → Bool
  | .transaction .waffoPaymentFailed => false
  | _                                => true

/-- Where a call stands: which statement comes next, and what it has in hand. -/
inductive TopUpPhase where
  /-- waits for the lock of the order -/
  | waiting (kind : TopUpCallKind)
  /-- is about to read the row -/
  | running (kind : TopUpCallKind)
  /-- `EpayNotify` has read a pending order -/
  | epayRead (type : String) (topUp : TopUp)
  /-- `EpayNotify` has saved the row, and the credit is to come -/
  | epaySaved (topUp : TopUp)
  /-- `sessionAsyncPaymentFailed` has read a pending order -/
  | failureRead (topUp : TopUp)
  /-- holds the lock of the row and is to commit -/
  | inTransaction (write : TopUpWrite)
  | finished
deriving DecidableEq

def TopUpPhase.isSaved : TopUpPhase → Bool
  | .epaySaved _ => true
  | _            => false

def TopUpPhase.isInTransaction : TopUpPhase → Bool
  | .inTransaction _ => true
  | _                => false

/-- A call past the lock of the order and not yet at its end. -/
def TopUpPhase.isActive : TopUpPhase → Bool
  | .waiting _ => false
  | .finished  => false
  | _          => true

structure TopUpCall where
  process : ℕ
  locksOrder : Bool
  phase : TopUpPhase
deriving DecidableEq

/-! ### The machine -/

structure TopUpState where
  /-- the row of the order -/
  topUp : TopUp
  /-- the quota of the user -/
  userQuota : ℚ
  /-- what the user has been credited for the order -/
  credits : List ℚ := []
  calls : List TopUpCall := []

inductive TopUpEvent where
  /-- a process receives a call -/
  | deliver (process : ℕ) (kind : TopUpCallKind)
  /-- a call makes its next statement -/
  | statement (call : ℕ) (now : Int) (fails : Bool)
  | crash (process : ℕ)
deriving DecidableEq

namespace TopUpState

variable (quotaPerUnit : ℚ)

/-- Some call of the process holds the lock of the order there. -/
def orderLocked (process : ℕ) (s : TopUpState) : Bool :=
  s.calls.any fun c => c.process == process && c.locksOrder && c.phase.isActive

/-- Some transaction holds the lock of the row. -/
def rowLocked (s : TopUpState) : Bool :=
  s.calls.any fun c => c.phase.isInTransaction

def put (i : ℕ) (c : TopUpCall) (phase : TopUpPhase) (s : TopUpState) : TopUpState :=
  { s with calls := s.calls.set i { c with phase := phase } }

def addCredit (amount : ℚ) (s : TopUpState) : TopUpState :=
  { s with userQuota := s.userQuota + amount, credits := s.credits ++ [amount] }

def write (w : TopUpWrite) (s : TopUpState) : TopUpState :=
  match w.credit with
  | none        => { s with topUp := w.topUp }
  | some amount => { s with topUp := w.topUp }.addCredit amount

/-- The first read of a call. A read that fails ends it, as does an order it is not for. -/
def readOrder (i : ℕ) (now : Int) (c : TopUpCall) (s : TopUpState) : TopUpCallKind → TopUpState
  | .epayNotify type =>
    if s.topUp.paymentProvider = paymentProviderEpay ∧ s.topUp.status = .pending
      then s.put i c (.epayRead type s.topUp) else s.put i c .finished
  | .sessionAsyncPaymentFailed =>
    if s.topUp.paymentProvider = paymentProviderStripe ∧ s.topUp.status = .pending
      then s.put i c (.failureRead s.topUp) else s.put i c .finished
  | .transaction t =>
    if s.rowLocked then s
    else
      match t.body quotaPerUnit now s.topUp with
      | .ok (some w) => s.put i c (.inTransaction w)
      | _            => s.put i c .finished

/-- The next statement of a call. One that waits for a lock does nothing. -/
def statement (i : ℕ) (now : Int) (fails : Bool) (c : TopUpCall) (s : TopUpState) : TopUpState :=
  match c.phase with
  | .waiting kind => if s.orderLocked c.process then s else s.put i c (.running kind)
  | .running kind =>
    if fails then s.put i c .finished else s.readOrder quotaPerUnit i now c kind
  | .epayRead type topUp =>
    if fails then s.put i c .finished
    else if s.rowLocked then s
    else { s with topUp := { topUp with paymentMethod := type, status := .success } }.put i c
      (.epaySaved topUp)
  | .epaySaved topUp =>
    let quotaToAdd := truncate (topUp.amount * quotaPerUnit)
    if fails ∨ quotaToAdd < 0 then s.put i c .finished
    else (s.addCredit quotaToAdd).put i c .finished
  | .failureRead topUp =>
    if fails then s.put i c .finished
    else if s.rowLocked then s
    else { s with topUp := { topUp with status := .failed } }.put i c .finished
  | .inTransaction w => if fails then s.put i c .finished else (s.write w).put i c .finished
  | .finished => s

def step (s : TopUpState) : TopUpEvent → TopUpState
  | .deliver process kind =>
    let phase := if kind.locksOrder then .waiting kind else .running kind
    { s with calls := s.calls ++
        [{ process := process, locksOrder := kind.locksOrder, phase := phase }] }
  | .statement i now fails =>
    match s.calls[i]? with
    | none   => s
    | some c => s.statement quotaPerUnit i now fails c
  | .crash process =>
    { s with calls := s.calls.map fun c =>
        if c.process = process then { c with phase := .finished } else c }

/-! ### Credits given and to come -/

/-- The calls that have saved the order as paid and have still to give its credit. -/
def saved (s : TopUpState) : ℕ := s.calls.countP (·.phase.isSaved)

def transactions (s : TopUpState) : ℕ := s.calls.countP (·.phase.isInTransaction)

/-- The credits for the order that have been given, and those that a saved call is to give. -/
def promised (s : TopUpState) : ℕ := s.credits.length + s.saved

end TopUpState

/-- What a call in this phase knows about the order. -/
def TopUpPhase.Valid (topUp : TopUp) : TopUpPhase → Prop
  | .epayRead _ t    => t.paymentProvider = paymentProviderEpay ∧
    topUp.paymentProvider = paymentProviderEpay
  | .failureRead t   => t.paymentProvider = paymentProviderStripe ∧
    topUp.paymentProvider = paymentProviderStripe
  | .inTransaction w => w.Closes topUp
  | _                => True

lemma TopUpPhase.Valid.of_provider {topUp topUp' : TopUp} {phase : TopUpPhase}
    (h : phase.Valid topUp) (hprovider : topUp'.paymentProvider = topUp.paymentProvider)
    (hfree : phase.isInTransaction = false) : phase.Valid topUp' := by
  cases phase with
  | epayRead type t => exact ⟨h.1, hprovider.trans h.2⟩
  | failureRead t => exact ⟨h.1, hprovider.trans h.2⟩
  | inTransaction w => cases hfree
  | waiting kind => trivial
  | running kind => trivial
  | epaySaved t => trivial
  | finished => trivial

namespace TopUpState

variable {topUp : TopUp}

/-- The invariant of the machine. A paid order has one credit, given or to come; a pending order
has none, nor has an order of Epay before it is paid. One transaction at a time holds the row. -/
structure Sound (base : ℚ) (s : TopUpState) : Prop where
  quota : s.userQuota = base + s.credits.sum
  pending : s.topUp.status = .pending → s.promised = 0
  success : s.topUp.status = .success → s.promised = 1
  unpaid : s.topUp.paymentProvider = paymentProviderEpay → s.topUp.status ≠ .success →
    s.promised = 0
  once : s.promised ≤ 1
  exclusive : s.transactions ≤ 1
  valid : ∀ c ∈ s.calls, c.phase.Valid s.topUp

section

variable {s : TopUpState} {base : ℚ} {i : ℕ} {c : TopUpCall} {phase : TopUpPhase}

lemma rowLocked_eq_false : s.rowLocked = false ↔
    ∀ c ∈ s.calls, c.phase.isInTransaction = false := by
  simp [rowLocked]

lemma transactions_of_unlocked (h : s.rowLocked = false) : s.transactions = 0 := by
  rw [transactions, countP_eq_zero]
  intro c hc
  rw [rowLocked_eq_false.mp h c hc]
  decide

lemma put_promised (hc : s.calls[i]? = some c) (hsaved : phase.isSaved = c.phase.isSaved) :
    (s.put i c phase).promised = s.promised := by
  have hcount : (s.put i c phase).saved = s.saved := countP_set_of_eq hc hsaved
  rw [promised, hcount]
  rfl

/-- A call enters a transaction only when no other is in one. -/
lemma put_exclusive (h : s.transactions ≤ 1) (hc : s.calls[i]? = some c)
    (hlock : phase.isInTransaction = true → s.rowLocked = false) :
    (s.put i c phase).transactions ≤ 1 := by
  cases hin : phase.isInTransaction with
  | false =>
    cases hwas : c.phase.isInTransaction with
    | false =>
      have hsame : (s.put i c phase).transactions = s.transactions :=
        countP_set_of_eq hc (hin.trans hwas.symm)
      exact hsame.le.trans h
    | true =>
      have hleft : (s.put i c phase).transactions + 1 = s.transactions :=
        countP_set_leave hc hwas hin
      omega
  | true =>
    have hfree := hlock hin
    have hout : c.phase.isInTransaction = false :=
      rowLocked_eq_false.mp hfree c (mem_of_getElem? hc)
    have hentered : (s.put i c phase).transactions = s.transactions + 1 :=
      countP_set_enter hc hout hin
    have hnone := transactions_of_unlocked hfree
    omega

section

variable (h : s.Sound base)

include h

/-- A step that leaves the order and the number of promised credits as they are. -/
lemma Sound.of_promised {s' : TopUpState} (htopUp : s'.topUp = s.topUp)
    (hpromised : s'.promised = s.promised) (hquota : s'.userQuota = base + s'.credits.sum)
    (hexclusive : s'.transactions ≤ 1) (hvalid : ∀ c ∈ s'.calls, c.phase.Valid s.topUp) :
    s'.Sound base := by
  refine ⟨hquota, ?_, ?_, ?_, hpromised.le.trans h.once, hexclusive, ?_⟩
  · rw [htopUp, hpromised]
    exact h.pending
  · rw [htopUp, hpromised]
    exact h.success
  · rw [htopUp, hpromised]
    exact h.unpaid
  · rw [htopUp]
    exact hvalid

/-- A call that moves on without touching the order, and without ending between the two writes of
`EpayNotify`. -/
lemma Sound.put (hc : s.calls[i]? = some c) (hsaved : phase.isSaved = c.phase.isSaved)
    (hvalid : phase.Valid s.topUp) (hlock : phase.isInTransaction = true → s.rowLocked = false) :
    (s.put i c phase).Sound base :=
  h.of_promised rfl (put_promised hc hsaved) h.quota (put_exclusive h.exclusive hc hlock)
    (forall_mem_set h.valid hvalid)

lemma Sound.finish (hc : s.calls[i]? = some c) (hsaved : c.phase.isSaved = false) :
    (s.put i c .finished).Sound base :=
  h.put hc hsaved.symm trivial nofun

/-- A write to the row of the provider's order is seen by no transaction. -/
lemma Sound.valid_of_unlocked (hfree : s.rowLocked = false)
    (hprovider : topUp.paymentProvider = s.topUp.paymentProvider) :
    ∀ c ∈ s.calls, c.phase.Valid topUp := by
  intro c hc
  exact (h.valid c hc).of_provider hprovider (rowLocked_eq_false.mp hfree c hc)

section

variable (hc : s.calls[i]? = some c)

include hc

/-- `EpayNotify` saves an order that has not been paid: its credit is now to come. -/
lemma Sound.epaySave {type : String} (hphase : c.phase = .epayRead type topUp)
    (hfree : s.rowLocked = false) (hunpaid : s.topUp.status ≠ .success) :
    ({ s with topUp := { topUp with paymentMethod := type, status := .success } }.put i c
      (.epaySaved topUp)).Sound base := by
  have hread : (TopUpPhase.epayRead type topUp).Valid s.topUp :=
    hphase ▸ h.valid c (mem_of_getElem? hc)
  have hentered : (s.put i c (.epaySaved topUp)).saved = s.saved + 1 :=
    countP_set_enter hc (by rw [hphase]; rfl) rfl
  have hnone := h.unpaid hread.2 hunpaid
  simp only [promised] at hnone
  have hone : ({ s with topUp := { topUp with paymentMethod := type, status := .success } }.put i c
      (.epaySaved topUp)).promised = 1 := by
    show s.credits.length + (s.put i c (.epaySaved topUp)).saved = 1
    omega
  refine ⟨h.quota, nofun, fun _ => hone, fun _ hne => absurd rfl hne, hone.le, ?_, ?_⟩
  · exact put_exclusive h.exclusive hc nofun
  · exact forall_mem_set (h.valid_of_unlocked hfree (hread.1.trans hread.2.symm)) trivial

/-- `sessionAsyncPaymentFailed` saves an order of Stripe, whatever has become of it. -/
lemma Sound.failureSave (hphase : c.phase = .failureRead topUp) (hfree : s.rowLocked = false) :
    ({ s with topUp := { topUp with status := .failed } }.put i c .finished).Sound base := by
  have hread : (TopUpPhase.failureRead topUp).Valid s.topUp :=
    hphase ▸ h.valid c (mem_of_getElem? hc)
  have hsame : ({ s with topUp := { topUp with status := .failed } }.put i c .finished).promised =
      s.promised := put_promised hc (by rw [hphase]; rfl)
  refine ⟨h.quota, nofun, nofun, ?_, hsame.le.trans h.once, ?_, ?_⟩
  · intro hepay
    exact absurd (hread.1.symm.trans hepay) (by decide)
  · exact put_exclusive h.exclusive hc nofun
  · exact forall_mem_set (h.valid_of_unlocked hfree (hread.1.trans hread.2.symm)) trivial

/-- `EpayNotify` gives the credit it had promised. -/
lemma Sound.epayCredit (hphase : c.phase = .epaySaved topUp) (amount : ℚ) :
    ((s.addCredit amount).put i c .finished).Sound base := by
  have hleft : (s.put i c .finished).saved + 1 = s.saved :=
    countP_set_leave hc (by rw [hphase]; rfl) rfl
  have hsame : ((s.addCredit amount).put i c .finished).promised = s.promised := by
    show (s.credits ++ [amount]).length + (s.put i c .finished).saved = s.credits.length + s.saved
    rw [length_append, length_singleton]
    omega
  refine h.of_promised rfl hsame ?_ (put_exclusive h.exclusive hc nofun)
    (forall_mem_set h.valid trivial)
  simp only [TopUpState.put, addCredit, sum_append, sum_singleton, h.quota]
  ring

/-- Once the transaction that holds the row has ended, none is left. -/
lemma Sound.free_after {w : TopUpWrite} (hphase : c.phase = .inTransaction w) :
    ∀ x ∈ s.calls.set i { c with phase := .finished }, x.phase.isInTransaction = false := by
  have hleft : (s.put i c .finished).transactions + 1 = s.transactions :=
    countP_set_leave hc (by rw [hphase]; rfl) rfl
  have hexclusive := h.exclusive
  have hnone : (s.put i c .finished).transactions = 0 := by omega
  intro x hx
  exact Bool.eq_false_iff.mpr (countP_eq_zero.mp hnone x hx)

/-- A transaction closes the order: paid with its credit, or given up without one. -/
lemma Sound.commit {w : TopUpWrite} (hphase : c.phase = .inTransaction w) :
    ((s.write w).put i c .finished).Sound base := by
  have hcloses : w.Closes s.topUp := by
    have hvalid := h.valid c (mem_of_getElem? hc)
    rw [hphase] at hvalid
    exact hvalid
  have hnone := h.pending hcloses.pending
  have hfree := h.free_after hc hphase
  have hvalid : ∀ x ∈ s.calls.set i { c with phase := .finished }, x.phase.Valid w.topUp := by
    intro x hx
    have hbefore : ∀ x ∈ s.calls.set i { c with phase := .finished }, x.phase.Valid s.topUp :=
      forall_mem_set h.valid trivial
    exact (hbefore x hx).of_provider hcloses.provider (hfree x hx)
  have hexclusive : (s.put i c .finished).transactions ≤ 1 := put_exclusive h.exclusive hc nofun
  have hcount : (s.put i c .finished).saved = s.saved := countP_set_of_eq hc (by rw [hphase]; rfl)
  simp only [promised] at hnone
  rcases hcloses.result with ⟨hstatus, hcredit⟩ | ⟨hstatus, hcredit, hprovider⟩
  · obtain ⟨amount, hamount⟩ := Option.ne_none_iff_exists'.mp hcredit
    have hone : ((s.write w).put i c .finished).promised = 1 := by
      simp only [TopUpState.write, hamount]
      show (s.credits ++ [amount]).length + (s.put i c .finished).saved = 1
      rw [length_append, length_singleton]
      omega
    simp only [TopUpState.write, hamount] at hone ⊢
    refine ⟨?_, ?_, fun _ => hone, fun _ hne => absurd hstatus hne, hone.le, hexclusive, hvalid⟩
    · simp only [TopUpState.put, addCredit, sum_append, sum_singleton, h.quota]
      ring
    · intro hpending
      exact absurd (hpending.symm.trans hstatus) (by decide)
  · have hzero : ((s.write w).put i c .finished).promised = 0 := by
      simp only [TopUpState.write, hcredit]
      show s.credits.length + (s.put i c .finished).saved = 0
      omega
    simp only [TopUpState.write, hcredit] at hzero ⊢
    refine ⟨h.quota, fun _ => hzero, ?_, fun _ _ => hzero, hzero.le.trans zero_le_one, hexclusive,
      hvalid⟩
    intro hsuccess
    change w.topUp.status = .success at hsuccess
    rcases hstatus with hstatus | hstatus <;> cases hstatus.symm.trans hsuccess

end

end

end

/-! ### Every step -/

variable (quotaPerUnit : ℚ)

/-- The condition on a step: `EpayNotify` does not save over an order that has been paid since it
was read, and once it has saved, its credit goes through and its process does not crash. -/
def Safe (s : TopUpState) : TopUpEvent → Prop
  | .deliver _ _ => True
  | .statement i _ fails =>
    match s.calls[i]?.map TopUpCall.phase with
    | some (.epayRead _ _)    => fails = true ∨ s.rowLocked = true ∨ s.topUp.status ≠ .success
    | some (.epaySaved topUp) => fails = false ∧ 0 ≤ truncate (topUp.amount * quotaPerUnit)
    | _                       => True
  | .crash process => ∀ c ∈ s.calls, c.process = process → c.phase.isSaved = false

instance Safe.decidable (s : TopUpState) (e : TopUpEvent) : Decidable (s.Safe quotaPerUnit e) := by
  unfold Safe
  split
  · infer_instance
  · split <;> infer_instance
  · infer_instance

section

variable {quotaPerUnit} {s : TopUpState} {base : ℚ} {i : ℕ} {c : TopUpCall}

section

variable (h : s.Sound base)

include h

lemma Sound.readOrder (hc : s.calls[i]? = some c) {kind : TopUpCallKind}
    (hphase : c.phase = .running kind) (now : Int) :
    (s.readOrder quotaPerUnit i now c kind).Sound base := by
  have hsaved : c.phase.isSaved = false := by
    rw [hphase]
    rfl
  cases kind with
  | epayNotify _ | sessionAsyncPaymentFailed =>
    simp only [TopUpState.readOrder]
    split_ifs with horder
    · exact h.put hc hsaved.symm ⟨horder.1, horder.1⟩ nofun
    · exact h.finish hc hsaved
  | transaction t =>
    simp only [TopUpState.readOrder]
    split_ifs with hlocked
    · exact h
    · split
      · rename_i w hbody
        exact h.put hc hsaved.symm (body_closes hbody)
          fun _ => Bool.eq_false_iff.mpr hlocked
      · exact h.finish hc hsaved

lemma Sound.statement (hc : s.calls[i]? = some c) (now : Int) (fails : Bool)
    (hsafe : s.Safe quotaPerUnit (.statement i now fails)) :
    (s.statement quotaPerUnit i now fails c).Sound base := by
  simp only [Safe, hc, Option.map_some] at hsafe
  unfold TopUpState.statement
  cases hphase : c.phase with
  | waiting kind =>
    simp only
    split_ifs
    · exact h
    · exact h.put hc (by rw [hphase]; rfl) trivial nofun
  | running kind =>
    simp only
    split_ifs
    · exact h.finish hc (by rw [hphase]; rfl)
    · exact h.readOrder hc hphase now
  | epayRead type topUp =>
    simp only [hphase] at hsafe ⊢
    split_ifs with hfails hlocked
    · exact h.finish hc (by rw [hphase]; rfl)
    · exact h
    · exact h.epaySave hc hphase (Bool.eq_false_iff.mpr hlocked)
        ((hsafe.resolve_left hfails).resolve_left hlocked)
  | epaySaved topUp =>
    simp only [hphase] at hsafe ⊢
    rw [if_neg (by simp [hsafe.1, hsafe.2])]
    exact h.epayCredit hc hphase _
  | failureRead topUp =>
    simp only
    split_ifs with hfails hlocked
    · exact h.finish hc (by rw [hphase]; rfl)
    · exact h
    · exact h.failureSave hc hphase (Bool.eq_false_iff.mpr hlocked)
  | inTransaction w =>
    simp only
    split_ifs
    · exact h.finish hc (by rw [hphase]; rfl)
    · exact h.commit hc hphase
  | finished => exact h

/-- A call that arrives changes nothing yet. -/
lemma Sound.deliver (process : ℕ) (kind : TopUpCallKind) :
    (s.step quotaPerUnit (.deliver process kind)).Sound base := by
  obtain ⟨phase, hphase, hkind⟩ : ∃ phase : TopUpPhase,
      (if kind.locksOrder then .waiting kind else .running kind) = phase ∧
        (phase = .waiting kind ∨ phase = .running kind) := by
    split_ifs
    · exact ⟨_, rfl, Or.inl rfl⟩
    · exact ⟨_, rfl, Or.inr rfl⟩
  have hquiet : phase.isSaved = false ∧ phase.isInTransaction = false ∧ phase.Valid s.topUp := by
    rcases hkind with rfl | rfl <;> exact ⟨rfl, rfl, trivial⟩
  simp only [TopUpState.step, hphase]
  have hpromised : ({ s with calls := s.calls ++ [⟨process, kind.locksOrder, phase⟩] } :
      TopUpState).promised = s.promised := by
    simp [promised, saved, hquiet.1]
  refine h.of_promised rfl hpromised h.quota ?_ ?_
  · simpa [transactions, hquiet.2.1] using h.exclusive
  · intro c hc
    rcases mem_append.mp hc with hc | hc
    · exact h.valid c hc
    · rw [mem_singleton.mp hc]
      exact hquiet.2.2

/-- The calls of a process that crashes are gone; none of them had a credit to give. -/
lemma Sound.crash {process : ℕ} (hsafe : s.Safe quotaPerUnit (.crash process)) :
    (s.step quotaPerUnit (.crash process)).Sound base := by
  simp only [TopUpState.step]
  generalize hstop : (fun c : TopUpCall =>
    if c.process = process then { c with phase := .finished } else c) = stop
  have hcases : ∀ c, stop c = { c with phase := .finished } ∧ c.process = process ∨ stop c = c := by
    intro c
    by_cases hprocess : c.process = process
    · exact Or.inl ⟨by simp [← hstop, hprocess], hprocess⟩
    · exact Or.inr (by simp [← hstop, hprocess])
  have hpromised : ({ s with calls := s.calls.map stop } : TopUpState).promised = s.promised := by
    have hcount : ({ s with calls := s.calls.map stop } : TopUpState).saved = s.saved := by
      apply countP_map_of_eq
      intro c hc
      rcases hcases c with ⟨hfinished, hprocess⟩ | hsame
      · rw [hfinished, hsafe c hc hprocess]
        rfl
      · rw [hsame]
    rw [promised, hcount]
    rfl
  refine h.of_promised rfl hpromised h.quota ?_ ?_
  · refine (countP_map_le ?_).trans h.exclusive
    intro c hc hin
    rcases hcases c with ⟨hfinished, -⟩ | hsame
    · rw [hfinished] at hin
      cases hin
    · rwa [hsame] at hin
  · intro x hx
    obtain ⟨c, hc, rfl⟩ := mem_map.mp hx
    rcases hcases c with ⟨hfinished, -⟩ | hsame
    · rw [hfinished]
      trivial
    · rw [hsame]
      exact h.valid c hc

lemma Sound.step {e : TopUpEvent} (hsafe : s.Safe quotaPerUnit e) :
    (s.step quotaPerUnit e).Sound base := by
  cases e with
  | deliver process kind => exact h.deliver process kind
  | statement i now fails =>
    simp only [TopUpState.step]
    cases hc : s.calls[i]? with
    | none => exact h
    | some c => exact h.statement hc now fails hsafe
  | crash process => exact h.crash hsafe

end

end

/-- A pending order on which no call has been made. -/
lemma sound_of_pending (h : topUp.status = .pending) (userQuota : ℚ) :
    ({ topUp := topUp, userQuota := userQuota } : TopUpState).Sound userQuota := by
  have hnone : ({ topUp := topUp, userQuota := userQuota } : TopUpState).promised = 0 := by
    rfl
  refine ⟨by simp, fun _ => hnone, ?_, fun _ _ => hnone, by simp [hnone], Nat.zero_le 1, by simp⟩
  intro hsuccess
  exact absurd (h.symm.trans hsuccess) (by decide)

/-! ### One credit an order -/

def Idle (s : TopUpState) : Prop := ∀ c ∈ s.calls, c.phase = .finished

instance Idle.decidable (s : TopUpState) : Decidable s.Idle :=
  inferInstanceAs (Decidable (∀ c ∈ s.calls, c.phase = .finished))

/-- The user has been credited at most once, and exactly once when the order is paid and no call is
in progress; the quota of the user has moved by these credits. -/
structure CreditedOnce (base : ℚ) (s : TopUpState) : Prop where
  atMostOnce : s.credits.length ≤ 1
  exactlyOnce : s.topUp.status = .success → s.Idle → s.credits.length = 1
  quota : s.userQuota = base + s.credits.sum

lemma Sound.creditedOnce {base : ℚ} {s : TopUpState} (h : s.Sound base) : s.CreditedOnce base := by
  refine ⟨(Nat.le_add_right _ _).trans h.once, ?_, h.quota⟩
  intro hsuccess hidle
  have hnone : s.saved = 0 := by
    rw [saved, countP_eq_zero]
    intro c hc
    rw [hidle c hc]
    decide
  have hone := h.success hsuccess
  rw [promised, hnone] at hone
  exact hone

end TopUpState

/-- After every run of calls on a pending order in which all steps meet the condition, the user has
been credited for the order at most once, and exactly once when it is paid and no call is in
progress. -/
theorem topUp_credited_once (quotaPerUnit : ℚ) (topUp : TopUp) (userQuota : ℚ)
    (hpending : topUp.status = .pending) (events : List TopUpEvent)
    (hsafe : Along (TopUpState.step quotaPerUnit) (TopUpState.Safe quotaPerUnit)
      { topUp := topUp, userQuota := userQuota } events) :
    (run (TopUpState.step quotaPerUnit) { topUp := topUp, userQuota := userQuota }
      events).CreditedOnce userQuota := by
  have hstart := TopUpState.sound_of_pending hpending userQuota
  have hend := Along.invariant (fun _ _ h hok => h.step hok) hstart hsafe
  exact hend.creditedOnce

/-! ### Two notifications -/

/-- An order of two units, each worth 500000. -/
def epayOrder : TopUp where
  id := 1
  userId := 1
  amount := 2
  money := 2
  tradeNo := "USR1NOabc"
  paymentMethod := "alipay"
  paymentProvider := paymentProviderEpay
  status := .pending

def epayStart : TopUpState where
  topUp := epayOrder
  userQuota := 0

/-- Two processes receive the notification of the order. -/
def twoDeliveries : List TopUpEvent :=
  [.deliver 0 (.epayNotify "alipay"), .deliver 1 (.epayNotify "alipay"),
    .statement 0 0 false, .statement 1 0 false]

/-- The calls one after the other: the second finds the order paid. -/
theorem topUp_credited_once_in_turn :
    (run (TopUpState.step 500000) epayStart (twoDeliveries ++
      [.statement 0 0 false, .statement 0 0 false, .statement 0 0 false,
        .statement 1 0 false])).CreditedOnce 0 ∧
    (run (TopUpState.step 500000) epayStart (twoDeliveries ++
      [.statement 0 0 false, .statement 0 0 false, .statement 0 0 false,
        .statement 1 0 false])).topUp.status = .success := by
  refine ⟨?_, by decide +kernel⟩
  exact topUp_credited_once 500000 epayOrder 0 rfl _ (by decide +kernel)

/-- A call whose credit fails. -/
def failedCredit : List TopUpEvent :=
  [.deliver 0 (.epayNotify "alipay"), .statement 0 0 false, .statement 0 0 false,
    .statement 0 0 false, .statement 0 0 true]

/-- Both processes read the order before one saves it, and both credit the user. In a single call
the credit fails after the order was saved as paid, and the user is never credited. -/
theorem topUp_credited_twice_or_never :
    (run (TopUpState.step 500000) epayStart (twoDeliveries ++
      [.statement 0 0 false, .statement 1 0 false, .statement 0 0 false, .statement 1 0 false,
        .statement 0 0 false, .statement 1 0 false])).credits = [1000000, 1000000] ∧
    (run (TopUpState.step 500000) epayStart failedCredit).topUp.status = .success ∧
    (run (TopUpState.step 500000) epayStart failedCredit).Idle ∧
    (run (TopUpState.step 500000) epayStart failedCredit).credits = [] := by
  refine ⟨by decide +kernel, by decide +kernel, by decide +kernel, by decide +kernel⟩

/-! ### Completion by an administrator -/

/-- What a call credits the user if nothing disturbs it. -/
def creditedBy (quotaPerUnit : ℚ) (now : Int) (topUp : TopUp) (kind : TopUpCallKind) : ℚ :=
  (run (TopUpState.step quotaPerUnit) { topUp := topUp, userQuota := 0 }
    (.deliver 0 kind :: List.replicate 4 (.statement 0 now false))).userQuota

/-- The call that the provider of an order makes when it is paid. -/
def TopUp.successCallback (topUp : TopUp) : Option TopUpCallKind :=
  if topUp.paymentProvider = paymentProviderEpay then some (.epayNotify topUp.paymentMethod)
  else if topUp.paymentProvider = paymentProviderStripe then some (.transaction .recharge)
  else if topUp.paymentProvider = paymentProviderCreem then some (.transaction .rechargeCreem)
  else if topUp.paymentProvider = paymentProviderWaffo then some (.transaction .rechargeWaffo)
  else if topUp.paymentProvider = paymentProviderWaffoPancake then
    some (.transaction .rechargeWaffoPancake)
  else none

/-- An order of Stripe is worth a whole quota, and one of Creem its amount and less than one more:
its amount is 0, or a unit is worth one quota and hardly more. -/
def TopUp.CreditsAlike (quotaPerUnit : ℚ) (topUp : TopUp) : Prop :=
  (topUp.paymentProvider = paymentProviderStripe →
    ∃ quota : ℕ, topUp.money * quotaPerUnit = quota) ∧
  (topUp.paymentProvider = paymentProviderCreem → 0 ≤ topUp.amount ∧
    topUp.amount ≤ topUp.amount * quotaPerUnit ∧
    topUp.amount * quotaPerUnit < topUp.amount + 1)

section

variable {quotaPerUnit : ℚ} {now : Int} {topUp : TopUp}

lemma creditedBy_transaction {t : TopUpTransaction}
    (ht : (TopUpCallKind.transaction t).locksOrder = true) :
    creditedBy quotaPerUnit now topUp (.transaction t) =
      ((t.body quotaPerUnit now topUp).toOption.join.bind TopUpWrite.credit).getD 0 := by
  rcases h : t.body quotaPerUnit now topUp with e | _ | ⟨topUp', _ | credit⟩ <;>
    simp [creditedBy, TopUpState.step, TopUpState.statement, TopUpState.readOrder, TopUpState.put,
      TopUpState.orderLocked, TopUpState.rowLocked, TopUpState.write, TopUpState.addCredit,
      TopUpPhase.isActive, TopUpPhase.isInTransaction, ht, h, Except.toOption]

section

variable (hpending : topUp.status = .pending)

include hpending

lemma creditedBy_epayNotify (hprovider : topUp.paymentProvider = paymentProviderEpay)
    (type : String) :
    creditedBy quotaPerUnit now topUp (.epayNotify type) =
      max (truncate (topUp.amount * quotaPerUnit)) 0 := by
  by_cases hq : truncate (topUp.amount * quotaPerUnit) < 0 <;>
    simp [creditedBy, TopUpState.step, TopUpState.statement, TopUpState.readOrder, TopUpState.put,
      TopUpState.orderLocked, TopUpState.rowLocked, TopUpState.addCredit, TopUpCallKind.locksOrder,
      TopUpPhase.isActive, TopUpPhase.isInTransaction, hprovider, hpending, hq] <;>
    omega

lemma creditedBy_manualCompleteTopUp :
    creditedBy quotaPerUnit now topUp (.transaction .manualCompleteTopUp) =
      max (if topUp.paymentProvider = paymentProviderStripe then
        truncate (topUp.money * quotaPerUnit) else truncate (topUp.amount * quotaPerUnit)) 0 := by
  rw [creditedBy_transaction rfl, body, manualCompleteTopUp]
  generalize (if topUp.paymentProvider = paymentProviderStripe then _ else _) = q
  by_cases hq : q ≤ 0
  · simp [hpending, hq, Except.toOption]
  · simp [hpending, hq, Except.toOption, (not_le.mp hq).le]

lemma credit_rechargePending (quota : ℚ) :
    ((orRechargeFailed (rechargePending now topUp topUp.paymentProvider quota)).toOption.join.bind
      TopUpWrite.credit).getD 0 = quota := by
  simp [rechargePending, orRechargeFailed, hpending, Except.mapError, Except.toOption]

lemma credit_rechargeRepeatable :
    ((orRechargeFailed (rechargeRepeatable quotaPerUnit now topUp
      topUp.paymentProvider)).toOption.join.bind TopUpWrite.credit).getD 0 =
        max (truncate (topUp.amount * quotaPerUnit)) 0 := by
  by_cases hq : truncate (topUp.amount * quotaPerUnit) ≤ 0
  · simp [rechargeRepeatable, orRechargeFailed, hpending, hq, Except.mapError, Except.toOption]
  · simp [rechargeRepeatable, orRechargeFailed, hpending, hq, Except.mapError, Except.toOption]
    omega

end

lemma max_zero_eq_iff {q : ℤ} {r : ℚ} (hzero : r = 0 → q = 0) :
    ((max q 0 : ℤ) : ℚ) = r ↔ 0 ≤ r ∧ q = r := by
  constructor
  · rintro rfl
    refine ⟨by exact_mod_cast le_max_right q 0, ?_⟩
    rcases max_choice q 0 with h | h
    · rw [h]
    · rw [h, hzero (by rw [h, Int.cast_zero])]
  · rintro ⟨hr, rfl⟩
    rw [max_eq_left (by exact_mod_cast hr)]

lemma truncate_eq_self_iff {r : ℚ} : 0 ≤ r ∧ truncate r = r ↔ ∃ n : ℕ, r = n := by
  constructor
  · rintro ⟨hr, heq⟩
    obtain ⟨n, hn⟩ := Int.eq_ofNat_of_zero_le (truncate_nonneg hr)
    exact ⟨n, by rw [← heq, hn, Int.cast_natCast]⟩
  · rintro ⟨n, rfl⟩
    simp [truncate]

lemma truncate_mul_eq_iff {a : ℤ} {q : ℚ} :
    (0 : ℚ) ≤ a ∧ (truncate (a * q) : ℚ) = a ↔ 0 ≤ a ∧ a ≤ a * q ∧ a * q < a + 1 := by
  rw [Int.cast_nonneg_iff, Int.cast_inj]
  refine and_congr_right fun ha => ?_
  by_cases hq : 0 ≤ a * q
  · rw [truncate, if_pos hq, Int.floor_eq_iff]
  · -- a product below 0 is truncated to 0 at most, and is below the amount
    have hlow : ¬ (a : ℚ) ≤ a * q := fun h => hq ((Int.cast_nonneg ha).trans h)
    have hne : a ≠ 0 := by
      rintro rfl
      simp at hq
    have hfloor : 0 ≤ ⌊-(a * q)⌋ := Int.floor_nonneg.mpr (by linarith)
    rw [truncate, if_neg hq]
    simp only [hlow, false_and, iff_false]
    omega

end

/-- On a pending order an administrator credits what the callback of its provider credits, except on
one of Stripe that is worth no whole quota and one of Creem that would be worth another quota than
its amount. -/
theorem manualCompleteTopUp_credits_iff (quotaPerUnit : ℚ) (topUp : TopUp) (kind : TopUpCallKind)
    (hpending : topUp.status = .pending) (hkind : topUp.successCallback = some kind)
    (now now' : Int) :
    creditedBy quotaPerUnit now topUp (.transaction .manualCompleteTopUp) =
      creditedBy quotaPerUnit now' topUp kind ↔ topUp.CreditsAlike quotaPerUnit := by
  have hne : paymentProviderEpay ≠ paymentProviderStripe ∧
      paymentProviderEpay ≠ paymentProviderCreem ∧
      paymentProviderStripe ≠ paymentProviderCreem := by decide
  rw [creditedBy_manualCompleteTopUp hpending, TopUp.CreditsAlike]
  unfold TopUp.successCallback at hkind
  split_ifs at hkind with hepay hstripe hcreem hwaffo hpancake <;> cases hkind
  · simp [creditedBy_epayNotify hpending hepay, hepay, hne]
  · rw [creditedBy_transaction rfl, body, recharge, ← hstripe,
      credit_rechargePending hpending, max_zero_eq_iff, if_pos rfl, truncate_eq_self_iff]
    · simp [hstripe, hne]
    · intro h
      simp [h, truncate]
  · rw [creditedBy_transaction rfl, body, rechargeCreem, ← hcreem,
      credit_rechargePending hpending, if_neg hstripe, max_zero_eq_iff,
      truncate_mul_eq_iff]
    · simp [hstripe]
    · intro h
      simp [h, truncate]
  · rw [creditedBy_transaction rfl, body, rechargeWaffo, ← hwaffo,
      credit_rechargeRepeatable hpending]
    simp [hstripe, hcreem]
  · rw [creditedBy_transaction rfl, body, rechargeWaffoPancake, ← hpancake,
      credit_rechargeRepeatable hpending]
    simp [hstripe, hcreem]

theorem manualCompleteTopUp_epayOrder :
    creditedBy 500000 0 epayOrder (.transaction .manualCompleteTopUp) =
      creditedBy 500000 0 epayOrder (.epayNotify "alipay") :=
  (manualCompleteTopUp_credits_iff 500000 epayOrder _ rfl rfl 0 0).mpr
    ⟨fun h => absurd h (by decide), fun h => absurd h (by decide)⟩

/-- The amount of an order of Creem is a quota, and is taken for a number of units. -/
theorem manualCompleteTopUp_creemOrder :
    let order := { epayOrder with amount := 1000, paymentProvider := paymentProviderCreem }
    creditedBy 500000 0 order (.transaction .rechargeCreem) = 1000 ∧
      creditedBy 500000 0 order (.transaction .manualCompleteTopUp) = 500000000 :=
  ⟨by decide +kernel, by decide +kernel⟩

end XinghaiApi
