import XinghaiApi.Lib.Pool
import XinghaiApi.Lib.Run

/-!
# Transactions under read-committed isolation

Calls make their statements one at a time, in any interleaving. A statement reads what is committed
with the writes of its own transaction on top. Its own writes become visible to others when the
transaction commits, and vanish when it is rolled back. A statement that needs a row which another
transaction has locked waits, and locks are held to the end of the transaction.
-/

namespace Transaction

open List

variable {δ ℓ κ ω ι ρ : Type*}

/-- What a statement leads to. -/
inductive Outcome (δ κ ρ : Type*) where
  /-- the transaction goes on -/
  | go (write : δ → δ) (code : κ)
  /-- the transaction commits and the call goes on -/
  | commit (write : δ → δ) (code : κ)
  /-- the transaction commits and the call returns -/
  | done (write : δ → δ) (r : ρ)
  /-- the transaction is rolled back and the call returns -/
  | abort (r : ρ)

/-- What a request begins with, and for each statement the rows it locks and what it does, by what
it reads. -/
structure Program (δ ℓ κ ω ι ρ : Type*) where
  start : ω → κ
  needs : κ → δ → List ℓ
  exec : κ → ι → δ → Outcome δ κ ρ

/-- A transaction in progress: what comes next, what it has written, and the rows it has locked. -/
structure Tx (δ ℓ κ : Type*) where
  code : κ
  write : δ → δ
  locks : List ℓ

inductive Call (δ ℓ κ ρ : Type*) where
  | inProgress (tx : Tx δ ℓ κ)
  | returned (r : ρ)

structure State (δ ℓ κ ρ : Type*) where
  db : δ
  calls : List (Call δ ℓ κ ρ)

inductive Event (ω ι : Type*) where
  | begin (request : ω)
  | next (i : ℕ) (input : ι)

/-- A transaction that has done nothing yet. -/
def Tx.fresh (code : κ) : Tx δ ℓ κ where
  code := code
  write := id
  locks := []

@[simp] lemma Tx.code_fresh (code : κ) : (Tx.fresh code : Tx δ ℓ κ).code = code := rfl

@[simp] lemma Tx.write_fresh (code : κ) : (Tx.fresh code : Tx δ ℓ κ).write = id := rfl

def Call.holds [DecidableEq ℓ] (rows : List ℓ) : Call δ ℓ κ ρ → Bool
  | .inProgress tx => rows.any (· ∈ tx.locks)
  | .returned _    => false

/-- What the call has returned. -/
def Call.result? : Call δ ℓ κ ρ → Option ρ
  | .inProgress _ => none
  | .returned r   => some r

namespace State

variable (s : State δ ℓ κ ρ) (i : ℕ)

/-- What the calls have returned, in the order in which they began. -/
def results : List ρ := s.calls.filterMap Call.result?

def finished : Bool := s.calls.all fun c => c.result?.isSome

/-- Of calls that have all returned, the results are all there is. -/
lemma map_results_of_finished {α : Type*} {s : State δ ℓ κ ρ} (h : s.finished = true)
    (f : Call δ ℓ κ ρ → α) : s.results.map (fun r => f (.returned r)) = s.calls.map f := by
  obtain ⟨db, calls⟩ := s
  simp only [finished, results] at h ⊢
  induction calls with
  | nil => rfl
  | cons c calls ih =>
    rw [all_cons, Bool.and_eq_true] at h
    cases c with
    | inProgress tx => exact absurd h.1 Bool.false_ne_true
    | returned r => simpa [Call.result?] using ih h.2

def setCall (c : Call δ ℓ κ ρ) : State δ ℓ κ ρ := { s with calls := s.calls.set i c }

@[simp] lemma db_setCall (c : Call δ ℓ κ ρ) : (s.setCall i c).db = s.db := rfl

def perform (tx : Tx δ ℓ κ) (rows : List ℓ) : Outcome δ κ ρ → State δ ℓ κ ρ
  | .go w code     => s.setCall i (.inProgress ⟨code, w ∘ tx.write, tx.locks ++ rows⟩)
  | .commit w code => { s with db := w (tx.write s.db) }.setCall i (.inProgress (.fresh code))
  | .done w r      => { s with db := w (tx.write s.db) }.setCall i (.returned r)
  | .abort r       => s.setCall i (.returned r)

variable [DecidableEq ℓ]

def blocked (rows : List ℓ) : Bool := (s.calls.eraseIdx i).any (Call.holds rows)

variable {s}

def step (P : Program δ ℓ κ ω ι ρ) (s : State δ ℓ κ ρ) : Event ω ι → State δ ℓ κ ρ
  | .begin request => { s with calls := s.calls ++ [.inProgress (.fresh (P.start request))] }
  | .next i input  =>
    match s.calls[i]? with
    | some (.inProgress tx) =>
      let view := tx.write s.db
      if s.blocked i (P.needs tx.code view) then s
      else s.perform i tx (P.needs tx.code view) (P.exec tx.code input view)
    | _ => s

/-- Nothing moves, or the call makes its next statement. -/
lemma step_next_cases (P : Program δ ℓ κ ω ι ρ) (s : State δ ℓ κ ρ) (i : ℕ) (input : ι) :
    step P s (.next i input) = s ∨ ∃ tx, s.calls[i]? = some (.inProgress tx) ∧
      s.blocked i (P.needs tx.code (tx.write s.db)) = false ∧
      step P s (.next i input) = s.perform i tx (P.needs tx.code (tx.write s.db))
        (P.exec tx.code input (tx.write s.db)) := by
  simp only [step]
  split
  next tx htx =>
    split_ifs with hblocked
    · exact Or.inl rfl
    · exact Or.inr ⟨tx, htx, by simpa using hblocked, rfl⟩
  next => exact Or.inl rfl

/-! ### Row locks -/

omit [DecidableEq ℓ] in
lemma inProgress_of_begin {calls : List (Call δ ℓ κ ρ)} {tx₀ tx : Tx δ ℓ κ} {j : ℕ}
    (h : (calls ++ [.inProgress tx₀])[j]? = some (.inProgress tx)) :
    calls[j]? = some (.inProgress tx) ∨ tx = tx₀ := by
  rw [List.getElem?_append] at h
  split_ifs at h
  · exact Or.inl h
  · have hmem := mem_of_getElem? h
    exact Or.inr (Call.inProgress.inj (mem_singleton.mp hmem))

/-- No row is locked by two calls. -/
def Exclusive (s : State δ ℓ κ ρ) : Prop :=
  ∀ (i j : ℕ) (tx tx' : Tx δ ℓ κ), i ≠ j → s.calls[i]? = some (.inProgress tx) →
    s.calls[j]? = some (.inProgress tx') → ∀ row ∈ tx.locks, row ∉ tx'.locks

variable {tx : Tx δ ℓ κ} {rows : List ℓ}

lemma not_mem_locks_of_blocked {i j : ℕ} (h : s.blocked i rows = false) (hij : j ≠ i)
    (hj : s.calls[j]? = some (.inProgress tx)) : ∀ row ∈ rows, row ∉ tx.locks := by
  intro row hrow hmem
  have hother : Call.inProgress tx ∈ s.calls.eraseIdx i :=
    mem_eraseIdx_iff_getElem?.mpr ⟨j, hij, hj⟩
  have hfree := any_eq_false.mp h _ hother
  exact hfree (any_eq_true.mpr ⟨row, hrow, by simpa using hmem⟩)

omit [DecidableEq ℓ] in
/-- A call that takes over rows which no other one holds. -/
lemma Exclusive.setCall {s : State δ ℓ κ ρ} (h : s.Exclusive) {i : ℕ} {c : Call δ ℓ κ ρ} {db : δ}
    (hc : ∀ tx, c = .inProgress tx → ∀ j tx', j ≠ i → s.calls[j]? = some (.inProgress tx') →
      ∀ row ∈ tx.locks, row ∉ tx'.locks) : Exclusive ({ s with db := db }.setCall i c) := by
  intro j k tx tx' hjk hj hk row hrow hrow'
  simp only [State.setCall, List.getElem?_set] at hj hk
  split_ifs at hj hk with hij hlen hik hlen' hik
  · exact hjk (hij.symm.trans hik)
  · exact hc tx (Option.some.inj hj) k tx' (fun h => hik h.symm) hk row hrow hrow'
  · exact hc tx' (Option.some.inj hk) j tx (fun h => hij h.symm) hj row hrow' hrow
  · exact h j k tx tx' hjk hj hk row hrow hrow'

/-- The rows that the call holds after its statement are its own. -/
lemma Exclusive.locks_append (h : s.Exclusive) {i : ℕ}
    (htx : s.calls[i]? = some (.inProgress tx)) (hfree : s.blocked i rows = false) {j : ℕ}
    {tx' : Tx δ ℓ κ} (hji : j ≠ i) (hj : s.calls[j]? = some (.inProgress tx')) :
    ∀ row ∈ tx.locks ++ rows, row ∉ tx'.locks := by
  intro row hrow
  rcases mem_append.mp hrow with hrow | hrow
  · exact h i j tx tx' (Ne.symm hji) htx hj row hrow
  · exact not_mem_locks_of_blocked hfree hji hj row hrow

lemma Exclusive.perform (h : s.Exclusive) {i : ℕ}
    (htx : s.calls[i]? = some (.inProgress tx)) (hfree : s.blocked i rows = false)
    (o : Outcome δ κ ρ) : (s.perform i tx rows o).Exclusive := by
  cases o with
  | go w code =>
    apply h.setCall
    intro tx' heq j other hji hj
    obtain rfl := Call.inProgress.inj heq
    exact h.locks_append htx hfree hji hj
  | commit w code =>
    apply h.setCall
    intro tx' heq j other hji hj row hrow
    obtain rfl := Call.inProgress.inj heq
    exact absurd hrow not_mem_nil
  | done w r =>
    apply h.setCall
    intro tx' heq
    cases heq
  | abort r =>
    apply h.setCall
    intro tx' heq
    cases heq

/-! ### Invariants of a transaction under interference -/

/-- What each transaction keeps of the database it will commit to, while others commit. A commit of
others is described by the rows that they hold. -/
structure Rely (P : Program δ ℓ κ ω ι ρ) (Ok : δ → Tx δ ℓ κ → Prop)
    (Changes : List ℓ → δ → δ → Prop) : Prop where
  begin : ∀ db request, Ok db (.fresh (P.start request))
  go : ∀ {db tx input w code}, Ok db tx → P.exec tx.code input (tx.write db) = .go w code →
    Ok db ⟨code, w ∘ tx.write, tx.locks ++ P.needs tx.code (tx.write db)⟩
  commit : ∀ {db tx input w code}, Ok db tx →
    P.exec tx.code input (tx.write db) = .commit w code →
    Ok (w (tx.write db)) (.fresh code) ∧
      Changes (tx.locks ++ P.needs tx.code (tx.write db)) db (w (tx.write db))
  done : ∀ {db tx input w r}, Ok db tx → P.exec tx.code input (tx.write db) = .done w r →
    Changes (tx.locks ++ P.needs tx.code (tx.write db)) db (w (tx.write db))
  stable : ∀ {rows db db' tx}, Ok db tx → Changes rows db db' → (∀ row ∈ rows, row ∉ tx.locks) →
    Ok db' tx

/-- Every transaction in progress is in order. -/
def Each (Ok : δ → Tx δ ℓ κ → Prop) (s : State δ ℓ κ ρ) : Prop :=
  ∀ (i : ℕ) (tx : Tx δ ℓ κ), s.calls[i]? = some (.inProgress tx) → Ok s.db tx

omit [DecidableEq ℓ] in
/-- One call moves, and what it commits leaves the others in order. -/
lemma Each.setCall {Ok : δ → Tx δ ℓ κ → Prop} {s : State δ ℓ κ ρ} {i : ℕ} {c : Call δ ℓ κ ρ}
    {db : δ} (hothers : ∀ j tx, j ≠ i → s.calls[j]? = some (.inProgress tx) → Ok db tx)
    (hc : ∀ tx, c = .inProgress tx → Ok db tx) : Each Ok ({ s with db := db }.setCall i c) := by
  intro j tx hj
  simp only [State.setCall, List.getElem?_set] at hj
  split_ifs at hj with hij hlen
  · exact hc tx (Option.some.inj hj)
  · exact hothers j tx (fun h => hij h.symm) hj

/-- Transactions that rely on nothing but their locks stay in order, whatever the interleaving. -/
theorem Rely.step {P : Program δ ℓ κ ω ι ρ} {Ok : δ → Tx δ ℓ κ → Prop}
    {Changes : List ℓ → δ → δ → Prop} (h : Rely P Ok Changes) (s : State δ ℓ κ ρ) (e : Event ω ι)
    (hs : s.Exclusive ∧ s.Each Ok) : (State.step P s e).Exclusive ∧ (State.step P s e).Each Ok := by
  obtain ⟨hexcl, heach⟩ := hs
  cases e with
  | begin request =>
    constructor
    · -- the new call holds no row
      intro j k tx tx' hjk hj hk row hrow hrow'
      rcases inProgress_of_begin hj with hj | rfl
      · rcases inProgress_of_begin hk with hk | rfl
        · exact hexcl j k tx tx' hjk hj hk row hrow hrow'
        · exact absurd hrow' not_mem_nil
      · exact absurd hrow not_mem_nil
    · intro j tx hj
      rcases inProgress_of_begin hj with hj | rfl
      · exact heach j tx hj
      · exact h.begin s.db request
  | next i input =>
    rcases step_next_cases P s i input with hsame | ⟨tx, htx, hfree, hnext⟩
    · rw [hsame]
      exact ⟨hexcl, heach⟩
    rw [hnext]
    refine ⟨hexcl.perform htx hfree _, ?_⟩
    have hok := heach i tx htx
    have hstable : ∀ db', Changes (tx.locks ++ P.needs tx.code (tx.write s.db)) s.db db' →
        ∀ j tx', j ≠ i → s.calls[j]? = some (.inProgress tx') → Ok db' tx' := by
      intro db' hchanges j tx' hji hj
      exact h.stable (heach j tx' hj) hchanges (hexcl.locks_append htx hfree hji hj)
    cases ho : P.exec tx.code input (tx.write s.db) with
    | go w code =>
      apply Each.setCall
      · intro j tx' _ hj
        exact heach j tx' hj
      · intro tx' heq
        obtain rfl := Call.inProgress.inj heq
        exact h.go hok ho
    | commit w code =>
      obtain ⟨hfresh, hchanges⟩ := h.commit hok ho
      apply Each.setCall
      · exact hstable _ hchanges
      · intro tx' heq
        obtain rfl := Call.inProgress.inj heq
        exact hfresh
    | done w r =>
      apply Each.setCall
      · exact hstable _ (h.done hok ho)
      · intro tx' heq
        cases heq
    | abort r =>
      apply Each.setCall
      · intro j tx' _ hj
        exact heach j tx' hj
      · intro tx' heq
        cases heq

end State

end Transaction
