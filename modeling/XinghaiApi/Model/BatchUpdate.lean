import XinghaiApi.Lib.Pending
import XinghaiApi.Lib.Pool
import XinghaiApi.Model.Channel
import XinghaiApi.Model.Types

/-!
# Batched updates of counters

Where batching is on, what is to be added to a counter is gathered in memory by `addNewRecord`, and
`batchUpdate` writes it to the database from time to time. Records and any number of flushes run at
once: a flush takes the stores one type after the other, each under its lock, and then makes one
update a token, a channel and a user, in the order in which the maps are walked.
-/

namespace XinghaiApi

open Machine Pending Table List

inductive BatchUpdateType where
  | userQuota
  | tokenQuota
  | usedQuota
  | channelUsedQuota
  | requestCount
deriving DecidableEq

/-- All types, in the order in which the loops go through them. -/
def BatchUpdateType.all : List BatchUpdateType :=
  [.userQuota, .tokenQuota, .usedQuota, .channelUsedQuota, .requestCount]

/-! ### The counters -/

structure QuotaTables where
  users : Table User
  tokens : Table Token
  channels : Table Channel

open QuotaTables

namespace QuotaTables

def increaseTokenQuota (id quota : ℤ) (db : QuotaTables) : QuotaTables :=
  { db with tokens := db.tokens.modify id fun t =>
      { t with remainQuota := t.remainQuota + quota, usedQuota := t.usedQuota - quota } }

def updateChannelUsedQuota (id quota : ℤ) (db : QuotaTables) : QuotaTables :=
  { db with channels := db.channels.modify id fun c => { c with usedQuota := c.usedQuota + quota } }

def updateUserQuotaUsedQuotaAndRequestCount (id quota usedQuota requestCount : ℤ)
    (db : QuotaTables) : QuotaTables :=
  if quota = 0 ∧ usedQuota = 0 ∧ requestCount = 0 then db
  else
    { db with users := db.users.modify id fun u =>
        { u with
          quota := u.quota + quota
          usedQuota := u.usedQuota + usedQuota
          requestCount := u.requestCount + requestCount } }

end QuotaTables

/-! ### Records and flushes -/

abbrev BatchUpdateStores := BatchUpdateType → Amounts ℤ ℤ

inductive FlushPhase where
  /-- looks whether there is any data; the types still to look at -/
  | checking (rest : List BatchUpdateType)
  /-- takes the stores; the types still to take -/
  | taking (rest : List BatchUpdateType)
  | tokens
  | channels
  | users
  | finished
deriving DecidableEq

/-- A call of `batchUpdate`, with what it has taken and not yet written. -/
structure Flush where
  phase : FlushPhase
  stores : BatchUpdateStores

structure BatchState where
  db : QuotaTables
  batchUpdateStores : BatchUpdateStores
  flushes : List Flush

namespace Flush

/-- Leave out what has been written. -/
def written (type : BatchUpdateType) (id : ℤ) (f : Flush) : Flush :=
  { f with stores := Function.update f.stores type ((f.stores type).erase id) }

/-- The users that any of the three stores has an amount for. -/
def userIDs (f : Flush) : List ℤ :=
  (f.stores .userQuota).keys ++ (f.stores .usedQuota).keys ++ (f.stores .requestCount).keys

/-- The next step of a flush. Where it walks a map, `key` is the key that it comes to. -/
def next (key : ℤ) (s : BatchState) (f : Flush) : BatchState × Flush :=
  match f.phase with
  | .checking [] => (s, { f with phase := .finished })
  | .checking (type :: rest) =>
    if (s.batchUpdateStores type).keys = [] then (s, { f with phase := .checking rest })
    else (s, { f with phase := .taking BatchUpdateType.all })
  | .taking [] => (s, { f with phase := .tokens })
  | .taking (type :: rest) =>
    ({ s with batchUpdateStores := Function.update s.batchUpdateStores type ∅ },
      { phase := .taking rest
        stores := Function.update f.stores type (s.batchUpdateStores type) })
  | .tokens =>
    if (f.stores .tokenQuota).keys = [] then (s, { f with phase := .channels })
    else if key ∈ f.stores .tokenQuota then
      ({ s with db := s.db.increaseTokenQuota key (amount (f.stores .tokenQuota) key) },
        f.written .tokenQuota key)
    else (s, f)
  | .channels =>
    if (f.stores .channelUsedQuota).keys = [] then (s, { f with phase := .users })
    else if key ∈ f.stores .channelUsedQuota then
      ({ s with db := s.db.updateChannelUsedQuota key (amount (f.stores .channelUsedQuota) key) },
        f.written .channelUsedQuota key)
    else (s, f)
  | .users =>
    if f.userIDs = [] then (s, { f with phase := .finished })
    else if key ∈ f.userIDs then
      let db := s.db.updateUserQuotaUsedQuotaAndRequestCount key (amount (f.stores .userQuota) key)
        (amount (f.stores .usedQuota) key) (amount (f.stores .requestCount) key)
      ({ s with db := db },
        ((f.written .userQuota key).written .usedQuota key).written .requestCount key)
    else (s, f)
  | .finished => (s, f)

end Flush

inductive BatchEvent where
  | addNewRecord (type : BatchUpdateType) (id value : ℤ)
  /-- a flush begins -/
  | batchUpdate
  /-- the `i`-th flush makes a step -/
  | next (i : ℕ) (key : ℤ)
deriving DecidableEq

namespace BatchState

def addNewRecord (type : BatchUpdateType) (id value : ℤ) (s : BatchState) : BatchState :=
  { s with batchUpdateStores :=
      Function.update s.batchUpdateStores type (add (s.batchUpdateStores type) id value) }

def step (s : BatchState) : BatchEvent → BatchState
  | .addNewRecord type id value => s.addNewRecord type id value
  | .batchUpdate =>
    { s with flushes :=
        s.flushes ++ [{ phase := .checking BatchUpdateType.all, stores := fun _ => ∅ }] }
  | .next i key =>
    match s.flushes[i]? with
    | none   => s
    | some f => { (f.next key s).1 with flushes := s.flushes.set i (f.next key s).2 }

/-- Nothing is recorded yet. -/
def init (db : QuotaTables) : BatchState where
  db := db
  batchUpdateStores := fun _ => ∅
  flushes := []

def Idle (s : BatchState) : Prop := ∀ f ∈ s.flushes, f.phase = .finished

instance (s : BatchState) : Decidable s.Idle := inferInstanceAs (Decidable (∀ f ∈ s.flushes, _))

/-- What is recorded for a counter and not yet taken by a flush. -/
def pending (s : BatchState) (type : BatchUpdateType) (id : ℤ) : ℤ :=
  amount (s.batchUpdateStores type) id

end BatchState

/-! ### Direct updates

The abstract model: every record is added to its counter at once. -/

/-- What is added to the counters, by type and id. -/
abbrev Deltas := BatchUpdateType → ℤ → ℤ

namespace Deltas

def single (type : BatchUpdateType) (id value : ℤ) : Deltas :=
  fun type' id' => if type' = type ∧ id' = id then value else 0

@[simp] lemma single_zero (type : BatchUpdateType) (id : ℤ) : single type id 0 = 0 := by
  funext type' id'
  simp [single]

end Deltas

def BatchEvent.deltas : BatchEvent → Deltas
  | .addNewRecord type id value => .single type id value
  | .batchUpdate => 0
  | .next _ _ => 0

namespace QuotaTables

variable {db : QuotaTables} {d d' : Deltas} {id : ℤ}

/-- Every row with its deltas added. -/
def plus (db : QuotaTables) (d : Deltas) : QuotaTables where
  users := db.users.modifyWhere (fun _ => true) fun u =>
    { u with
      quota := u.quota + d .userQuota u.id
      usedQuota := u.usedQuota + d .usedQuota u.id
      requestCount := u.requestCount + d .requestCount u.id }
  tokens := db.tokens.modifyWhere (fun _ => true) fun t =>
    { t with
      remainQuota := t.remainQuota + d .tokenQuota t.id
      usedQuota := t.usedQuota - d .tokenQuota t.id }
  channels := db.channels.modifyWhere (fun _ => true) fun c =>
    { c with usedQuota := c.usedQuota + d .channelUsedQuota c.id }

/-- A record that is written at once. -/
def direct (db : QuotaTables) (e : BatchEvent) : QuotaTables := db.plus e.deltas

lemma plus_plus : (db.plus d).plus d' = db.plus (d + d') := by
  unfold plus
  congr 1
  · apply modifyWhere_modifyWhere
    · intro u
      rfl
    · intro u
      simp [add_assoc]
  · apply modifyWhere_modifyWhere
    · intro t
      rfl
    · intro t
      simp [add_assoc, sub_sub]
  · apply modifyWhere_modifyWhere
    · intro c
      rfl
    · intro c
      simp [add_assoc]

lemma plus_zero : db.plus 0 = db := by
  unfold plus
  rw [modifyWhere_eq_self, modifyWhere_eq_self, modifyWhere_eq_self] <;> simp

/-! ### The counters of a row -/

lemma users_plus :
    ((db.plus d).users.find id).map (fun u => (u.quota, u.usedQuota, u.requestCount)) =
      (db.users.find id).map fun u => (u.quota + d .userQuota id, u.usedQuota + d .usedQuota id,
      u.requestCount + d .requestCount id) := by
  rw [plus, find_modifyWhere]
  cases h : db.users.find id with
  | none => rfl
  | some u =>
    obtain rfl : u.id = id := (find_eq_some_iff.mp h).2
    rfl

lemma tokens_plus : ((db.plus d).tokens.find id).map (fun t => (t.remainQuota, t.usedQuota)) =
    (db.tokens.find id).map fun t => (t.remainQuota + d .tokenQuota id,
      t.usedQuota - d .tokenQuota id) := by
  rw [plus, find_modifyWhere]
  cases h : db.tokens.find id with
  | none => rfl
  | some t =>
    obtain rfl : t.id = id := (find_eq_some_iff.mp h).2
    rfl

lemma channels_plus : ((db.plus d).channels.find id).map (fun c => c.usedQuota) =
    (db.channels.find id).map fun c => c.usedQuota + d .channelUsedQuota id := by
  rw [plus, find_modifyWhere]
  cases h : db.channels.find id with
  | none => rfl
  | some c =>
    obtain rfl : c.id = id := (find_eq_some_iff.mp h).2
    rfl

/-! ### Each statement adds to the counters of one row -/

lemma increaseTokenQuota_eq (quota : ℤ) :
    db.increaseTokenQuota id quota = db.plus (.single .tokenQuota id quota) := by
  unfold increaseTokenQuota plus
  rw [modifyWhere_eq_self (by simp [Deltas.single]),
    modifyWhere_eq_self (t := db.channels) (by simp [Deltas.single])]
  congr 1
  apply modifyWhere_congr
  intro t
  by_cases hid : t.id = id <;> simp [Row.key, Row.withKey, Deltas.single, hid]

lemma updateChannelUsedQuota_eq (quota : ℤ) :
    db.updateChannelUsedQuota id quota = db.plus (.single .channelUsedQuota id quota) := by
  unfold updateChannelUsedQuota plus
  rw [modifyWhere_eq_self (by simp [Deltas.single]), modifyWhere_eq_self (by simp [Deltas.single])]
  congr 1
  apply modifyWhere_congr
  intro c
  by_cases hid : c.id = id <;> simp [Row.key, Row.withKey, Deltas.single, hid]

/-- An update of a user with nothing to add is left out, and would add nothing. -/
lemma updateUserQuota_eq (quota usedQuota requestCount : ℤ) :
    db.updateUserQuotaUsedQuotaAndRequestCount id quota usedQuota requestCount =
      db.plus (.single .userQuota id quota + .single .usedQuota id usedQuota +
        .single .requestCount id requestCount) := by
  have hupdate : ({ db with users := db.users.modify id fun u =>
      { u with
        quota := u.quota + quota
        usedQuota := u.usedQuota + usedQuota
        requestCount := u.requestCount + requestCount } } : QuotaTables) =
      db.plus (.single .userQuota id quota + .single .usedQuota id usedQuota +
        .single .requestCount id requestCount) := by
    unfold plus
    rw [modifyWhere_eq_self (t := db.tokens) (by simp [Deltas.single]),
      modifyWhere_eq_self (t := db.channels) (by simp [Deltas.single])]
    congr 1
    apply modifyWhere_congr
    intro u
    by_cases hid : u.id = id <;> simp [Row.key, Row.withKey, Deltas.single, hid]
  unfold updateUserQuotaUsedQuotaAndRequestCount
  split_ifs with hzero
  · obtain ⟨rfl, rfl, rfl⟩ := hzero
    simp [plus_zero]
  · exact hupdate

end QuotaTables

/-! ### The refinement -/

namespace Flush

variable {f : Flush} {type : BatchUpdateType} {s : BatchState}

/-- What a flush still has to write. -/
def held (f : Flush) : Deltas := fun type id => amount (f.stores type) id

/-- The types for which a flush in this phase has nothing to write: they are not taken yet, or all
written. -/
def Emptied : FlushPhase → BatchUpdateType → Prop
  | .checking _,  _    => True
  | .taking rest, type => type ∈ rest
  | .tokens,      _    => False
  | .channels,    type => type = .tokenQuota
  | .users,       type => type = .tokenQuota ∨ type = .channelUsedQuota
  | .finished,    _    => True

structure Wf (f : Flush) : Prop where
  emptied : ∀ type, Emptied f.phase type → (f.stores type).keys = []
  nodup : ∀ rest, f.phase = .taking rest → rest.Nodup

lemma Wf.held_eq_zero (h : f.Wf) (hf : f.phase = .finished) : f.held = 0 := by
  funext type id
  exact amount_of_keys_eq_nil _ _ (h.emptied type (by rw [hf]; trivial))

lemma held_written (f : Flush) (type : BatchUpdateType) (id : ℤ) :
    (f.written type id).held = f.held - .single type id (amount (f.stores type) id) := by
  funext type' id'
  by_cases htype : type' = type
  · subst htype
    by_cases hid : id' = id <;> simp [held, written, Deltas.single, hid]
  · simp [held, written, Deltas.single, htype]

lemma keys_written {type' : BatchUpdateType} {id : ℤ} (h : (f.stores type').keys = []) :
    ((f.written type id).stores type').keys = [] := by
  by_cases htype : type' = type
  · subst htype
    simp [written, h]
  · simpa [written, htype] using h

lemma Wf.written (h : f.Wf) (type : BatchUpdateType) (id : ℤ) : (f.written type id).Wf where
  emptied type' hempty := keys_written (h.emptied type' hempty)
  nodup := h.nodup

/-- A step of a flush adds to the counters what it lets go of, and holds what it removes from the
stores. -/
structure Moves (s : BatchState) (f : Flush) (r : BatchState × Flush) (d : Deltas) : Prop where
  db : r.1.db = s.db.plus d
  held : r.1.pending + r.2.held + d = s.pending + f.held
  wf : r.2.Wf

/-- A flush that only goes on to another phase. -/
lemma moves_phase {phase : FlushPhase}
    (hemptied : ∀ type, Emptied phase type → (f.stores type).keys = [])
    (hnodup : ∀ rest, phase = .taking rest → rest.Nodup) :
    Moves s f (s, { f with phase := phase }) 0 where
  db := plus_zero.symm
  held := add_zero _
  wf := ⟨hemptied, hnodup⟩

lemma moves_self (hf : f.Wf) : Moves s f (s, f) 0 := moves_phase hf.emptied hf.nodup

/-- A flush that takes the store of a type which it does not have yet. -/
lemma moves_take {rest : List BatchUpdateType} (hf : f.Wf)
    (hphase : f.phase = .taking (type :: rest)) :
    Moves s f ({ s with batchUpdateStores := Function.update s.batchUpdateStores type ∅ },
      { phase := .taking rest
        stores := Function.update f.stores type (s.batchUpdateStores type) }) 0 := by
  have hempty : ∀ type' ∈ type :: rest, (f.stores type').keys = [] := by
    intro type' hmem
    exact hf.emptied type' (by rw [hphase]; exact hmem)
  obtain ⟨hfresh, hnodup⟩ := nodup_cons.mp (hf.nodup _ hphase)
  constructor
  · exact plus_zero.symm
  · funext type' id
    by_cases htype : type' = type
    · subst htype
      simp [BatchState.pending, Flush.held,
        amount_of_keys_eq_nil (f.stores type') id (hempty type' mem_cons_self)]
    · simp [BatchState.pending, Flush.held, htype]
  · constructor
    · intro type' hmem
      have hne : type' ≠ type := fun heq => hfresh (heq ▸ hmem)
      simpa [hne] using hempty type' (mem_cons_of_mem type hmem)
    · rintro rest' ⟨⟩
      exact hnodup

lemma moves_written {id : ℤ} {db : QuotaTables} (hf : f.Wf)
    (hdb : db = s.db.plus (.single type id (amount (f.stores type) id))) :
    Moves s f ({ s with db := db }, f.written type id)
      (.single type id (amount (f.stores type) id)) where
  db := hdb
  held := by
    show s.pending + (f.written type id).held + _ = _
    rw [held_written]
    abel
  wf := hf.written type id

lemma exists_moves_next (key : ℤ) (s : BatchState) (hf : f.Wf) :
    ∃ d, Moves s f (f.next key s) d := by
  have hemptied := hf.emptied
  unfold next
  split
  next hphase =>
    refine ⟨0, moves_phase (fun type _ => hemptied type ?_) (by simp)⟩
    rw [hphase]
    trivial
  next type rest hphase =>
    have hall : ∀ type, (f.stores type).keys = [] :=
      fun type => hemptied type (by rw [hphase]; trivial)
    split_ifs
    · exact ⟨0, moves_phase (fun type _ => hall type) (by simp)⟩
    · refine ⟨0, moves_phase (fun type _ => hall type) ?_⟩
      rintro rest' ⟨⟩
      decide
  next => exact ⟨0, moves_phase (fun type h => h.elim) (by simp)⟩
  next type rest hphase => exact ⟨0, moves_take hf hphase⟩
  next hphase =>
    split_ifs with hkeys hkey
    · refine ⟨0, moves_phase ?_ (by simp)⟩
      rintro type rfl
      exact hkeys
    · exact ⟨_, moves_written hf (increaseTokenQuota_eq _)⟩
    · exact ⟨0, moves_self hf⟩
  next hphase =>
    split_ifs with hkeys hkey
    · refine ⟨0, moves_phase ?_ (by simp)⟩
      rintro type (rfl | rfl)
      · exact hemptied .tokenQuota (by rw [hphase]; rfl)
      · exact hkeys
    · exact ⟨_, moves_written hf (updateChannelUsedQuota_eq _)⟩
    · exact ⟨0, moves_self hf⟩
  next hphase =>
    have htaken : (f.stores .tokenQuota).keys = [] ∧ (f.stores .channelUsedQuota).keys = [] :=
      ⟨hemptied .tokenQuota (by rw [hphase]; exact Or.inl rfl),
        hemptied .channelUsedQuota (by rw [hphase]; exact Or.inr rfl)⟩
    split_ifs with hkeys hkey
    · refine ⟨0, moves_phase ?_ (by simp)⟩
      simp only [userIDs, append_eq_nil_iff] at hkeys
      intro type _
      cases type with
      | userQuota => exact hkeys.1.1
      | tokenQuota => exact htaken.1
      | usedQuota => exact hkeys.1.2
      | channelUsedQuota => exact htaken.2
      | requestCount => exact hkeys.2
    · refine ⟨_, updateUserQuota_eq _ _ _, ?_, ((hf.written _ _).written _ _).written _ _⟩
      show s.pending + (((f.written .userQuota key).written .usedQuota key).written .requestCount
        key).held + _ = _
      rw [held_written, held_written, held_written]
      simp only [written, Function.update_of_ne, ne_eq, reduceCtorEq, not_false_eq_true]
      abel
    · exact ⟨0, moves_self hf⟩
  next => exact ⟨0, moves_self hf⟩

end Flush

namespace BatchState

variable (db : QuotaTables) {s : BatchState}

/-- The counters with all that is recorded for them. -/
def view (s : BatchState) : QuotaTables := s.db.plus (s.pending + inFlight Flush.held s.flushes)

def Wf (s : BatchState) : Prop := ∀ f ∈ s.flushes, f.Wf

lemma wf_init : (init db).Wf := by
  simp [Wf, init]

lemma pending_addNewRecord (s : BatchState) (type : BatchUpdateType) (id value : ℤ) :
    (s.addNewRecord type id value).pending = s.pending + Deltas.single type id value := by
  funext type' id'
  by_cases htype : type' = type
  · subst htype
    simp [pending, addNewRecord, Deltas.single]
  · simp [pending, addNewRecord, Deltas.single, htype]

/-- Records are direct updates of the view, and flushes leave it. -/
lemma view_step (hs : s.Wf) (e : BatchEvent) :
    (s.step e).Wf ∧ (s.step e).view = s.view.direct e := by
  cases e with
  | addNewRecord type id value =>
    refine ⟨hs, ?_⟩
    show s.db.plus ((s.addNewRecord type id value).pending + inFlight Flush.held s.flushes) = _
    rw [pending_addNewRecord, direct, view, plus_plus]
    congr 1
    exact add_right_comm _ _ _
  | batchUpdate =>
    constructor
    · intro f hmem
      rcases mem_append.mp hmem with hmem | hmem
      · exact hs f hmem
      · rw [mem_singleton.mp hmem]
        exact ⟨fun _ _ => rfl, by simp⟩
    · have hnew : Flush.held ⟨.checking BatchUpdateType.all, fun _ => ∅⟩ = 0 := rfl
      simp only [step, view, inFlight_append, inFlight_singleton, hnew, add_zero,
        direct, BatchEvent.deltas, plus_zero]
      rfl
  | next i key =>
    cases hi : s.flushes[i]? with
    | none =>
      simp only [step, hi, direct, BatchEvent.deltas, plus_zero]
      exact ⟨hs, trivial⟩
    | some f =>
      obtain ⟨d, hdb, hheld, hwf⟩ := Flush.exists_moves_next key s (hs f (mem_of_getElem? hi))
      constructor
      · simp only [step, hi]
        exact Pool.forall_mem_set hs hwf
      · simp only [step, hi, view, direct, BatchEvent.deltas, plus_zero,
          inFlight_set Flush.held hi, hdb, plus_plus]
        congr 1
        calc d + ((f.next key s).1.pending +
              (inFlight Flush.held s.flushes - f.held + (f.next key s).2.held))
            = ((f.next key s).1.pending + (f.next key s).2.held + d) +
                (inFlight Flush.held s.flushes - f.held) := by abel
          _ = s.pending + inFlight Flush.held s.flushes := by
            rw [hheld]
            abel

/-- Batched updates refine direct ones: with what is recorded and not yet written, the counters are
at every moment what direct updates make of them. -/
theorem view_run (hs : s.Wf) (es : List BatchEvent) :
    (run step s es).Wf ∧ (run step s es).view = run direct s.view es := by
  induction es generalizing s with
  | nil => exact ⟨hs, rfl⟩
  | cons e es ih =>
    obtain ⟨hwf, hview⟩ := view_step hs e
    rw [run_cons, run_cons, ← hview]
    exact ih hwf

/-- Where no flush is in progress, nothing is held. -/
lemma Idle.view_eq (h : s.Idle) (hs : s.Wf) : s.view = s.db.plus s.pending := by
  rw [view, inFlight_eq_zero Flush.held fun f hf => (hs f hf).held_eq_zero (h f hf), add_zero]

def recorded (es : List BatchEvent) : Deltas := (es.map BatchEvent.deltas).sum

lemma run_direct (es : List BatchEvent) : run direct db es = db.plus (recorded es) := by
  induction es generalizing db with
  | nil => exact plus_zero.symm
  | cons e es ih =>
    rw [run_cons, ih]
    simp [direct, recorded, plus_plus]

/-- Whenever no flush is in progress, what is stored of a counter plus what is recorded and not yet
written is what was stored at first plus all that has been recorded. -/
theorem stored_add_pending (db : QuotaTables) (es : List BatchEvent)
    (h : (run step (init db) es).Idle) :
    let s := run step (init db) es
    (∀ id, (s.db.users.find id).map (fun u => (u.quota + s.pending .userQuota id,
          u.usedQuota + s.pending .usedQuota id, u.requestCount + s.pending .requestCount id)) =
        (db.users.find id).map fun u => (u.quota + recorded es .userQuota id,
          u.usedQuota + recorded es .usedQuota id, u.requestCount + recorded es .requestCount id)) ∧
      (∀ id, (s.db.tokens.find id).map (fun t => (t.remainQuota + s.pending .tokenQuota id,
          t.usedQuota - s.pending .tokenQuota id)) =
        (db.tokens.find id).map fun t => (t.remainQuota + recorded es .tokenQuota id,
          t.usedQuota - recorded es .tokenQuota id)) ∧
      ∀ id, (s.db.channels.find id).map (fun c => c.usedQuota + s.pending .channelUsedQuota id) =
        (db.channels.find id).map fun c => c.usedQuota + recorded es .channelUsedQuota id := by
  intro s
  obtain ⟨hwf, hview⟩ := view_run (wf_init db) es
  have hinit : (init db).view = db := plus_zero
  have hplus : s.db.plus s.pending = db.plus (recorded es) := by
    rw [← Idle.view_eq h hwf, hview, hinit, run_direct]
  refine ⟨fun id => ?_, fun id => ?_, fun id => ?_⟩
  · rw [← users_plus, ← users_plus, hplus]
  · rw [← tokens_plus, ← tokens_plus, hplus]
  · rw [← channels_plus, ← channels_plus, hplus]

/-- One user, one token and one channel. -/
def oneOfEach : QuotaTables where
  users := empty.insert { id := 0, group := "default", quota := 1000 }
  tokens := empty.insert
    { id := 0, key := "k", remainQuota := 500, usedQuota := 20, unlimitedQuota := false }
  channels := empty.insert { id := 0, models := "m", group := "default" }

/-- A flush during which more is recorded. -/
def flushedRun : List BatchEvent :=
  [.addNewRecord .userQuota 1 (-30), .addNewRecord .tokenQuota 1 (-30),
    .addNewRecord .usedQuota 1 30, .addNewRecord .requestCount 1 1,
    .addNewRecord .channelUsedQuota 1 30, .batchUpdate, .next 0 0, .next 0 0,
    .addNewRecord .userQuota 1 (-7), .next 0 0, .next 0 0, .next 0 0, .next 0 0, .next 0 0,
    .next 0 1, .addNewRecord .tokenQuota 1 (-7), .next 0 0, .next 0 1, .next 0 0, .next 0 1,
    .next 0 0]

def flushed : BatchState := run step (init oneOfEach) flushedRun

theorem stored_add_pending_flushedRun :
    flushed.Idle ∧
      (flushed.db.users.find 1).map (fun u => (u.quota + flushed.pending .userQuota 1,
          u.usedQuota + flushed.pending .usedQuota 1,
          u.requestCount + flushed.pending .requestCount 1)) =
        (oneOfEach.users.find 1).map fun u => (u.quota + recorded flushedRun .userQuota 1,
          u.usedQuota + recorded flushedRun .usedQuota 1,
          u.requestCount + recorded flushedRun .requestCount 1) := by
  have hidle : flushed.Idle := by decide +kernel
  exact ⟨hidle, (stored_add_pending oneOfEach flushedRun hidle).1 1⟩

end BatchState

end XinghaiApi
