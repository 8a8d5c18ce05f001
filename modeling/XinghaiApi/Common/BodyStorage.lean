import Mathlib.Algebra.Ring.Int.Defs
import Mathlib.Algebra.Ring.Nat
import Mathlib.Data.PNat.Notation
import XinghaiApi.Lib.Run

/-!
# Storage of request bodies

A body is kept in memory or in a temporary file, and read again by every retry. Both are byte arrays
with a cursor; the file gives its whole content by moving the cursor to the start and back.
-/

namespace XinghaiApi

open Machine

inductive StorageError where
  | closed
  | eof
  | invalidSeek

/-- The counters of the disk files, or those of the memory buffers. -/
structure StorageUsage where
  active : ℤ
  bytes  : ℤ

namespace StorageUsage

variable (size : ℕ) (u : StorageUsage)

def increment : StorageUsage := ⟨u.active + 1, u.bytes + size⟩

def decrementDiskFiles : StorageUsage := ⟨max (u.active - 1) 0, max (u.bytes - size) 0⟩

def decrementMemoryBuffers : StorageUsage := ⟨u.active - 1, u.bytes - size⟩

end StorageUsage

/-- What changes in a storage: its cursor, its flag, and the counters of its kind. -/
structure BodyStorage where
  pos    : ℕ := 0
  closed : Bool := false
  usage  : StorageUsage

/-- The calls; a `Read` has room for a byte or more. -/
inductive BodyCall where
  | read (n : ℕ+)
  | seek (offset whence : ℤ)
  | bytes
  | close
deriving DecidableEq

structure BodyAnswer where
  data     : List UInt8 := []
  position : ℤ := 0
  error    : Option StorageError := none

open StorageUsage

namespace BodyStorage

/-! ### The storages -/

-- the bytes of the storage, which are never written again
variable (data : List UInt8) (isDisk : Bool)

def read (n pos : ℕ) : ℕ × List UInt8 × Option StorageError :=
  if pos ≥ data.length then (pos, [], some .eof)
  else
    let p := (data.drop pos).take n
    (pos + p.length, p, none)

def seek (offset whence : ℤ) (pos : ℕ) : ℕ × ℤ × Option StorageError :=
  let abs? : Option ℤ :=
    if whence = 0 then some offset
    else if whence = 1 then some (pos + offset)
    else if whence = 2 then some (data.length + offset)
    else none
  match abs? with
  | none     => (pos, 0, some .invalidSeek)
  | some abs =>
    -- a sum of `2 ^ 63` or more has wrapped to a negative position
    if abs < 0 ∨ 2 ^ 63 ≤ abs then (pos, 0, some .invalidSeek) else (abs.toNat, abs, none)

/-- The bytes that `io.ReadFull` reads into a buffer, with the cursor after them. -/
def readFull (size pos : ℕ) : ℕ × List UInt8 :=
  if size = 0 then (pos, [])
  else
    let (pos, p, _) := read data size pos
    (pos, p)

/-- The whole content, with the cursor after the call. -/
def bytes (pos : ℕ) : ℕ × List UInt8 :=
  if isDisk then
    let (pos, currentPos, _) := seek data 0 1 pos
    let (pos, _, _) := seek data 0 0 pos
    let (pos, content) := readFull data data.length pos
    let (pos, _, _) := seek data currentPos 0 pos
    (pos, content)
  else (pos, data)

def release (u : StorageUsage) : StorageUsage :=
  if isDisk then u.decrementDiskFiles data.length else u.decrementMemoryBuffers data.length

/-- `newMemoryStorage` or `newDiskStorage`. -/
def new (u : StorageUsage) : BodyStorage where
  usage := u.increment data.length

def call (s : BodyStorage) : BodyCall → BodyStorage × BodyAnswer
  | .close =>
    if s.closed then (s, {})
    else ({ s with closed := true, usage := release data isDisk s.usage }, {})
  | c =>
    if s.closed then (s, { error := some .closed })
    else
      match c with
      | .read n =>
        let (pos, data, error) := read data n s.pos
        ({ s with pos }, { data, error })
      | .seek offset whence =>
        let (pos, position, error) := seek data offset whence s.pos
        ({ s with pos }, { position, error })
      | _ =>
        let (pos, data) := bytes data isDisk s.pos
        ({ s with pos }, { data })

def answers (s : BodyStorage) : List BodyCall → List BodyAnswer
  | []      => []
  | c :: cs => (call data isDisk s c).2 :: answers (call data isDisk s c).1 cs

def after : BodyStorage → List BodyCall → BodyStorage :=
  run fun s c => (call data isDisk s c).1

/-! ### The two storages agree -/

variable {data}

lemma seek_start {n : ℤ} (h : 0 ≤ n) (h' : n < 2 ^ 63) (pos : ℕ) :
    seek data n 0 pos = (n.toNat, n, none) := by
  simp only [seek, ↓reduceIte]
  rw [if_neg (by omega)]

lemma seek_current {pos : ℕ} (h : (pos : ℤ) < 2 ^ 63) :
    seek data 0 1 pos = (pos, (pos : ℤ), none) := by
  simp only [seek, Int.reduceEq, ↓reduceIte, Int.add_zero]
  rw [if_neg (by omega), Int.toNat_natCast]

lemma readFull_start : readFull data data.length 0 = (data.length, data) := by
  cases data <;> simp [readFull, read]

/-- The file is read from the start, and its cursor goes back. -/
lemma bytes_eq {pos : ℕ} (h : pos < 2 ^ 63) : bytes data isDisk pos = (pos, data) := by
  have hpos : (pos : ℤ) < 2 ^ 63 := mod_cast h
  cases isDisk with
  | false => rfl
  | true =>
    simp [bytes, seek_current hpos, seek_start, readFull_start,
      seek_start (Int.natCast_nonneg _) hpos]

lemma call_pos_lt (hdata : data.length < 2 ^ 63) {s : BodyStorage} (h : s.pos < 2 ^ 63)
    (c : BodyCall) : (call data isDisk s c).1.pos < 2 ^ 63 := by
  cases hc : s.closed with
  | true => cases c <;> simpa [call, hc] using h
  | false =>
    cases c with
    | close => simpa [call, hc] using h
    | bytes => simpa [call, hc, bytes_eq isDisk h] using h
    | read n =>
      simp only [call, hc, Bool.false_eq_true, ↓reduceIte, read]
      split
      · exact h
      · simp only [List.length_take, List.length_drop]
        omega
    | seek offset whence =>
      simp only [call, hc, Bool.false_eq_true, ↓reduceIte, seek]
      split
      · exact h
      · split
        · exact h
        · dsimp only
          omega

lemma answers_congr (hdata : data.length < 2 ^ 63) (s t : BodyStorage) (h : s.pos < 2 ^ 63)
    (hpos : t.pos = s.pos) (hclosed : t.closed = s.closed) (calls : List BodyCall) :
    answers data true t calls = answers data false s calls := by
  induction calls generalizing s t with
  | nil => rfl
  | cons c cs ih =>
    have hstep : (call data true t c).2 = (call data false s c).2 ∧
        (call data true t c).1.pos = (call data false s c).1.pos ∧
        (call data true t c).1.closed = (call data false s c).1.closed := by
      cases hc : s.closed <;> cases c <;> simp [call, hpos, hclosed, hc, bytes_eq _ h]
    simp only [answers, hstep.1, List.cons.injEq, true_and]
    exact ih _ _ (call_pos_lt false hdata h c) hstep.2.1 hstep.2.2

/-! ### The counters -/

lemma call_usage {s : BodyStorage} (h : s.closed = false) {c : BodyCall} (hc : c ≠ .close) :
    (call data isDisk s c).1.closed = false ∧ (call data isDisk s c).1.usage = s.usage := by
  cases c with
  | close => exact absurd rfl hc
  | read | seek | bytes => simp [call, h]

lemma after_usage (s : BodyStorage) (calls : List BodyCall) :
    (after data isDisk s calls).usage =
      if s.closed = false ∧ .close ∈ calls then release data isDisk s.usage else s.usage := by
  induction calls generalizing s with
  | nil => simp [after]
  | cons c cs ih =>
    rw [after, run_cons, ← after, ih]
    cases hs : s.closed with
    | true => cases c <;> simp [call, hs]
    | false =>
      by_cases hc : c = .close
      · subst hc
        simp [call, hs]
      · simp [call_usage isDisk hs hc, Ne.symm hc]

lemma release_new {u : StorageUsage} (hactive : 0 ≤ u.active) (hbytes : 0 ≤ u.bytes) :
    release data isDisk (new data u).usage = u := by
  have hactive : max u.active 0 = u.active := Int.max_eq_left hactive
  have hbytes : max u.bytes 0 = u.bytes := Int.max_eq_left hbytes
  cases isDisk <;>
    simp [release, new, increment, decrementMemoryBuffers, decrementDiskFiles, hactive, hbytes]

/-- Over every sequence of calls the two storages answer alike, `Bytes` leaves the storage as it is,
and a storage that was closed has left the counters as it found them. -/
theorem storages_agree (data : List UInt8) (hdata : data.length < 2 ^ 63) (u u' : StorageUsage)
    (hactive : 0 ≤ u.active) (hbytes : 0 ≤ u.bytes) (calls : List BodyCall) :
    answers data true (new data u) calls = answers data false (new data u') calls ∧
      ∀ isDisk,
        (call data isDisk (after data isDisk (new data u) calls) .bytes).1 =
          after data isDisk (new data u) calls ∧
        (after data isDisk (new data u) calls).usage =
          if .close ∈ calls then u else u.increment data.length := by
  have hpos : 0 < 2 ^ 63 := Nat.two_pow_pos 63
  refine ⟨answers_congr hdata (new data u') (new data u) hpos rfl rfl calls, fun isDisk => ⟨?_, ?_⟩⟩
  · have hafter : (after data isDisk (new data u) calls).pos < 2 ^ 63 :=
      run_invariant (I := fun s : BodyStorage => s.pos < 2 ^ 63)
        (fun _ c hs => call_pos_lt isDisk hdata hs c) hpos calls
    simp only [call, bytes_eq isDisk hafter]
    split <;> rfl
  · rw [after_usage, release_new isDisk hactive hbytes]
    simp [new]

theorem storages_agree_closed_twice :
    answers [7, 8] true (new [7, 8] ⟨0, 0⟩) [.read ⟨1, by decide⟩, .bytes, .close, .close] =
        answers [7, 8] false (new [7, 8] ⟨0, 0⟩) [.read ⟨1, by decide⟩, .bytes, .close, .close] ∧
      (after [7, 8] true (new [7, 8] ⟨0, 0⟩)
        [.read ⟨1, by decide⟩, .bytes, .close, .close]).usage = ⟨0, 0⟩ := by
  have h := storages_agree [7, 8] (by decide) ⟨0, 0⟩ ⟨0, 0⟩ (by decide) (by decide)
    [.read ⟨1, by decide⟩, .bytes, .close, .close]
  exact ⟨h.1, (h.2 true).2⟩

/-! ### Reading again -/

/-- Reads give the bytes from the cursor on, each of them once. -/
lemma answers_read {s : BodyStorage} (h : s.closed = false) (ns : List ℕ+) :
    (answers data isDisk s (ns.map .read)).flatMap BodyAnswer.data =
      (data.drop s.pos).take (ns.map PNat.val).sum := by
  induction ns generalizing s with
  | nil => simp [answers]
  | cons n ns ih =>
    have hopen : (call data isDisk s (.read n)).1.closed = false :=
      (call_usage isDisk h (c := .read n) nofun).1
    rw [List.map_cons, answers, List.flatMap_cons, ih hopen, List.map_cons, List.sum_cons,
      List.take_add]
    simp only [call, h, read, Bool.false_eq_true, ↓reduceIte]
    split
    · rename_i hend
      simp [List.drop_eq_nil_of_le hend]
    · have hdrop (l : List UInt8) : l.drop (l.take n).length = l.drop n := by simp
      rw [← List.drop_drop, hdrop]

/-- After `Seek(0, io.SeekStart)` an open body is read again in full, in whatever pieces. -/
theorem reread_whole (data : List UInt8) (isDisk : Bool) (u : StorageUsage) {calls : List BodyCall}
    (hcalls : .close ∉ calls) {ns : List ℕ+} (hns : data.length ≤ (ns.map PNat.val).sum) :
    (answers data isDisk (after data isDisk (new data u) (calls ++ [.seek 0 0]))
      (ns.map .read)).flatMap BodyAnswer.data = data := by
  have hopen : (after data isDisk (new data u) calls).closed = false := by
    have hok : Along (fun s c => (call data isDisk s c).1) (fun _ c => c ≠ .close) (new data u)
        calls := along_of_forall fun c hc _ => ne_of_mem_of_not_mem hc hcalls
    exact hok.invariant (I := fun s => s.closed = false)
      (fun _ _ hs hc => (call_usage isDisk hs hc).1) rfl
  have hseek : after data isDisk (new data u) (calls ++ [.seek 0 0]) =
      (call data isDisk (after data isDisk (new data u) calls) (.seek 0 0)).1 := run_append ..
  rw [hseek, answers_read isDisk (call_usage isDisk hopen (c := .seek 0 0) nofun).1]
  simpa [call, hopen, seek] using List.take_of_length_le hns

theorem reread_whole_in_twos :
    (answers [7, 8, 9] true
      (after [7, 8, 9] true (new [7, 8, 9] ⟨0, 0⟩) ([.read ⟨1, by decide⟩, .bytes] ++ [.seek 0 0]))
      ([⟨2, by decide⟩, ⟨2, by decide⟩].map .read)).flatMap BodyAnswer.data = [7, 8, 9] :=
  reread_whole _ _ _ (by decide) (by decide)

end BodyStorage

end XinghaiApi
