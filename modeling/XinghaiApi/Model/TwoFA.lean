import XinghaiApi.Lib.HostPort
import XinghaiApi.Lib.Pool
import XinghaiApi.Lib.Run
import XinghaiApi.Lib.Table

/-!
# Two-factor authentication

A login or a verification is checked against the time-based code first and against the backup codes
then. A backup code is found among the unused ones by one statement and saved as used, as a whole
row, by another. Attempts are interleaved statement by statement.
-/

namespace XinghaiApi

open Ip Machine Text Pool Table

/-! ### Tables -/

def maxFailAttempts : ℤ := 5

/-- In seconds. -/
def lockoutDuration : ℤ := 300

def backupCodeLength : ℕ := 8

structure TwoFA where
  id : ℤ := 0
  userId : ℤ
  secret : String
  isEnabled : Bool
  failedAttempts : ℤ := 0
  lockedUntil : Option ℤ := none
  lastUsedAt : Option ℤ := none
deriving DecidableEq

instance : Row TwoFA where
  key t := t.id
  withKey k t := { t with id := k }
  key_withKey _ _ := rfl
  withKey_key _ := rfl

structure TwoFABackupCode where
  id : ℤ := 0
  userId : ℤ
  codeHash : String
  isUsed : Bool := false
  usedAt : Option ℤ := none
  /-- deleted softly -/
  deleted : Bool := false
deriving DecidableEq

instance : Row TwoFABackupCode where
  key bc := bc.id
  withKey k bc := { bc with id := k }
  key_withKey _ _ := rfl
  withKey_key _ := rfl

@[simp] lemma TwoFABackupCode.key_eq (bc : TwoFABackupCode) : Row.key bc = bc.id := rfl

structure TwoFADB where
  twoFAs : Table TwoFA
  codes : Table TwoFABackupCode

/-- The hashes and the time-based codes. -/
structure TwoFACrypto where
  password2Hash : String → Option String
  validatePasswordAndHash : String → String → Bool
  /-- the code of a secret at a time -/
  validateTOTP : ℤ → String → String → Bool

/-! ### Codes -/

def cleanBackupCode (code : String) : String :=
  toUpper (String.ofList (code.toList.filter (· ≠ '-')))

/-- The form of a backup code: letters and digits, with any number of hyphens. -/
def validateBackupCodeFormat (code : String) : Bool :=
  (cleanBackupCode code).length = backupCodeLength &&
    (cleanBackupCode code).toList.all fun c => ('A' ≤ c && c ≤ 'Z') || ('0' ≤ c && c ≤ '9')

def normalizeBackupCode (code : String) : String :=
  let cleanCode := cleanBackupCode code
  if cleanCode.length = backupCodeLength then
    String.ofList (cleanCode.toList.take 4) ++ "-" ++ String.ofList (cleanCode.toList.drop 4)
  else code

/-- Six characters that are read as a number; a sign counts as one of them. -/
def validateNumericCode (code : String) : Except String String :=
  let code := String.ofList (code.toList.filter (· ≠ ' '))
  if code.utf8ByteSize ≠ 6 then .error "验证码必须是6位数字"
  else if (atoi code).isNone then .error "验证码只能包含数字"
  else .ok code

def validateTOTPCode (crypto : TwoFACrypto) (now : ℤ) (secret code : String) : Bool :=
  let cleanCode := String.ofList (code.toList.filter (· ≠ ' '))
  cleanCode.utf8ByteSize = 6 && crypto.validateTOTP now secret cleanCode

/-! ### Settings of a user -/

namespace TwoFA

variable (t : TwoFA)

def isLocked (now : ℤ) : Bool := t.lockedUntil.any (now < ·)

/-- What `IncrementFailedAttempts` saves. -/
def withFailedAttempt (now : ℤ) : TwoFA :=
  { t with
    failedAttempts := t.failedAttempts + 1
    lockedUntil :=
      if maxFailAttempts ≤ t.failedAttempts + 1 then some (now + lockoutDuration)
      else t.lockedUntil }

/-- What a valid code saves. -/
def withUsage (now : ℤ) : TwoFA :=
  { t with failedAttempts := 0, lockedUntil := none, lastUsedAt := some now }

end TwoFA

/-! ### Statements on the codes -/

namespace TwoFADB

variable (db : TwoFADB)

def getTwoFAByUserId (userId : ℤ) : Option TwoFA :=
  if userId = 0 then none else db.twoFAs.findBy (·.userId = userId)

def findBackupCode (crypto : TwoFACrypto) (userId : ℤ) (code : String) : Option TwoFABackupCode :=
  db.codes.findBy fun bc => bc.userId = userId && !bc.isUsed && !bc.deleted &&
    crypto.validatePasswordAndHash (normalizeBackupCode code) bc.codeHash

/-- The update of a `Save` reaches a row. -/
def reachesCode (bc : TwoFABackupCode) : Bool :=
  (db.codes.find bc.id).any fun row => !row.deleted

/-- `CreateBackupCodes`, in one transaction: the codes of the user are deleted softly. -/
def createBackupCodes (crypto : TwoFACrypto) (userId : ℤ) (codes : List String) : TwoFADB :=
  match codes.mapM fun code => crypto.password2Hash (normalizeBackupCode code) with
  | none        => db
  | some hashes =>
    let deleted := db.codes.modifyWhere (fun bc => bc.userId = userId)
      fun bc => { bc with deleted := true }
    { db with
      codes := hashes.foldl (fun codes codeHash => codes.insert { userId, codeHash }) deleted }

/-- `TwoFA.Delete`, in one transaction. -/
def deleteTwoFA (t : TwoFA) : TwoFADB where
  twoFAs := db.twoFAs.delete t.id
  codes := db.codes.deleteWhere fun bc => bc.userId = t.userId

end TwoFADB

/-! ### Attempts -/

/-- Where an attempt goes on after the settings are saved. -/
inductive AfterSave where
  | backup
  | finish (valid : Bool)
deriving DecidableEq

/-- The statement that an attempt makes next. A `Save` updates the row, and inserts it if no row was
updated. -/
inductive AttemptPhase where
  | load
  | saveTwoFA (t : TwoFA) (inserts : Bool) (next : AfterSave)
  | readCodes (t : TwoFA)
  | saveCode (t : TwoFA) (bc : TwoFABackupCode) (inserts : Bool)
  | done (valid : Bool)
deriving DecidableEq

structure TwoFAAttempt where
  userId : ℤ
  code : String
  phase : AttemptPhase := .load
deriving DecidableEq

open TwoFAAttempt

namespace TwoFAAttempt

variable (crypto : TwoFACrypto) (attempt : TwoFAAttempt)

/-- The checks of `ValidateBackupCodeAndUpdateUsage` before the codes are read. -/
def startBackup (t : TwoFA) (now : ℤ) : AttemptPhase :=
  if t.isLocked now then .done false
  else if !validateBackupCodeFormat attempt.code then .done false
  else .readCodes t

/-- The time-based code, if the code has its form. -/
def afterLoad (t : TwoFA) (now : ℤ) : AttemptPhase :=
  match validateNumericCode attempt.code with
  | .error _      => attempt.startBackup t now
  | .ok cleanCode =>
    if t.isLocked now then attempt.startBackup t now
    else if validateTOTPCode crypto now t.secret cleanCode then
      .saveTwoFA (t.withUsage now) false (.finish true)
    else .saveTwoFA (t.withFailedAttempt now) false .backup

def afterSave (t : TwoFA) (now : ℤ) : AfterSave → AttemptPhase
  | .backup       => attempt.startBackup t now
  | .finish valid => .done valid

end TwoFAAttempt

/-- What a statement leaves: the tables, the next statement, and the code it has accepted. -/
structure StatementResult where
  db : TwoFADB
  phase : AttemptPhase
  accepted : Option ℤ := none

/-- The next statement of an attempt. -/
def TwoFAAttempt.exec (crypto : TwoFACrypto) (db : TwoFADB) (attempt : TwoFAAttempt) (now : ℤ)
    (fails : Bool) : StatementResult :=
  match attempt.phase with
  | .load =>
    if fails then { db, phase := .done false }
    else
      match db.getTwoFAByUserId attempt.userId with
      | none   => { db, phase := .done false }
      | some t =>
        if t.isEnabled then { db, phase := attempt.afterLoad crypto t now }
        else { db, phase := .done false }
  | .saveTwoFA t inserts next =>
    -- an error of this save is only logged
    if fails then { db, phase := attempt.afterSave t now next }
    else if inserts then
      { db := { db with twoFAs := db.twoFAs.upsert t }, phase := attempt.afterSave t now next }
    else if (db.twoFAs.find t.id).isSome then
      { db := { db with twoFAs := db.twoFAs.save t }, phase := attempt.afterSave t now next }
    else { db, phase := .saveTwoFA t true next }
  | .readCodes t =>
    if fails then { db, phase := .done false }
    else
      match db.findBackupCode crypto attempt.userId attempt.code with
      | none    => { db, phase := .saveTwoFA (t.withFailedAttempt now) false (.finish false) }
      | some bc => { db, phase := .saveCode t { bc with isUsed := true, usedAt := some now } false }
  | .saveCode t bc inserts =>
    if fails then { db, phase := .done false }
    else if inserts then
      { db := { db with codes := db.codes.upsert bc }
        phase := .saveTwoFA (t.withUsage now) false (.finish true)
        accepted := some bc.id }
    else if db.reachesCode bc then
      { db := { db with codes := db.codes.save bc }
        phase := .saveTwoFA (t.withUsage now) false (.finish true)
        accepted := some bc.id }
    else { db, phase := .saveCode t bc true }
  | .done valid => { db, phase := .done valid }

/-! ### Interleavings -/

structure TwoFAState where
  db : TwoFADB
  attempts : List TwoFAAttempt := []
  /-- the ids of the codes that were accepted -/
  accepted : List ℤ := []

inductive TwoFAEvent where
  /-- a login or a verification arrives -/
  | attempt (userId : ℤ) (code : String)
  /-- the next statement of an attempt -/
  | statement (i : ℕ) (now : ℤ) (fails : Bool)
  | createBackupCodes (userId : ℤ) (codes : List String)
  | disable (t : TwoFA)
  /-- the settings are written by a setup or when they are enabled -/
  | setup (t : TwoFA)

def twoFAStep (crypto : TwoFACrypto) (s : TwoFAState) : TwoFAEvent → TwoFAState
  | .attempt userId code => { s with attempts := s.attempts ++ [{ userId, code }] }
  | .statement i now fails =>
    match s.attempts[i]? with
    | none         => s
    | some attempt =>
      let result := attempt.exec crypto s.db now fails
      { db := result.db
        attempts := s.attempts.set i { attempt with phase := result.phase }
        accepted := s.accepted ++ result.accepted.toList }
  | .createBackupCodes userId codes =>
    { s with db := s.db.createBackupCodes crypto userId codes }
  | .disable t => { s with db := s.db.deleteTwoFA t }
  | .setup t   => { s with db := { s.db with twoFAs := s.db.twoFAs.upsert t } }

/-- No code was accepted twice. -/
def TwoFAState.AcceptsOnce (s : TwoFAState) : Prop := s.accepted.Nodup

instance (s : TwoFAState) : Decidable s.AcceptsOnce := inferInstanceAs (Decidable s.accepted.Nodup)

/-- The attempt has found the code and not saved it yet. -/
def TwoFAAttempt.holds (id : ℤ) (attempt : TwoFAAttempt) : Bool :=
  match attempt.phase with
  | .saveCode _ bc _ => bc.id = id
  | _                => false

def TwoFAAttempt.reads (attempt : TwoFAAttempt) : Bool :=
  match attempt.phase with
  | .readCodes _ => true
  | _            => false

/-- An attempt that reads the codes does not find one that another attempt has still to save. -/
def FindsFree (crypto : TwoFACrypto) (s : TwoFAState) : TwoFAEvent → Prop
  | .statement i _ false =>
    ∀ attempt ∈ s.attempts[i]?, attempt.reads = true →
      ∀ bc ∈ s.db.findBackupCode crypto attempt.userId attempt.code,
        ∀ other ∈ s.attempts, other.holds bc.id = false
  | _ => True

instance (crypto : TwoFACrypto) (s : TwoFAState) : DecidablePred (FindsFree crypto s)
  | .statement i _ false =>
    inferInstanceAs (Decidable (∀ attempt ∈ s.attempts[i]?, attempt.reads = true →
      ∀ bc ∈ s.db.findBackupCode crypto attempt.userId attempt.code,
        ∀ other ∈ s.attempts, other.holds bc.id = false))
  | .statement _ _ true    => .isTrue trivial
  | .attempt _ _           => .isTrue trivial
  | .createBackupCodes _ _ => .isTrue trivial
  | .disable _             => .isTrue trivial
  | .setup _               => .isTrue trivial

/-! ### Single use -/

variable {crypto : TwoFACrypto} {s : TwoFAState}

/-- What makes a code single use: an accepted code is stored as used, and a code that is about to be
accepted was not and is held by one attempt only. -/
structure TwoFAState.Consistent (s : TwoFAState) : Prop where
  once : s.AcceptsOnce
  issued : ∀ id ∈ s.accepted, id < s.db.codes.next
  used : ∀ bc ∈ s.db.codes, bc.id ∈ s.accepted → bc.isUsed = true
  held : ∀ attempt ∈ s.attempts, ∀ id, attempt.holds id = true → id ∉ s.accepted
  marked : ∀ attempt ∈ s.attempts, ∀ t bc inserts, attempt.phase = .saveCode t bc inserts →
    bc.isUsed = true
  alone : ∀ id, s.attempts.countP (·.holds id) ≤ 1

inductive StatementMove (crypto : TwoFACrypto) (db : TwoFADB) (attempt : TwoFAAttempt) :
    Bool → StatementResult → Prop
  /-- the codes stay, and the attempt holds none afterwards -/
  | other {fails : Bool} {twoFAs : Table TwoFA} {phase : AttemptPhase}
    (hfree : ∀ id, ({ attempt with phase } : TwoFAAttempt).holds id = false) :
    StatementMove crypto db attempt fails { db := { db with twoFAs }, phase }
  | find {t : TwoFA} {bc : TwoFABackupCode} {now : ℤ} (hphase : attempt.phase = .readCodes t)
    (hfind : db.findBackupCode crypto attempt.userId attempt.code = some bc) :
    StatementMove crypto db attempt false
      { db, phase := .saveCode t { bc with isUsed := true, usedAt := some now } false }
  | missed {t : TwoFA} {bc : TwoFABackupCode} (hphase : attempt.phase = .saveCode t bc false) :
    StatementMove crypto db attempt false { db, phase := .saveCode t bc true }
  | accept {t t' : TwoFA} {bc : TwoFABackupCode} {inserts : Bool}
    (hphase : attempt.phase = .saveCode t bc inserts) :
    StatementMove crypto db attempt false
      { db := { db with codes := db.codes.upsert bc }
        phase := .saveTwoFA t' false (.finish true)
        accepted := some bc.id }

open List

variable {db : TwoFADB} {attempt : TwoFAAttempt} (t : TwoFA) {bc : TwoFABackupCode}

lemma holds_startBackup (now id : ℤ) :
    ({ attempt with phase := attempt.startBackup t now } : TwoFAAttempt).holds id = false := by
  simp only [startBackup]
  split_ifs <;> rfl

lemma holds_afterLoad (now id : ℤ) :
    ({ attempt with phase := attempt.afterLoad crypto t now } : TwoFAAttempt).holds id = false := by
  simp only [afterLoad]
  split
  · exact holds_startBackup t now id
  · split_ifs
    · exact holds_startBackup t now id
    · rfl
    · rfl

lemma holds_afterSave (now id : ℤ) (next : AfterSave) :
    ({ attempt with phase := attempt.afterSave t now next } : TwoFAAttempt).holds id = false := by
  cases next with
  | backup => exact holds_startBackup t now id
  | finish valid => rfl

/-- A row that is reached is there, so that saving it is the same as inserting it over it. -/
lemma save_eq_upsert (h : db.reachesCode bc = true) : db.codes.save bc = db.codes.upsert bc := by
  have hfound : db.codes.find (Row.key bc) ≠ none := by
    intro hnone
    simp only [TwoFADB.reachesCode, TwoFABackupCode.key_eq] at h hnone
    simp [hnone] at h
  rw [upsert, dif_neg hfound]

lemma statementMove_exec (crypto : TwoFACrypto) (db : TwoFADB) (attempt : TwoFAAttempt) (now : ℤ)
    (fails : Bool) :
    StatementMove crypto db attempt fails (attempt.exec crypto db now fails) := by
  have hdone : ∀ fails valid, StatementMove crypto db attempt fails { db, phase := .done valid } :=
    fun _ _ => .other fun _ => rfl
  rw [exec]
  cases hphase : attempt.phase with
  | load =>
    split_ifs
    · exact hdone _ false
    · cases db.getTwoFAByUserId attempt.userId with
      | none => exact hdone _ false
      | some t =>
        dsimp only
        split_ifs
        · exact .other fun id => holds_afterLoad t now id
        · exact hdone _ false
  | saveTwoFA t inserts next =>
    dsimp only
    split_ifs
    · exact .other fun id => holds_afterSave t now id next
    · exact .other fun id => holds_afterSave t now id next
    · exact .other fun id => holds_afterSave t now id next
    · exact .other fun _ => rfl
  | readCodes t =>
    cases fails with
    | true => exact hdone true false
    | false =>
      cases hfind : db.findBackupCode crypto attempt.userId attempt.code with
      | none => exact .other fun _ => rfl
      | some bc => exact .find hphase hfind
  | saveCode t bc inserts =>
    cases fails with
    | true => exact hdone true false
    | false =>
      cases inserts with
      | true => exact .accept hphase
      | false =>
        simp only [Bool.false_eq_true, if_false]
        split_ifs with hreach
        · rw [save_eq_upsert hreach]
          exact .accept hphase
        · exact .missed hphase
  | done valid => exact hdone fails valid

/-! ### One step -/

variable {attempt' : TwoFAAttempt} {t : TwoFA} {inserts : Bool} {i : ℕ}

/-- A move that leaves the codes and takes no new one keeps the single use. -/
lemma TwoFAState.Consistent.set_free (h : s.Consistent) (hi : s.attempts[i]? = some attempt)
    (hfree : ∀ id, attempt'.holds id = false) (twoFAs : Table TwoFA) :
    TwoFAState.Consistent
      { s with db := { s.db with twoFAs }, attempts := s.attempts.set i attempt' } := by
  refine ⟨h.once, h.issued, h.used, ?_, ?_, fun id => ?_⟩
  · refine forall_mem_set h.held fun id hholds => ?_
    rw [hfree] at hholds
    cases hholds
  · refine forall_mem_set h.marked fun t bc inserts hphase => ?_
    have hholds := hfree bc.id
    simp [holds, hphase] at hholds
  · have hcount : (s.attempts.set i attempt').countP (·.holds id) + (attempt.holds id).toNat =
        s.attempts.countP (·.holds id) + (attempt'.holds id).toNat := countP_set_add hi
    have halone := h.alone id
    rw [hfree, Bool.toNat_false] at hcount
    dsimp only
    omega

lemma holds_of_saveCode (h : attempt.phase = .saveCode t bc inserts) (id : ℤ) :
    attempt.holds id = decide (bc.id = id) := by
  simp [holds, h]

section

variable (hi : s.attempts[i]? = some attempt)

include hi

/-- The code that is found is unused, so it was never accepted, and no attempt holds it. -/
lemma TwoFAState.Consistent.set_find (h : s.Consistent) {now : ℤ}
    (hphase : attempt.phase = .readCodes t)
    (hfind : s.db.findBackupCode crypto attempt.userId attempt.code = some bc)
    (hfree : ∀ other ∈ s.attempts, other.holds bc.id = false) :
    TwoFAState.Consistent { s with
      attempts := s.attempts.set i { attempt with
        phase := .saveCode t { bc with isUsed := true, usedAt := some now } false } } := by
  obtain ⟨hmem, hunused⟩ := findBy_eq_some hfind
  have hnew : bc.id ∉ s.accepted := by
    intro haccepted
    simp [h.used bc hmem haccepted] at hunused
  refine ⟨h.once, h.issued, h.used, ?_, ?_, fun id => ?_⟩
  · refine forall_mem_set h.held fun id hholds => ?_
    obtain rfl : bc.id = id := by simpa [holds] using hholds
    exact hnew
  · refine forall_mem_set h.marked ?_
    rintro _ _ _ ⟨⟩
    rfl
  · have hbefore : attempt.holds id = false := by simp [holds, hphase]
    by_cases hid : bc.id = id
    · have hnone : s.attempts.countP (·.holds id) = 0 := by
        rw [countP_eq_zero]
        intro other hother
        simp [← hid, hfree other hother]
      rw [countP_set_enter hi hbefore (by simpa [holds] using hid), hnone]
    · rw [countP_set_of_eq hi (by rw [hbefore]; simpa [holds] using hid)]
      exact h.alone id

/-- The attempt goes on to insert the row, and still holds the code. -/
lemma TwoFAState.Consistent.set_missed (h : s.Consistent)
    (hphase : attempt.phase = .saveCode t bc false) :
    TwoFAState.Consistent
      { s with attempts := s.attempts.set i { attempt with phase := .saveCode t bc true } } := by
  have hsame : ∀ id, ({ attempt with phase := .saveCode t bc true } : TwoFAAttempt).holds id =
      attempt.holds id := by
    intro id
    rw [holds_of_saveCode hphase, holds_of_saveCode rfl]
  have hmem := mem_of_getElem? hi
  refine ⟨h.once, h.issued, h.used, ?_, ?_, fun id => ?_⟩
  · exact forall_mem_set h.held fun id hholds => h.held attempt hmem id (hsame id ▸ hholds)
  · refine forall_mem_set h.marked ?_
    rintro _ _ _ ⟨⟩
    exact h.marked attempt hmem t bc false hphase
  · rw [countP_set_of_eq hi (hsame id)]
    exact h.alone id

/-- The code is stored as used, and no other attempt holds it. -/
lemma TwoFAState.Consistent.set_accept (h : s.Consistent)
    (hphase : attempt.phase = .saveCode t bc inserts) (hfree : ∀ id, attempt'.holds id = false) :
    TwoFAState.Consistent
      { db := { s.db with codes := s.db.codes.upsert bc }
        attempts := s.attempts.set i attempt'
        accepted := s.accepted ++ [bc.id] } := by
  have hmem := mem_of_getElem? hi
  have hholds : attempt.holds bc.id = true := by simp [holds_of_saveCode hphase]
  have hnew : bc.id ∉ s.accepted := h.held attempt hmem bc.id hholds
  have hcount : ∀ id, (s.attempts.set i attempt').countP (·.holds id) + (attempt.holds id).toNat =
      s.attempts.countP (·.holds id) := by
    intro id
    have hadd : _ = _ + (attempt'.holds id).toNat := countP_set_add hi
    rwa [hfree, Bool.toNat_false, Nat.add_zero] at hadd
  have hgone : (s.attempts.set i attempt').countP (·.holds bc.id) = 0 := by
    have hone := hcount bc.id
    have halone := h.alone bc.id
    rw [hholds, Bool.toNat_true] at hone
    omega
  refine ⟨?_, ?_, ?_, ?_, ?_, fun id => ?_⟩
  · exact nodup_append.mpr ⟨h.once, nodup_singleton _, by
      rintro a ha b hb rfl
      exact hnew (mem_singleton.mp hb ▸ ha)⟩
  · intro id hid
    have hnext := next_le_upsert s.db.codes bc
    rcases mem_append.mp hid with hid | hid
    · exact (h.issued id hid).trans_le hnext
    · rw [mem_singleton.mp hid]
      exact (s.db.codes.upsert bc).fresh bc (mem_upsert.mpr (.inr rfl))
  · intro row hrow hid
    rcases mem_upsert.mp hrow with ⟨hrow, hne⟩ | rfl
    · refine h.used row hrow ?_
      rcases mem_append.mp hid with hid | hid
      · exact hid
      · exact absurd (mem_singleton.mp hid) hne
    · exact h.marked attempt hmem t row inserts hphase
  · intro other hother id hid
    rw [mem_append, mem_singleton]
    rintro (haccepted | rfl)
    · refine forall_mem_set h.held (fun id hid => ?_) other hother id hid haccepted
      rw [hfree] at hid
      cases hid
    · exact absurd hid (by simpa using countP_eq_zero.mp hgone other hother)
  · refine forall_mem_set h.marked fun t bc inserts hphase => ?_
    have hnone := hfree bc.id
    simp [holds_of_saveCode hphase] at hnone
  · have halone := h.alone id
    have hid := hcount id
    dsimp only
    omega

end

/-- A change of the codes by others than attempts: rows stay as used as they were, and new ones get
new ids. -/
lemma TwoFAState.Consistent.set_codes (h : s.Consistent) (hnext : s.db.codes.next ≤ db.codes.next)
    (hrows : ∀ bc ∈ db.codes, s.db.codes.next ≤ bc.id ∨
      ∃ row ∈ s.db.codes, row.id = bc.id ∧ row.isUsed = bc.isUsed) :
    TwoFAState.Consistent { s with db } := by
  refine ⟨h.once, fun id hid => (h.issued id hid).trans_le hnext, ?_, h.held, h.marked, h.alone⟩
  intro bc hbc hid
  rcases hrows bc hbc with hnew | ⟨row, hrow, hsame, hused⟩
  · exact absurd (h.issued bc.id hid) (Int.not_lt.mpr hnew)
  · rw [← hused]
    exact h.used row hrow (hsame ▸ hid)

/-- New codes get new ids. -/
lemma mem_insertCodes (userId : ℤ) (hashes : List String) (codes : Table TwoFABackupCode) :
    codes.next ≤ (hashes.foldl (fun codes codeHash =>
        codes.insert { userId, codeHash }) codes).next ∧
      ∀ bc ∈ hashes.foldl (fun codes codeHash => codes.insert { userId, codeHash }) codes,
        codes.next ≤ bc.id ∨ bc ∈ codes := by
  induction hashes generalizing codes with
  | nil => exact ⟨Int.le_refl _, fun bc hbc => .inr hbc⟩
  | cons codeHash hashes ih =>
    obtain ⟨hnext, hrows⟩ := ih (codes.insert { userId, codeHash })
    have hone : (codes.insert { userId, codeHash }).next = codes.next + 1 := rfl
    refine ⟨by rw [foldl_cons]; omega, fun bc hbc => ?_⟩
    rcases hrows bc hbc with hnew | hold
    · exact .inl (by omega)
    · rcases mem_insert.mp hold with hold | rfl
      · exact .inr hold
      · exact .inl (Int.le_refl _)

lemma TwoFAState.Consistent.createBackupCodes (h : s.Consistent) (crypto : TwoFACrypto)
    (userId : ℤ) (codes : List String) :
    TwoFAState.Consistent { s with db := s.db.createBackupCodes crypto userId codes } := by
  rw [TwoFADB.createBackupCodes]
  split
  · exact h
  · rename_i hashes _
    obtain ⟨hnext, hrows⟩ := mem_insertCodes userId hashes
      (s.db.codes.modifyWhere (fun bc => bc.userId = userId) fun bc => { bc with deleted := true })
    refine h.set_codes hnext fun bc hbc => ?_
    rcases hrows bc hbc with hnew | hold
    · exact .inl hnew
    · obtain ⟨row, hrow, rfl⟩ := mem_modifyWhere.mp hold
      refine .inr ⟨row, hrow, ?_⟩
      split_ifs <;> exact ⟨rfl, rfl⟩

lemma TwoFAState.Consistent.step (h : s.Consistent) {e : TwoFAEvent}
    (hfree : FindsFree crypto s e) : (twoFAStep crypto s e).Consistent := by
  cases e with
  | attempt userId code =>
    refine ⟨h.once, h.issued, h.used, ?_, ?_, fun id => ?_⟩
    · intro other hother id hid
      rcases mem_append.mp hother with hother | hother
      · exact h.held other hother id hid
      · rw [mem_singleton.mp hother] at hid
        cases hid
    · intro other hother t bc inserts hphase
      rcases mem_append.mp hother with hother | hother
      · exact h.marked other hother t bc inserts hphase
      · rw [mem_singleton.mp hother] at hphase
        cases hphase
    · simpa [twoFAStep, holds] using h.alone id
  | statement i now fails =>
    simp only [twoFAStep]
    cases hi : s.attempts[i]? with
    | none => exact h
    | some attempt =>
      have hmove := statementMove_exec crypto s.db attempt now fails
      dsimp only
      generalize attempt.exec crypto s.db now fails = result at hmove
      cases hmove with
      | other hnone => simpa using h.set_free hi hnone _
      | find hphase hfind =>
        have hreads : attempt.reads = true := by simp [reads, hphase]
        have hothers := hfree attempt hi hreads _ hfind
        simpa using h.set_find hi hphase hfind hothers
      | missed hphase => simpa using h.set_missed hi hphase
      | accept hphase => exact h.set_accept hi hphase fun _ => rfl
  | createBackupCodes userId codes => exact h.createBackupCodes crypto userId codes
  | disable t =>
    refine h.set_codes (Int.le_refl _) fun bc hbc => ?_
    exact .inr ⟨bc, (mem_deleteWhere.mp hbc).1, rfl, rfl⟩
  | setup t => exact h.set_codes (Int.le_refl _) fun bc hbc => .inr ⟨bc, hbc, rfl, rfl⟩

/-! ### Runs -/

/-- In a run in which no attempt finds a code that another attempt has still to save, every code is
accepted at most once. -/
theorem acceptsOnce_along (crypto : TwoFACrypto) (db : TwoFADB) (events : List TwoFAEvent)
    (h : Along (twoFAStep crypto) (FindsFree crypto) { db } events) :
    ∀ s ∈ states (twoFAStep crypto) { db } events, s.AcceptsOnce := by
  have hinvariant : ∀ s ∈ states (twoFAStep crypto) { db } events, s.Consistent :=
    h.states_invariant (fun _ _ hs hfree => hs.step hfree)
      ⟨nodup_nil, by simp, by simp, by simp, by simp, by simp⟩
  exact fun s hs => (hinvariant s hs).once

/-! ### Two attempts with one code -/

/-- Codes are stored as they are, and no time-based code is right. -/
def plainCrypto : TwoFACrypto where
  password2Hash := some
  validatePasswordAndHash password hash := password = hash
  validateTOTP _ _ _ := false

def oneCode : TwoFADB where
  twoFAs :=
    { rows := [{ id := 1, userId := 7, secret := "", isEnabled := true }], next := 2
      nodup := by decide, fresh := by decide }
  codes :=
    { rows := [{ id := 1, userId := 7, codeHash := "ABCD-2345" }], next := 2
      nodup := by decide, fresh := by decide }

def twoAttempts : List TwoFAEvent :=
  [.attempt 7 "ABCD-2345", .attempt 7 "abcd2345"]

/-- The statements of the attempts, by their index. -/
def statements (order : List ℕ) : List TwoFAEvent := order.map fun i => .statement i 0 false

/-- One attempt after the other. -/
def inTurn : List TwoFAEvent := twoAttempts ++ statements [0, 0, 0, 0, 1, 1, 1]

/-- The second attempt finds no code. -/
theorem acceptsOnce_along_in_turn :
    Along (twoFAStep plainCrypto) (FindsFree plainCrypto) { db := oneCode } inTurn ∧
      (run (twoFAStep plainCrypto) { db := oneCode } inTurn).accepted = [1] ∧
      ∀ s ∈ states (twoFAStep plainCrypto) { db := oneCode } inTurn, s.AcceptsOnce := by
  have hfree : Along (twoFAStep plainCrypto) (FindsFree plainCrypto) { db := oneCode } inTurn := by
    decide +kernel
  exact ⟨hfree, by decide +kernel, acceptsOnce_along plainCrypto oneCode _ hfree⟩

/-- Both attempts read before one of them saves, and the code is accepted twice. -/
theorem backupCode_accepted_twice :
    (run (twoFAStep plainCrypto) { db := oneCode }
      (twoAttempts ++ statements [0, 1, 0, 1, 0, 1])).accepted = [1, 1] := by
  decide +kernel

end XinghaiApi
