import Mathlib.Algebra.Group.Prod
import XinghaiApi.Lib.Pending
import XinghaiApi.Model.Wallet.Program

/-!
# The ledger of a wallet

Once all calls have ended, the quota and the affiliate quota of a user should be what they were at
first plus what the calls have reported. Writes by a difference keep this whatever comes in between,
and so does a row that is saved under the lock it was read with. A row that is saved without a lock,
or a form with an old affiliate quota, keeps it only if the row has not changed since it was read.
-/

namespace XinghaiApi

open Machine Text Transaction WalletPhase WalletDB State Pending

/-! ### Writes of rows -/

def User.wallet (u : User) : ℤ × ℤ := (u.quota, u.affQuota)

@[simp] lemma User.wallet_addQuota (quota : Int) (u : User) :
    (u.addQuota quota).wallet = u.wallet + (quota, 0) := by
  simp [wallet, addQuota]

def WalletDB.wallet (db : WalletDB) (id : Int) : ℤ × ℤ := ((db.findUser id).map User.wallet).getD 0

def WalletDB.HasUser (db : WalletDB) (id : Int) : Prop := (db.findUser id).isSome = true

instance (db : WalletDB) (id : Int) : Decidable (db.HasUser id) :=
  inferInstanceAs (Decidable (_ = true))

/-- The write changes each user row by itself. -/
def RowWise (w : WalletDB → WalletDB) (f : Int → User → User) : Prop :=
  ∀ db id, (w db).findUser id = (db.findUser id).map (f id)

def Only (rows : List WalletRow) (f : Int → User → User) : Prop :=
  ∀ id, WalletRow.row (.user id) ∉ rows → ∀ r, f id r = r

section

variable {w w' : WalletDB → WalletDB} {f f' : Int → User → User} {rows rows' : List WalletRow}

lemma rowWise_id : RowWise id fun _ => id := by
  intro db id
  simp

lemma RowWise.comp (h : RowWise w f) (h' : RowWise w' f') :
    RowWise (w' ∘ w) fun id r => f' id (f id r) := by
  intro db id
  rw [Function.comp_apply, h' (w db) id, h db id, Option.map_map]
  rfl

lemma only_id : Only rows fun _ => id := fun _ _ _ => rfl

lemma Only.comp (h : Only rows f) (h' : Only rows' f') :
    Only (rows ++ rows') fun id r => f' id (f id r) := by
  intro id hid r
  rw [List.mem_append, not_or] at hid
  simp only [h id hid.1, h' id hid.2]

/-- A write of other tables. -/
lemma rowWise_of_users_eq (h : ∀ db, (w db).store.db.users = db.store.db.users) :
    RowWise w fun _ => id := by
  intro db id
  rw [Option.map_id]
  exact congrArg (fun users : Table User => users.find id) (h db)

section

variable (userId : Int) (g : User → User)

def updatedRow (id : Int) (r : User) : User :=
  if id = userId then { g r with id := userId } else r

lemma rowWise_onUser : RowWise (onUser userId g) (updatedRow userId g) := by
  intro db id
  show (db.store.db.users.modify userId g).find id = (db.store.db.users.find id).map _
  rw [Table.modify, Table.find_modifyWhere]
  cases hfind : db.store.db.users.find id with
  | none => rfl
  | some r =>
    have hid : r.id = id := (Table.find_eq_some_iff.mp hfind).2
    simp only [Option.map_some, updatedRow, Row.key, Row.withKey, hid]
    by_cases heq : id = userId
    · subst heq
      simp
    · simp [heq]

lemma only_updatedRow : Only [.row (.user userId)] (updatedRow userId g) := by
  intro id hid r
  simp only [List.mem_singleton, WalletRow.row.injEq, PurchaseRow.user.injEq] at hid
  simp [updatedRow, hid]

end

end

/-- The write adds to the wallets of the users in the list, and touches no other user. -/
def Effect (rows : List WalletRow) (gain : WalletDelta) (w : WalletDB → WalletDB) : Prop :=
  ∃ f, RowWise w f ∧ Only rows f ∧ ∀ id r, (f id r).wallet = r.wallet + gain id

section

variable {rows rows' : List WalletRow} {gain : WalletDelta} {w : WalletDB → WalletDB}
  {userId : Int} {g : User → User}

lemma effect_of_users_eq (h : ∀ db, (w db).store.db.users = db.store.db.users) : Effect rows 0 w :=
  ⟨_, rowWise_of_users_eq h, only_id, fun _ r => (add_zero r.wallet).symm⟩

lemma effect_onUser {d : ℤ × ℤ} (hg : ∀ r, (g r).wallet = r.wallet + d) :
    Effect [.row (.user userId)] (Pi.single userId d) (onUser userId g) := by
  refine ⟨_, rowWise_onUser userId g, only_updatedRow userId g, ?_⟩
  intro id r
  by_cases heq : id = userId
  · subst heq
    rw [updatedRow, if_pos rfl, Pi.single_eq_same]
    exact hg r
  · simp [updatedRow, heq]

lemma Effect.mono (h : Effect rows gain w) (hrows : rows ⊆ rows') : Effect rows' gain w := by
  obtain ⟨f, hrow, honly, hgain⟩ := h
  exact ⟨f, hrow, fun id hid => honly id fun hmem => hid (hrows hmem), hgain⟩

/-- An update of other columns. -/
lemma effect_onUser_zero (hg : ∀ r, (g r).wallet = r.wallet) :
    Effect [.row (.user userId)] 0 (onUser userId g) := by
  have h : Effect [.row (.user userId)] (Pi.single userId 0) (onUser userId g) :=
    effect_onUser fun r => by rw [hg r, add_zero]
  rwa [Pi.single_zero] at h

end

/-! ### Purchases -/

namespace PurchasePhase

variable {phase : PurchasePhase} {rows : List WalletRow}

def Moves (phase : PurchasePhase) (rows : List WalletRow) : PurchaseOutcome → Prop
  | .go w _     => Effect rows phase.added (onStore w)
  | .commit _ _ => False
  | .done w r   => r = .ok () ∧ Effect rows phase.added (onStore w)
  | .abort _    => True

/-- A statement that leaves the users. -/
lemma moves_go {w : RedeemDB → RedeemDB} {phase' : PurchasePhase} (hadded : phase.added = 0)
    (h : ∀ s, (w s).db.users = s.db.users) : phase.Moves rows (.go w phase') := by
  unfold Moves
  rw [hadded]
  exact effect_of_users_eq fun db => h db.store

lemma moves_done (hadded : phase.added = 0) : phase.Moves rows (.done id (.ok ())) := by
  refine ⟨rfl, ?_⟩
  rw [hadded]
  exact effect_of_users_eq fun _ => rfl

/-- What any statement of a purchase does to the wallets. -/
lemma PurchaseMove.moves {loc : Civil.Location} {view : RedeemDB} {o : PurchaseOutcome}
    (h : PurchaseMove loc view phase o) : phase.Moves ((phase.needs view).map .row) o := by
  cases h with
  | abort r => trivial
  | orderDone | redeemDone | tailDone | commit => exact moves_done rfl
  | balanceCharge p requiredQuota => exact effect_onUser (User.wallet_addQuota (-requiredQuota))
  | redeemQuota redemption userId => exact effect_onUser (User.wallet_addQuota redemption.quota)
  | writeGroup p now endUnix currentGroup group => exact effect_onUser_zero fun _ => rfl
  | upgradeRevert p source now target hneeds =>
    by_cases htarget : target = ""
    · apply moves_go rfl
      intro s
      simp [RedeemDB.onDB, revertWrite, htarget]
    · have hwrite : revertWrite source target = fun db => db.setUserGroup source.userId target := by
        funext db
        simp [revertWrite, htarget]
      rw [hwrite]
      exact (effect_onUser_zero (g := fun u => { u with group := target }) fun _ => rfl).mono
        (List.cons_subset.mpr ⟨List.mem_map_of_mem (hneeds htarget), List.nil_subset _⟩)
  | completeOrder p now o payload method =>
    apply moves_go rfl
    intro s
    obtain ⟨topUps, h⟩ := listTopUp_frame now o s.db
    simp [RedeemDB.onDB, h]
  | _ => exact moves_go rfl fun _ => rfl

end PurchasePhase

/-! ### What a call has added and what it has committed -/

def reported : Except WalletError WalletDelta → WalletDelta
  | .error _  => 0
  | .ok delta => delta

namespace WalletPhase

variable {userId : Int} {view : WalletDB} {phase : WalletPhase} {w : WalletDB → WalletDB}
  {ok : Prop} {next : WalletDelta}

/-- What the transaction has written and not committed yet. -/
def pending : WalletPhase → WalletDelta
  | .purchase _ added            => added
  | .checkinCommit c             => Pi.single c.userId (c.quotaAwarded, 0)
  | .transferCommit userId quota => Pi.single userId (quota, -quota)
  | _                            => 0

/-- What the call has committed in the transactions before. -/
def settled : WalletPhase → WalletDelta
  | .inviteRead _ granted => granted
  | .inviteSave _ granted => granted
  | _                     => 0

/-- The row that a transfer saves is the one it has locked. -/
def Holds (userId : Int) (locks : List WalletRow) (view : WalletDB) : WalletPhase → Prop
  | .transferSave read _ =>
    read.id = userId → .row (.user userId) ∈ locks ∧ view.findUser userId = some read
  | _ => True

/-- The wallet that the statement is about to write is the stored one, as far as it is taken from a
row that was read before. -/
def upToDate (userId : Int) (view : WalletDB) : WalletPhase → Bool
  | .inviteSave read _ =>
    read.id != userId || (view.findUser userId).all fun u => u.wallet == read.wallet
  | .updateWrite new _ =>
    new.id != userId || new.affQuota == 0 ||
      (view.findUser userId).all fun u => u.affQuota == new.affQuota
  | _ => true

/-- The write touches the rows that the statement locks, and moves the wallet of the user by what
the call accounts for. -/
def Books (userId : Int) (view : WalletDB) (phase : WalletPhase) (w : WalletDB → WalletDB)
    (next : WalletDelta) (ok : Prop) : Prop :=
  ∃ f, RowWise w f ∧ Only (phase.needs view) f ∧
    (ok → ∀ r, view.findUser userId = some r →
      (f userId r).wallet + (phase.settled userId + phase.pending userId) = r.wallet + next userId)

def Moves (userId : Int) (view : WalletDB) (phase : WalletPhase) : WalletOutcome → Prop
  | .go w phase'     =>
    phase.Books userId view w (phase'.settled + phase'.pending)
      (∃ locks, phase.Holds userId locks view) ∧
    phase'.settled = phase.settled ∧ phase'.Holds userId (phase.needs view) (w view)
  | .commit w phase' =>
    phase.Books userId view w phase'.settled (phase.upToDate userId view = true) ∧
    phase'.pending = 0 ∧ phase'.Holds userId [] (w view)
  | .done w r        =>
    phase.Books userId view w (reported r) (phase.upToDate userId view = true)
  | .abort r         => reported r = phase.settled

lemma books_of_effect (h : Effect (phase.needs view) gain w)
    (hnext : next = phase.settled + phase.pending + gain) : phase.Books userId view w next ok := by
  obtain ⟨f, hrow, honly, hgain⟩ := h
  refine ⟨f, hrow, honly, ?_⟩
  intro _ r _
  rw [hgain, hnext, Pi.add_apply, Pi.add_apply]
  abel

/-- A read. -/
lemma books_id (hnext : next = phase.settled + phase.pending) :
    phase.Books userId view id next ok :=
  books_of_effect (effect_of_users_eq fun _ => rfl) (by rw [hnext, add_zero])

/-- An update of a row that has no account to settle. -/
lemma books_onUser {id : Int} {g : User → User} (gain : WalletDelta)
    (hneeds : phase.needs view = [.row (.user id)])
    (hg : ok → id = userId → ∀ r, view.findUser userId = some r →
      (g r).wallet = r.wallet + gain userId)
    (hgain : userId ≠ id → gain userId = 0)
    (hnext : next = phase.settled + phase.pending + gain) :
    phase.Books userId view (onUser id g) next ok := by
  refine ⟨_, rowWise_onUser id g, hneeds ▸ only_updatedRow id g, ?_⟩
  intro hok r hr
  rw [hnext, Pi.add_apply, Pi.add_apply]
  by_cases heq : userId = id
  · subst heq
    have hwallet := hg hok rfl r hr
    rw [updatedRow, if_pos rfl]
    rw [show ({ g r with id := userId } : User).wallet = (g r).wallet from rfl, hwallet]
    abel
  · rw [updatedRow, if_neg heq, hgain heq]
    abel

section

variable (cfg : WalletConfig) (input : WalletInput) (id inviterId : Int)

lemma moves_execPurchase (p : PurchasePhase) (added : WalletDelta) :
    (purchase p added).Moves userId view (execPurchase cfg input view p added) := by
  unfold execPurchase
  have h : p.Moves ((p.needs view.store).map .row) (p.exec cfg.loc cfg.quotaPerUnit
      { now := input.now, random := input.text, nanos := input.nanos } view.store) :=
    (PurchasePhase.move_exec _).moves
  simp only
  split
  next w p' hexec =>
    rw [hexec] at h
    exact ⟨books_of_effect h (by simp [settled, pending]), rfl, trivial⟩
  next w p' hexec =>
    rw [hexec] at h
    exact h.elim
  next w r hexec =>
    rw [hexec] at h
    obtain ⟨rfl, h⟩ := h
    exact books_of_effect h (by simp [settled, pending, reported, Except.mapError, Except.map])
  next r hexec =>
    cases r <;> rfl

lemma moves_execCheckin (id : Int) :
    (checkin id).Moves userId view (execCheckin cfg input view id) := by
  unfold execCheckin
  split
  · rfl
  split
  · rfl
  · exact ⟨books_id rfl, rfl, trivial⟩

lemma moves_execCheckinInsert (c : Checkin) :
    (checkinInsert c).Moves userId view (execCheckinInsert cfg view c) := by
  simp only [execCheckinInsert]
  split_ifs
  · rfl
  all_goals exact ⟨books_of_effect (effect_of_users_eq fun _ => rfl) rfl, rfl, trivial⟩

lemma moves_execCheckinIncrease (c : Checkin) :
    (checkinIncrease c).Moves userId view (execCheckinIncrease c) := by
  unfold execCheckinIncrease
  split
  · exact books_of_effect (effect_of_users_eq fun _ => rfl) rfl
  · exact books_of_effect (effect_onUser (User.wallet_addQuota c.quotaAwarded))
      (by simp [settled, pending, reported])

/-- The row that a transfer reads is locked. -/
lemma moves_execTransfer (id quota : Int) :
    (transfer id quota).Moves userId view (execTransfer cfg view id quota) := by
  unfold execTransfer
  split
  · rfl
  split
  · rfl
  next user huser =>
    split
    · rfl
    · have hid : user.id = id := (Table.find_eq_some_iff.mp huser).2
      refine ⟨books_id rfl, rfl, ?_⟩
      rintro rfl
      subst hid
      exact ⟨List.mem_singleton.mpr rfl, huser⟩

/-- A transfer saves the row that it has read, with the amount moved. -/
lemma moves_transferSave (read : User) (quota : Int) :
    (transferSave read quota).Moves userId view
      (.go (onUser read.id fun _ => read.transferred quota)
        (.transferCommit read.id quota)) := by
  refine ⟨?_, rfl, trivial⟩
  refine books_onUser (Pi.single read.id (quota, -quota)) rfl ?_ ?_ ?_
  · rintro ⟨locks, hholds⟩ hid r hr
    obtain ⟨-, hread⟩ := hholds hid
    obtain rfl : read = r := Option.some.inj (hread.symm.trans hr)
    rw [← hid]
    simp [User.wallet, User.transferred, sub_eq_add_neg]
  · intro hne
    exact Pi.single_eq_of_ne hne _
  · simp [settled, pending]

lemma moves_afterUpdate (hsettled : phase.settled = 0) (hpending : phase.pending = 0) :
    phase.Moves userId view (afterUpdate cfg id inviterId) := by
  have hnext : (0 : WalletDelta) = phase.settled + phase.pending := by
    rw [hsettled, hpending, add_zero]
  unfold afterUpdate
  split_ifs
  · exact ⟨books_id hnext, rfl, trivial⟩
  · exact ⟨books_id hnext, rfl, trivial⟩
  · exact books_id hnext
  · exact books_id hnext

lemma moves_goOn (next : UpdateNext) {r : Except WalletError WalletDelta} (hr : reported r = 0)
    (hsettled : phase.settled = 0) (hpending : phase.pending = 0) :
    phase.Moves userId view (UpdateNext.goOn cfg next r) := by
  cases next with
  | stop => exact books_id (by rw [hr, hsettled, hpending, add_zero])
  | invite id inviterId => exact moves_afterUpdate cfg id inviterId hsettled hpending

lemma moves_execFinishInsert (id : Int) (username : String) (inviterId : Int) :
    (finishInsert id username inviterId).Moves userId view
      (execFinishInsert cfg input view id username inviterId) := by
  unfold execFinishInsert
  split
  · exact moves_afterUpdate cfg id inviterId rfl rfl
  split
  · exact ⟨books_id rfl, rfl, trivial⟩
  · exact moves_afterUpdate cfg id inviterId rfl rfl

/-- A form whose affiliate quota is not the stored one overwrites it. -/
lemma moves_updateWrite (new : User) (next : UpdateNext) :
    (updateWrite new next).Moves userId view
      (.commit (onUser new.id (User.updates new)) (.updateReload new.id next)) := by
  refine ⟨?_, rfl, trivial⟩
  refine books_onUser 0 rfl ?_ (fun _ => rfl) rfl
  intro hok hid r hr
  simp only [upToDate, hid, hr, Option.all_some, bne_self_eq_false, Bool.false_or, Bool.or_eq_true,
    beq_iff_eq] at hok
  rw [Pi.zero_apply, add_zero]
  simp only [User.wallet, User.updates]
  rcases hok with hzero | hsame
  · rw [if_pos hzero]
  · rw [← hsame, ite_self]

lemma moves_execInvitee :
    (invitee id inviterId).Moves userId view (execInvitee cfg id inviterId) := by
  have h : Effect ((invitee id inviterId).needs view)
      (Pi.single id (cfg.quotaForInvitee, 0))
      (onUser id (User.addQuota cfg.quotaForInvitee)) :=
    effect_onUser (User.wallet_addQuota cfg.quotaForInvitee)
  unfold execInvitee
  split_ifs
  · exact ⟨books_of_effect h (by simp [settled, pending]), rfl, trivial⟩
  · exact books_of_effect h (by simp [settled, pending, reported])

lemma moves_execInviteRead (inviterId : Int) (granted : WalletDelta) :
    (inviteRead inviterId granted).Moves userId view
      (execInviteRead view inviterId granted) := by
  have hnext : granted = granted + 0 := (add_zero granted).symm
  unfold execInviteRead
  split
  · exact books_id hnext
  split
  · exact books_id hnext
  · exact ⟨books_id hnext, rfl, trivial⟩

/-- A row that has changed since it was read is written back. -/
lemma moves_inviteSave (read : User) (granted : WalletDelta) :
    (inviteSave read granted).Moves userId view
      (.done (onUser read.id fun _ => read.invited cfg.quotaForInviter)
        (.ok (granted + Pi.single read.id (0, cfg.quotaForInviter)))) := by
  refine books_onUser (Pi.single read.id (0, cfg.quotaForInviter)) rfl ?_ ?_ ?_
  · intro hok hid r hr
    simp only [upToDate, hid, hr, Option.all_some, bne_self_eq_false, Bool.false_or,
      beq_iff_eq] at hok
    rw [← hid, hok]
    simp [User.wallet, User.invited]
  · intro hne
    exact Pi.single_eq_of_ne hne _
  · simp [settled, pending, reported]

lemma moves_exec : phase.Moves userId view (phase.exec cfg input view) := by
  cases phase with
  | increase id quota =>
    simp only [exec]
    split_ifs
    · rfl
    · exact books_of_effect (effect_onUser (User.wallet_addQuota quota))
        (by simp [settled, pending, reported])
  | decrease id quota =>
    simp only [exec]
    split_ifs
    · rfl
    · exact books_of_effect (effect_onUser (User.wallet_addQuota (-quota)))
        (by simp [settled, pending, reported])
  | purchase p added => exact moves_execPurchase cfg input p added
  | checkin id => exact moves_execCheckin cfg input id
  | checkinInsert c => exact moves_execCheckinInsert cfg c
  | checkinQuota c =>
    exact ⟨books_of_effect (effect_onUser (User.wallet_addQuota c.quotaAwarded))
      (by simp [settled, pending]), rfl, trivial⟩
  | checkinCommit c => exact books_id (zero_add _).symm
  | checkinIncrease c => exact moves_execCheckinIncrease c
  | transfer id quota => exact moves_execTransfer cfg id quota
  | transferSave read quota => exact moves_transferSave read quota
  | transferCommit id quota => exact books_id (zero_add _).symm
  | finishInsert id username inviterId =>
    exact moves_execFinishInsert cfg input id username inviterId
  | updateRead new next =>
    simp only [exec]
    split
    · exact moves_goOn cfg next rfl rfl rfl
    · exact ⟨books_id rfl, rfl, trivial⟩
  | updateWrite new next => exact moves_updateWrite new next
  | updateReload id next =>
    simp only [exec]
    split
    · exact moves_goOn cfg next rfl rfl rfl
    · exact moves_goOn cfg next rfl rfl rfl
  | invitee id inviterId => exact moves_execInvitee cfg id inviterId
  | inviteRead inviterId granted => exact moves_execInviteRead inviterId granted
  | inviteSave read granted => exact moves_inviteSave cfg read granted
  | editRead new updatePassword =>
    simp only [exec]
    split
    · rfl
    · exact ⟨books_id rfl, rfl, trivial⟩
  | editWrite new updatePassword =>
    exact ⟨books_of_effect (effect_onUser_zero fun _ => rfl) rfl, rfl, trivial⟩
  | editReload id =>
    simp only [exec]
    split
    · rfl
    · exact books_id rfl

lemma moves_of_exec (userId : Int) {input : WalletInput} {o : WalletOutcome}
    (h : (walletProgram cfg).exec phase input view = o) : phase.Moves userId view o := by
  rw [← h]
  exact moves_exec cfg input

end

end WalletPhase

/-! ### Transactions in progress -/

variable (cfg : WalletConfig)

abbrev WalletTx := Tx WalletDB WalletRow WalletPhase

/-- The transaction will change the rows it has locked, and the wallet of the user by what is
pending. -/
structure InOrder (userId : Int) (db : WalletDB) (tx : WalletTx) : Prop where
  write : ∃ f, RowWise tx.write f ∧ Only tx.locks f ∧ ∀ r, db.findUser userId = some r →
    (f userId r).wallet = r.wallet + tx.code.pending userId
  holds : tx.code.Holds userId tx.locks (tx.write db)

/-- What a commit of a transaction with these rows can do to the users. -/
def Changes (rows : List WalletRow) (db db' : WalletDB) : Prop :=
  ∃ f, Only rows f ∧ ∀ id, db'.findUser id = (db.findUser id).map (f id)

section

variable {userId : Int} {db : WalletDB} {tx : WalletTx} {w : WalletDB → WalletDB}
  {next : WalletDelta} {ok : Prop} {phase : WalletPhase} {rows : List WalletRow}

lemma inOrder_fresh (hpending : phase.pending = 0) (hholds : phase.Holds userId [] db) :
    InOrder userId db (.fresh phase) where
  write := by
    refine ⟨_, rowWise_id, only_id, ?_⟩
    intro r _
    simp [hpending]
  holds := hholds

lemma changes_of_books (h : InOrder userId db tx)
    (hbooks : tx.code.Books userId (tx.write db) w next ok) :
    Changes (tx.locks ++ tx.code.needs (tx.write db)) db (w (tx.write db)) := by
  obtain ⟨f, hrow, honly, -⟩ := h.write
  obtain ⟨f', hrow', honly', -⟩ := hbooks
  exact ⟨_, honly.comp honly', hrow.comp hrow' db⟩

lemma WalletPhase.Holds.mono (h : phase.Holds userId rows db) (hrows : rows ⊆ rows') :
    phase.Holds userId rows' db := by
  cases phase with
  | transferSave read quota =>
    intro hid
    exact ⟨hrows (h hid).1, (h hid).2⟩
  | _ => trivial

lemma InOrder.go (h : InOrder userId db tx)
    (hmoves : tx.code.Moves userId (tx.write db) (.go w phase)) :
    InOrder userId db ⟨phase, w ∘ tx.write, tx.locks ++ tx.code.needs (tx.write db)⟩ where
  write := by
    obtain ⟨f, hrow, honly, hwallet⟩ := h.write
    obtain ⟨⟨f', hrow', honly', hbooks⟩, hsettled, -⟩ := hmoves
    refine ⟨_, hrow.comp hrow', honly.comp honly', ?_⟩
    intro r hr
    have hview : (tx.write db).findUser userId = some (f userId r) := by
      rw [hrow db userId, hr, Option.map_some]
    have hnext := hbooks ⟨_, h.holds⟩ _ hview
    rw [hwallet r hr, Pi.add_apply, hsettled] at hnext
    apply add_right_cancel
    rw [hnext]
    abel
  holds := hmoves.2.2.mono (List.subset_append_right _ _)

/-- Commits of others leave the rows that the transaction has locked. -/
lemma InOrder.stable {db' : WalletDB} (h : InOrder userId db tx) (hchanges : Changes rows db db')
    (hfree : ∀ row ∈ rows, row ∉ tx.locks) : InOrder userId db' tx := by
  obtain ⟨g, honlyg, hdb'⟩ := hchanges
  have hlocked : ∀ id, .row (.user id) ∈ tx.locks → db'.findUser id = db.findUser id := by
    intro id hid
    have hg : g id = fun r => r := funext (honlyg id fun hmem => hfree _ hmem hid)
    rw [hdb' id, hg, Option.map_id']
  obtain ⟨f, hrow, honly, hwallet⟩ := h.write
  constructor
  · refine ⟨f, hrow, honly, ?_⟩
    intro r' hr'
    by_cases hid : WalletRow.row (.user userId) ∈ tx.locks
    · rw [hlocked userId hid] at hr'
      exact hwallet r' hr'
    · -- the row is not touched, so there is nothing pending for it
      rw [hdb' userId, Option.map_eq_some_iff] at hr'
      obtain ⟨r, hr, -⟩ := hr'
      have hzero := hwallet r hr
      rw [honly userId hid] at hzero ⊢
      rw [left_eq_add.mp hzero, add_zero]
  · have hholds := h.holds
    cases hcode : tx.code with
    | transferSave read quota =>
      rw [hcode] at hholds
      intro hid
      obtain ⟨hmem, hread⟩ := hholds hid
      refine ⟨hmem, ?_⟩
      rw [hrow db', hlocked userId hmem, ← hrow db]
      exact hread
    | _ => trivial

lemma wallet_commit (h : InOrder userId db tx)
    (hbooks : tx.code.Books userId (tx.write db) w next ok) (hok : ok) (huser : db.HasUser userId) :
    (w (tx.write db)).HasUser userId ∧
      (w (tx.write db)).wallet userId =
        db.wallet userId - tx.code.settled userId + next userId := by
  obtain ⟨r, hr⟩ := Option.isSome_iff_exists.mp huser
  obtain ⟨f, hrow, -, hwallet⟩ := h.write
  obtain ⟨f', hrow', -, hbooks⟩ := hbooks
  have hview : (tx.write db).findUser userId = some (f userId r) := by
    rw [hrow db userId, hr, Option.map_some]
  have hafter : (w (tx.write db)).findUser userId = some (f' userId (f userId r)) := by
    rw [hrow' _ userId, hview, Option.map_some]
  refine ⟨by rw [HasUser, hafter, Option.isSome_some], ?_⟩
  have hnext := hbooks hok _ hview
  rw [hwallet r hr] at hnext
  simp only [wallet, hafter, hr, Option.map_some, Option.getD_some]
  apply add_right_cancel
  rw [hnext]
  abel

end

/-- Transactions rely on their locks, and commit only to rows that they hold. -/
theorem rely_walletProgram (userId : Int) : Rely (walletProgram cfg) (InOrder userId) Changes where
  begin := by
    intro db request
    apply inOrder_fresh
    · cases request <;> rfl
    · cases request <;> trivial
  go := by
    intro db tx input w phase h hexec
    exact h.go (moves_of_exec cfg userId hexec)
  commit := by
    intro db tx input w phase h hexec
    obtain ⟨hbooks, hpending, hholds⟩ := moves_of_exec cfg userId hexec
    exact ⟨inOrder_fresh hpending hholds, changes_of_books h hbooks⟩
  done := by
    intro db tx input w r h hexec
    have hbooks : tx.code.Moves userId (tx.write db) (.done w r) :=
      moves_of_exec cfg userId hexec
    exact changes_of_books h hbooks
  stable := by
    intro rows db db' tx h hchanges hfree
    exact h.stable hchanges hfree

/-! ### Runs -/

abbrev WalletState := State WalletDB WalletRow WalletPhase (Except WalletError WalletDelta)

abbrev WalletEvent := Event WalletRequest WalletInput

/-- What a call has committed to the wallet of the user so far, or has reported. -/
def share (userId : Int) :
    Call WalletDB WalletRow WalletPhase (Except WalletError WalletDelta) → ℤ × ℤ
  | .inProgress tx => tx.code.settled userId
  | .returned r    => reported r userId

namespace WalletState

variable {userId : Int} {base : ℤ × ℤ} {s : WalletState}

/-- The statement of the step, if it is not kept waiting, writes no old wallet of the user back. -/
def keeps (userId : Int) (s : WalletState) : WalletEvent → Bool
  | .begin _  => true
  | .next i _ =>
    match s.calls[i]? with
    | some (.inProgress tx) =>
      s.blocked i (tx.code.needs (tx.write s.db)) || tx.code.upToDate userId (tx.write s.db)
    | _ => true

/-- The wallet of the user is what it was plus what the calls have committed. -/
structure Balanced (userId : Int) (base : ℤ × ℤ) (s : WalletState) : Prop where
  exclusive : s.Exclusive
  each : s.Each (InOrder userId)
  hasUser : s.db.HasUser userId
  balance : s.db.wallet userId = base + inFlight (share userId) s.calls

/-- The sum after a call has moved. -/
lemma balance_setCall (db : WalletDB) {i : ℕ} {tx : WalletTx}
    (h : s.db.wallet userId = base + inFlight (share userId) s.calls)
    (htx : s.calls[i]? = some (.inProgress tx)) {c} (hc : db.wallet userId =
      s.db.wallet userId - tx.code.settled userId + share userId c) :
    db.wallet userId = base + inFlight (share userId) (s.calls.set i c) := by
  rw [inFlight_set (share userId) htx, hc, h]
  simp only [share]
  abel

lemma balanced_step (s : WalletState) (e : WalletEvent) (h : Balanced userId base s)
    (hkeeps : keeps userId s e = true) : Balanced userId base (step (walletProgram cfg) s e) := by
  obtain ⟨hexclusive, heach⟩ := (rely_walletProgram cfg userId).step s e ⟨h.exclusive, h.each⟩
  suffices hdb : (step (walletProgram cfg) s e).db.HasUser userId ∧
      (step (walletProgram cfg) s e).db.wallet userId =
        base + inFlight (share userId) (step (walletProgram cfg) s e).calls from
    ⟨hexclusive, heach, hdb.1, hdb.2⟩
  cases e with
  | begin request =>
    have hstart : (WalletRequest.start cfg request).settled = 0 := by cases request <;> rfl
    refine ⟨h.hasUser, ?_⟩
    simpa [step, share, walletProgram, hstart] using h.balance
  | next i input =>
    rcases step_next_cases (walletProgram cfg) s i input with
      hsame | ⟨tx, htx, hfree, hnext⟩
    · rw [hsame]
      exact ⟨h.hasUser, h.balance⟩
    have hok : tx.code.upToDate userId (tx.write s.db) = true := by
      simpa [keeps, htx, show s.blocked i (tx.code.needs (tx.write s.db)) = false from hfree]
        using hkeeps
    have horder := h.each i tx htx
    rw [hnext]
    cases hexec : (walletProgram cfg).exec tx.code input (tx.write s.db) with
    | go w phase =>
      obtain ⟨-, hsettled, -⟩ := moves_of_exec cfg userId hexec
      refine ⟨h.hasUser, balance_setCall s.db h.balance htx ?_⟩
      simp [share, hsettled]
    | commit w phase =>
      obtain ⟨hbooks, -, -⟩ := moves_of_exec cfg userId hexec
      obtain ⟨huser, hwallet⟩ := wallet_commit horder hbooks hok h.hasUser
      exact ⟨huser, balance_setCall _ h.balance htx hwallet⟩
    | done w r =>
      have hbooks : tx.code.Moves userId (tx.write s.db) (.done w r) :=
        moves_of_exec cfg userId hexec
      obtain ⟨huser, hwallet⟩ := wallet_commit horder hbooks hok h.hasUser
      exact ⟨huser, balance_setCall _ h.balance htx hwallet⟩
    | abort r =>
      have hreported : reported r = tx.code.settled :=
        moves_of_exec cfg userId hexec
      refine ⟨h.hasUser, balance_setCall s.db h.balance htx ?_⟩
      simp [share, hreported]

/-- In a run that writes no old wallet back, whenever all calls have returned the wallet of the user
is what it was at first plus what the calls have reported. -/
theorem wallet_eq_add_reported (cfg : WalletConfig) (db : WalletDB) (userId : Int)
    (huser : db.HasUser userId) (es : List WalletEvent)
    (hes : Along (step (walletProgram cfg)) (fun s e => keeps userId s e = true) ⟨db, []⟩ es) :
    ∀ t ∈ states (step (walletProgram cfg)) ⟨db, []⟩ es, t.finished = true →
      t.db.wallet userId = db.wallet userId + (t.results.map fun r => reported r userId).sum := by
  intro t ht hfinished
  have hstart : Balanced userId (db.wallet userId) ⟨db, []⟩ :=
    ⟨by intro i j tx tx' _ hi; simp at hi, by intro i tx hi; simp at hi, huser, by simp⟩
  have hbalanced := hes.states_invariant (balanced_step cfg) hstart t ht
  rw [hbalanced.balance, inFlight, ← map_results_of_finished hfinished]
  rfl

def rewards : WalletConfig where
  loc := .utc
  quotaPerUnit := 10
  quotaForInvitee := 5
  quotaForInviter := 7
  paymentComplianceConfirmed := true
  checkinEnabled := true
  checkinMinQuota := 3
  checkinMaxQuota := 3
  password2Hash := id

/-- A user with an affiliate quota and a code, and one who has just been created. -/
def inviterAndInvitee : WalletDB where
  store :=
    { db :=
        { DB.empty with
          users := (Table.empty.insert
              { id := 0, group := "default", quota := 100, username := "a", affQuota := 50 }).insert
            { id := 0, group := "default", quota := 0, username := "b" } }
      redemptions := Table.empty.insert { id := 0, key := "code", quota := 30 } }
  checkins := Keyed.empty

/-- A transfer makes an increase wait, and a code is redeemed before the inviter is rewarded. -/
def kept : List WalletEvent :=
  [.begin (.transfer 1 10), .begin (.increase 1 20), .begin (.finishInsert 2 "b" 1),
    .begin (.purchase (.redemption "code" 1)), .begin (.checkin 1)] ++
  [0, 1, 0, 2, 3, 0, 1, 2, 2, 2, 3, 3, 3, 3, 4, 4, 4, 4, 2, 2, 2].map fun i => .next i {}

theorem wallet_eq_add_reported_kept :
    (run (step (walletProgram rewards)) ⟨inviterAndInvitee, []⟩ kept).db.wallet 1 =
        inviterAndInvitee.wallet 1 +
          ((run (step (walletProgram rewards)) ⟨inviterAndInvitee, []⟩ kept).results.map
            fun r => reported r 1).sum ∧
      (run (step (walletProgram rewards)) ⟨inviterAndInvitee, []⟩ kept).db.wallet 1 = (163, 47) :=
  ⟨wallet_eq_add_reported rewards inviterAndInvitee 1 (by decide +kernel) kept (by decide +kernel)
    _ (run_mem_states _ _ _) (by decide +kernel), by decide +kernel⟩

/-- The quota is increased after the row of the inviter is read and before it is saved. -/
def overwritten : List WalletEvent :=
  [.begin (.finishInsert 2 "b" 1), .begin (.increase 1 20)] ++
  [0, 0, 0, 0, 0, 0, 1, 0].map fun i => .next i {}

/-- Both calls succeed and the increase is gone. -/
theorem wallet_ne_add_reported_overwritten :
    (run (step (walletProgram rewards)) ⟨inviterAndInvitee, []⟩ overwritten).finished = true ∧
      (run (step (walletProgram rewards)) ⟨inviterAndInvitee, []⟩ overwritten).db.wallet 1 =
        (100, 57) ∧
      inviterAndInvitee.wallet 1 +
          ((run (step (walletProgram rewards)) ⟨inviterAndInvitee, []⟩
            overwritten).results.map fun r => reported r 1).sum =
        (120, 57) := by
  decide +kernel

end WalletState

end XinghaiApi
