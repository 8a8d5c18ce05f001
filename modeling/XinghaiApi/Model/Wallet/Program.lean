import XinghaiApi.Lib.Keyed
import XinghaiApi.Model.Subscription.PurchaseLimit

/-!
# Calls that move the wallet of a user

A user has a quota to spend and an affiliate quota that they earn by inviting others and can move to
their quota. Many calls write these two columns: some by a difference, some by saving a whole row
that they have read before, some by writing the fields of a form. Here each of them is a sequence of
statements, in a transaction where the source opens one and each in its own where it does not.
-/

namespace XinghaiApi

open Civil Text Transaction

/-! ### Rows -/

structure Checkin where
  userId : Int
  checkinDate : String
  quotaAwarded : Int
  createdAt : Int
deriving DecidableEq

/-- The columns of the unique index. -/
def Checkin.day (c : Checkin) : Int × String := (c.userId, c.checkinDate)

structure WalletDB where
  store : RedeemDB
  checkins : Keyed Checkin.day

open WalletDB

/-- A row that is locked, or a key that a unique index keeps others from inserting. -/
inductive WalletRow where
  | row (r : PurchaseRow)
  | checkin (userId : Int) (date : String)
deriving DecidableEq

namespace WalletDB

def onStore (f : RedeemDB → RedeemDB) (db : WalletDB) : WalletDB := { db with store := f db.store }

def findUser (db : WalletDB) (id : Int) : Option User := db.store.db.users.find id

/-- `UPDATE users SET ... WHERE id = id`. -/
def onUser (id : Int) (f : User → User) : WalletDB → WalletDB :=
  onStore (RedeemDB.onDB fun db => { db with users := db.users.modify id f })

end WalletDB

namespace User

def addQuota (quota : Int) (u : User) : User := { u with quota := u.quota + quota }

/-- What `TransferAffQuotaToQuota` saves. -/
def transferred (quota : Int) (u : User) : User :=
  { u with affQuota := u.affQuota - quota, quota := u.quota + quota }

/-- What `inviteUser` saves. -/
def invited (reward : Int) (u : User) : User :=
  { u with
    affCount := u.affCount + 1
    affQuota := u.affQuota + reward
    affHistoryQuota := u.affHistoryQuota + reward }

/-- `Updates` of a struct without `quota`, `used_quota` and `request_count`: fields that are zero
keep the stored column. -/
def updates (new u : User) : User :=
  { u with
    group := if new.group = "" then u.group else new.group
    username := if new.username = "" then u.username else new.username
    password := if new.password = "" then u.password else new.password
    displayName := if new.displayName = "" then u.displayName else new.displayName
    remark := if new.remark = "" then u.remark else new.remark
    affCount := if new.affCount = 0 then u.affCount else new.affCount
    affQuota := if new.affQuota = 0 then u.affQuota else new.affQuota
    affHistoryQuota := if new.affHistoryQuota = 0 then u.affHistoryQuota else new.affHistoryQuota }

/-- `Updates` of the columns of the administrator's form. -/
def edits (updatePassword : Bool) (new u : User) : User :=
  { u with
    username := new.username
    displayName := new.displayName
    group := new.group
    remark := new.remark
    password := if updatePassword then new.password else u.password }

end User

/-! ### Calls -/

/-- What calls add to the quota and to the affiliate quota of each user. -/
abbrev WalletDelta := Int → ℤ × ℤ

structure WalletConfig where
  loc : Location
  quotaPerUnit : ℚ
  quotaForInvitee : Int
  quotaForInviter : Int
  paymentComplianceConfirmed : Bool
  checkinEnabled : Bool
  checkinMinQuota : Int
  checkinMaxQuota : Int
  /-- a check-in is then made without a transaction -/
  usingSQLite : Bool := false
  password2Hash : String → String

inductive WalletError where
  | negativeQuota
  | purchase (e : PurchaseError)
  | checkinDisabled
  | alreadyCheckedIn
  | checkinFailed
  | checkinQuotaFailed
  | transferTooSmall
  | affQuotaInsufficient
  | idEmpty
  | recordNotFound
deriving DecidableEq

/-- The texts of the errors. The amount that the source formats for display is written as a
number. -/
def WalletError.text (quotaPerUnit : Int) : WalletError → String
  | .negativeQuota        => "quota 不能为负数！"
  | .purchase (.model e)  => e.text
  | .purchase (.redeem e) => e.text
  | .checkinDisabled      => "签到功能未启用"
  | .alreadyCheckedIn     => "今日已签到"
  | .checkinFailed        => "签到失败，请稍后重试"
  | .checkinQuotaFailed   => "签到失败：更新额度出错"
  | .transferTooSmall     => s!"转移额度最小为{quotaPerUnit}！"
  | .affQuotaInsufficient => "邀请额度不足！"
  | .idEmpty              => "id 为空！"
  | .recordNotFound       => "record not found"

inductive WalletRequest where
  | increase (id quota : Int)
  | decrease (id quota : Int)
  | purchase (r : PurchaseRequest)
  | checkin (userId : Int)
  | transfer (userId quota : Int)
  | finishInsert (userId : Int) (username : String) (inviterId : Int)
  | update (user : User) (updatePassword : Bool)
  | edit (user : User) (updatePassword : Bool)
deriving DecidableEq

/-- What the environment decides at a statement. -/
structure WalletInput where
  now : Int := 0
  today : String := ""
  random : ℕ := 0
  text : String := ""
  nanos : Int := 0
  /-- the role of a new user has a default sidebar -/
  hasSidebar : Bool := true
deriving DecidableEq

/-- What comes after `Update`: the rest of `finishInsert` for a user and an inviter, or nothing. -/
inductive UpdateNext where
  | stop
  | invite (userId inviterId : Int)
deriving DecidableEq

/-- The statement that a call makes next. -/
inductive WalletPhase where
  | increase (id quota : Int)
  | decrease (id quota : Int)
  /-- with what the transaction has added so far -/
  | purchase (phase : PurchasePhase) (added : WalletDelta)
  | checkin (userId : Int)
  | checkinInsert (c : Checkin)
  | checkinQuota (c : Checkin)
  | checkinCommit (c : Checkin)
  /-- without a transaction: `IncreaseUserQuota`, or the deletion of the row where that refuses -/
  | checkinIncrease (c : Checkin)
  | transfer (userId quota : Int)
  | transferSave (read : User) (quota : Int)
  | transferCommit (userId quota : Int)
  | finishInsert (userId : Int) (username : String) (inviterId : Int)
  | updateRead (new : User) (next : UpdateNext)
  | updateWrite (new : User) (next : UpdateNext)
  | updateReload (id : Int) (next : UpdateNext)
  | invitee (userId inviterId : Int)
  /-- with what the call has granted so far -/
  | inviteRead (inviterId : Int) (granted : WalletDelta)
  | inviteSave (read : User) (granted : WalletDelta)
  | editRead (new : User) (updatePassword : Bool)
  | editWrite (new : User) (updatePassword : Bool)
  | editReload (id : Int)

abbrev WalletOutcome := Outcome WalletDB WalletPhase (Except WalletError WalletDelta)

def PurchasePhase.added : PurchasePhase → WalletDelta
  | .balanceCharge p requiredQuota => Pi.single p.userId (-requiredQuota, 0)
  | .redeemQuota redemption userId => Pi.single userId (redemption.quota, 0)
  | _                              => 0

namespace WalletPhase

variable (cfg : WalletConfig)

/-- The rows that the next statement locks. -/
def needs (view : WalletDB) : WalletPhase → List WalletRow
  | .increase id _      => [.row (.user id)]
  | .decrease id _      => [.row (.user id)]
  | .purchase phase _   => (phase.needs view.store).map .row
  | .checkinInsert c    => [.checkin c.userId c.checkinDate]
  | .checkinQuota c     => [.row (.user c.userId)]
  | .checkinIncrease c  => [.row (.user c.userId)]
  | .transfer userId _  => [.row (.user userId)]
  | .transferSave r _   => [.row (.user r.id)]
  | .updateWrite new _  => [.row (.user new.id)]
  | .invitee userId _   => [.row (.user userId)]
  | .inviteSave r _     => [.row (.user r.id)]
  | .editWrite new _    => [.row (.user new.id)]
  | _                   => []

def execPurchase (input : WalletInput) (view : WalletDB) (phase : PurchasePhase)
    (added : WalletDelta) : WalletOutcome :=
  let input' : PurchaseInput := { now := input.now, random := input.text, nanos := input.nanos }
  match phase.exec cfg.loc cfg.quotaPerUnit input' view.store with
  | .go w phase'     => .go (onStore w) (.purchase phase' (added + phase.added))
  | .commit w phase' => .commit (onStore w) (.purchase phase' (added + phase.added))
  | .done w r        =>
    .done (onStore w) ((r.mapError .purchase).map fun _ => added + phase.added)
  | .abort r         => .abort ((r.mapError .purchase).map fun _ => 0)

def quotaAwarded (random : ℕ) : Int :=
  if cfg.checkinMinQuota < cfg.checkinMaxQuota then
    cfg.checkinMinQuota + random % (cfg.checkinMaxQuota - cfg.checkinMinQuota + 1)
  else cfg.checkinMinQuota

/-- `HasCheckedInToday` and what `UserCheckin` makes of it. -/
def execCheckin (input : WalletInput) (view : WalletDB) (userId : Int) : WalletOutcome :=
  if !cfg.checkinEnabled then .abort (.error .checkinDisabled)
  else if (view.checkins.find (userId, input.today)).isSome then .abort (.error .alreadyCheckedIn)
  else .go id (.checkinInsert ⟨userId, input.today, quotaAwarded cfg input.random, input.now⟩)

def execCheckinInsert (view : WalletDB) (c : Checkin) : WalletOutcome :=
  let insert : WalletDB → WalletDB := fun db => { db with checkins := db.checkins.insertNew c }
  if (view.checkins.find c.day).isSome then .abort (.error .checkinFailed)
  else if cfg.usingSQLite then .commit insert (.checkinIncrease c)
  else .go insert (.checkinQuota c)

def execCheckinIncrease (c : Checkin) : WalletOutcome :=
  if c.quotaAwarded < 0 then
    .done (fun db => { db with checkins := db.checkins.deleteWhere (·.day = c.day) })
      (.error .checkinQuotaFailed)
  else
    .done (onUser c.userId (User.addQuota c.quotaAwarded))
      (.ok (Pi.single c.userId (c.quotaAwarded, 0)))

/-- The locked read of `TransferAffQuotaToQuota`. -/
def execTransfer (view : WalletDB) (userId quota : Int) : WalletOutcome :=
  if (quota : ℚ) < cfg.quotaPerUnit then .abort (.error .transferTooSmall)
  else
    match view.findUser userId with
    | none      => .abort (.error .recordNotFound)
    | some user =>
      if user.affQuota < quota then .abort (.error .affQuotaInsufficient)
      else .go id (.transferSave user quota)

/-- The rest of `finishInsert`, from the reward of the new user on. -/
def afterUpdate (userId inviterId : Int) : WalletOutcome :=
  if inviterId ≠ 0 ∧ cfg.paymentComplianceConfirmed then
    if 0 < cfg.quotaForInvitee then .commit id (.invitee userId inviterId)
    else if 0 < cfg.quotaForInviter then .commit id (.inviteRead inviterId 0)
    else .done id (.ok 0)
  else .done id (.ok 0)

/-- Go on after `Update`. In `finishInsert` its error is dropped. -/
def UpdateNext.goOn (next : UpdateNext) (r : Except WalletError WalletDelta) : WalletOutcome :=
  match next with
  | .stop                    => .done id r
  | .invite userId inviterId => afterUpdate cfg userId inviterId

/-- The first read of `finishInsert`. -/
def execFinishInsert (input : WalletInput) (view : WalletDB) (userId : Int) (username : String)
    (inviterId : Int) : WalletOutcome :=
  match view.store.db.users.findBy (·.username == username) with
  | none             => afterUpdate cfg userId inviterId
  | some createdUser =>
    if input.hasSidebar then .commit id (.updateRead createdUser (.invite userId inviterId))
    else afterUpdate cfg userId inviterId

def execInvitee (userId inviterId : Int) : WalletOutcome :=
  let reward : WalletDelta := Pi.single userId (cfg.quotaForInvitee, 0)
  let write := onUser userId (User.addQuota cfg.quotaForInvitee)
  if 0 < cfg.quotaForInviter then .commit write (.inviteRead inviterId reward)
  else .done write (.ok reward)

/-- `GetUserById` in `inviteUser`. -/
def execInviteRead (view : WalletDB) (inviterId : Int) (granted : WalletDelta) : WalletOutcome :=
  if inviterId = 0 then .done id (.ok granted)
  else
    match view.findUser inviterId with
    | none      => .done id (.ok granted)
    | some user => .commit id (.inviteSave user granted)

/-- The next statement of a call. -/
def exec (phase : WalletPhase) (input : WalletInput) (view : WalletDB) : WalletOutcome :=
  match phase with
  | .increase userId quota =>
    if quota < 0 then .abort (.error .negativeQuota)
    else .done (onUser userId (User.addQuota quota)) (.ok (Pi.single userId (quota, 0)))
  | .decrease userId quota =>
    if quota < 0 then .abort (.error .negativeQuota)
    else
      .done (onUser userId (User.addQuota (-quota))) (.ok (Pi.single userId (-quota, 0)))
  | .purchase phase added => execPurchase cfg input view phase added
  | .checkin userId => execCheckin cfg input view userId
  | .checkinInsert c => execCheckinInsert cfg view c
  | .checkinQuota c =>
    .go (onUser c.userId (User.addQuota c.quotaAwarded)) (.checkinCommit c)
  | .checkinCommit c => .done id (.ok (Pi.single c.userId (c.quotaAwarded, 0)))
  | .checkinIncrease c => execCheckinIncrease c
  | .transfer userId quota => execTransfer cfg view userId quota
  | .transferSave read quota =>
    .go (onUser read.id fun _ => read.transferred quota) (.transferCommit read.id quota)
  | .transferCommit userId quota => .done id (.ok (Pi.single userId (quota, -quota)))
  | .finishInsert userId username inviterId =>
    execFinishInsert cfg input view userId username inviterId
  | .updateRead new next =>
    match view.findUser new.id with
    | none   => UpdateNext.goOn cfg next (.error .recordNotFound)
    | some _ => .commit id (.updateWrite new next)
  | .updateWrite new next =>
    .commit (onUser new.id (User.updates new)) (.updateReload new.id next)
  | .updateReload userId next =>
    match view.findUser userId with
    | none   => UpdateNext.goOn cfg next (.error .recordNotFound)
    | some _ => UpdateNext.goOn cfg next (.ok 0)
  | .invitee userId inviterId => execInvitee cfg userId inviterId
  | .inviteRead inviterId granted => execInviteRead view inviterId granted
  | .inviteSave read granted =>
    .done (onUser read.id fun _ => read.invited cfg.quotaForInviter)
      (.ok (granted + Pi.single read.id (0, cfg.quotaForInviter)))
  | .editRead new updatePassword =>
    match view.findUser new.id with
    | none   => .abort (.error .recordNotFound)
    | some _ => .commit id (.editWrite new updatePassword)
  | .editWrite new updatePassword =>
    .commit (onUser new.id (User.edits updatePassword new)) (.editReload new.id)
  | .editReload userId =>
    match view.findUser userId with
    | none   => .abort (.error .recordNotFound)
    | some _ => .done id (.ok 0)

end WalletPhase

def WalletRequest.start (cfg : WalletConfig) : WalletRequest → WalletPhase
  | .increase id quota                      => .increase id quota
  | .decrease id quota                      => .decrease id quota
  | .purchase r                             => .purchase r.start 0
  | .checkin userId                         => .checkin userId
  | .transfer userId quota                  => .transfer userId quota
  | .finishInsert userId username inviterId => .finishInsert userId username inviterId
  | .update user updatePassword             =>
    let password := if updatePassword then cfg.password2Hash user.password else user.password
    .updateRead { user with password := password } .stop
  | .edit user updatePassword               =>
    let password := if updatePassword then cfg.password2Hash user.password else user.password
    .editRead { user with password := password } updatePassword

def walletProgram (cfg : WalletConfig) :
    Program WalletDB WalletRow WalletPhase WalletRequest WalletInput
      (Except WalletError WalletDelta) where
  start := WalletRequest.start cfg
  needs phase view := phase.needs view
  exec := WalletPhase.exec cfg

end XinghaiApi
