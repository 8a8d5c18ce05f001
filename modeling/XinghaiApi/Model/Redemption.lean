import XinghaiApi.Lib.Run
import XinghaiApi.Model.Balance
import XinghaiApi.Model.Subscription.Lifecycle

/-!
# Redemption codes

A code is worth quota, a subscription or both. It is redeemed in one transaction, which marks the
code as used and then gives its value to the user. A transaction may fail at any statement, and is
then rolled back. Transactions are serializable, so calls in progress at the same time act as if
they came one after the other. Whether the update of the user has found a row is not looked at: the
caller may be an account that was deleted while its session lives on.
-/

namespace XinghaiApi

open Civil Machine Text Table

inductive RedemptionCodeStatus where
  | enabled
  | disabled
  | used
deriving DecidableEq

structure Redemption where
  id : Int
  key : String
  status : RedemptionCodeStatus := .enabled
  quota : Int := 100
  subscriptionPlanId : Int := 0
  redeemedTime : Int := 0
  usedUserId : Int := 0
  expiredTime : Int := 0
deriving DecidableEq

instance : Row Redemption where
  key r := r.id
  withKey k r := { r with id := k }
  key_withKey _ _ := rfl
  withKey_key _ := rfl

/-- The main database with its redemption codes. -/
structure RedeemDB where
  db : DB
  redemptions : Table Redemption

/-! ### Redeeming a code -/

/-- What a redemption can fail with. -/
inductive RedeemError where
  | keyEmpty
  | userIdInvalid
  | codeInvalid
  | codeUsed
  | codeExpired
  | codeQuotaInvalid
  /-- an error of the plan, of the subscription or of the database -/
  | model (e : Error)
deriving DecidableEq

def RedeemError.text : RedeemError → String
  | .keyEmpty         => "未提供兑换码"
  | .userIdInvalid    => "无效的 user id"
  | .codeInvalid      => "无效的兑换码"
  | .codeUsed         => "该兑换码已被使用"
  | .codeExpired      => "该兑换码已过期"
  | .codeQuotaInvalid => "兑换码额度无效"
  | .model e          => e.text

/-- What the caller sees: errors of the transaction go to the log only. -/
def RedeemError.reported : RedeemError → String
  | .keyEmpty      => RedeemError.keyEmpty.text
  | .userIdInvalid => RedeemError.userIdInvalid.text
  | _              => "redeem.failed"

/-- The statements of the transaction, at each of which the database may fail. -/
inductive RedeemStatement where
  | readCode
  | readPlan
  | markUsed
  | addQuota
  | rereadPlan
  | createSubscription
  | commit
deriving DecidableEq

/-- The readings of the clock in one redemption, in the order they are made. -/
structure RedeemClock where
  now : Int
  redeemed : Int
  created : Int
deriving DecidableEq

structure RedeemCall where
  key : String
  userId : Int
  clock : RedeemClock
  fails : Option RedeemStatement := none
deriving DecidableEq

def Redemption.usedBy (call : RedeemCall) (redemption : Redemption) : Redemption :=
  { redemption with
    status := .used
    redeemedTime := call.clock.redeemed
    usedUserId := call.userId }

/-- The row of the code, while it is enabled. -/
def Redemption.isOpen (redemption r : Redemption) : Bool :=
  r.id = redemption.id ∧ r.status = .enabled

namespace RedeemDB

def findCode (s : RedeemDB) (key : String) : Option Redemption :=
  s.redemptions.findBy (·.key == key)

section

variable (call : RedeemCall)

/-- The code that the transaction has locked and checked. -/
def readCode (s : RedeemDB) : Except RedeemError Redemption :=
  if call.fails = some .readCode then .error .codeInvalid
  else
    match s.findCode call.key with
    | none            => .error .codeInvalid
    | some redemption =>
      if redemption.status ≠ .enabled then .error .codeUsed
      else if redemption.expiredTime ≠ 0 ∧ redemption.expiredTime < call.clock.now then
        .error .codeExpired
      else if redemption.quota < 0 then .error .codeQuotaInvalid
      else .ok redemption

section

variable (redemption : Redemption) (s : RedeemDB)

/-- The plan of a code has to be enabled. -/
def checkPlan : Except RedeemError Unit :=
  if redemption.subscriptionPlanId ≤ 0 then .ok ()
  else if call.fails = some .readPlan then .error (.model .database)
  else
    match getSubscriptionPlanById s.db redemption.subscriptionPlanId with
    | .error e => .error (.model e)
    | .ok plan => if plan.enabled then .ok () else .error (.model .planDisabled)

/-- Compare and swap on the status: of two redemptions of one code the second finds it used. -/
def markUsed : Except RedeemError RedeemDB :=
  if call.fails = some .markUsed then .error (.model .database)
  else if s.redemptions.rows.any redemption.isOpen then
    .ok { s with
      redemptions := s.redemptions.modifyWhere redemption.isOpen (Redemption.usedBy call) }
  else .error .codeUsed

def addQuota : Except RedeemError RedeemDB :=
  if redemption.quota ≤ 0 then .ok s
  else if call.fails = some .addQuota then .error (.model .database)
  else .ok { s with db := s.db.addUserQuota call.userId redemption.quota }

end

end

def addSubscription (loc : Location) (call : RedeemCall) (redemption : Redemption) (s : RedeemDB) :
    Except RedeemError RedeemDB :=
  if redemption.subscriptionPlanId ≤ 0 then .ok s
  else if call.fails = some .rereadPlan then .error (.model .database)
  else
    match getSubscriptionPlanById s.db redemption.subscriptionPlanId with
    | .error e => .error (.model e)
    | .ok plan =>
      if call.fails = some .createSubscription then .error (.model .database)
      else
        match createUserSubscriptionFromPlan loc call.clock.created call.userId plan "redemption"
          s.db with
        | .error e    => .error (.model e)
        | .ok (db, _) => .ok { s with db := db }

/-- `Redeem`, with the quota it returns. -/
def redeem (loc : Location) (call : RedeemCall) (s : RedeemDB) :
    Except RedeemError (RedeemDB × Int) :=
  if call.key = "" then .error .keyEmpty
  else if call.userId = 0 then .error .userIdInvalid
  else do
    let redemption ← s.readCode call
    s.checkPlan call redemption
    let s₁ ← s.markUsed call redemption
    let s₂ ← s₁.addQuota call redemption
    let s₃ ← s₂.addSubscription loc call redemption
    if call.fails = some .commit then .error (.model .database) else .ok (s₃, redemption.quota)

/-- A call commits as a whole or leaves the database as it was. -/
def step (loc : Location) (s : RedeemDB) (call : RedeemCall) : RedeemDB :=
  match s.redeem loc call with
  | .error _    => s
  | .ok (s', _) => s'

/-! ### What a redemption does -/

section

variable {loc : Location} {call : RedeemCall} {redemption : Redemption} {s s' : RedeemDB}

lemma redeem_eq_ok {quota : Int} (h : s.redeem loc call = .ok (s', quota)) :
    ∃ redemption s₁ s₂, s.readCode call = .ok redemption ∧ s.markUsed call redemption = .ok s₁ ∧
      s₁.addQuota call redemption = .ok s₂ ∧ s₂.addSubscription loc call redemption = .ok s' ∧
      quota = redemption.quota := by
  unfold redeem at h
  split at h
  · cases h
  split at h
  · cases h
  simp only [Except.bind_eq_ok] at h
  obtain ⟨redemption, hread, -, -, s₁, hmark, s₂, hquota, s₃, hsub, hcommit⟩ := h
  split_ifs at hcommit
  obtain ⟨rfl, rfl⟩ := Prod.mk.inj (Except.ok.inj hcommit)
  exact ⟨redemption, s₁, s₂, hread, hmark, hquota, hsub, rfl⟩

lemma readCode_eq_ok (h : s.readCode call = .ok redemption) :
    s.findCode call.key = some redemption ∧ redemption.status = .enabled ∧
      0 ≤ redemption.quota := by
  unfold readCode at h
  split_ifs at h
  split at h
  next => cases h
  next r hfind =>
    split_ifs at h with hstatus hexpired hquota
    obtain rfl := Except.ok.inj h
    exact ⟨hfind, not_not.mp hstatus, not_lt.mp hquota⟩

lemma markUsed_eq_ok (h : s.markUsed call redemption = .ok s') :
    s' = { s with
      redemptions := s.redemptions.modifyWhere redemption.isOpen (Redemption.usedBy call) } := by
  unfold markUsed at h
  split_ifs at h
  exact (Except.ok.inj h).symm

/-- The code itself is used, and any other code stays as it is. -/
lemma findCode_markUsed (hcode : s.findCode call.key = some redemption)
    (hopen : redemption.status = .enabled) (h : s.markUsed call redemption = .ok s')
    (key : String) :
    s'.findCode key = if key = call.key then some (redemption.usedBy call) else s.findCode key := by
  have hrow : ∀ r : Redemption,
      (if redemption.isOpen r then Row.withKey (Row.key r) (r.usedBy call) else r).key = r.key := by
    intro r
    split_ifs <;> rfl
  have hfind : s'.findCode key = (s.findCode key).map fun r =>
      if redemption.isOpen r then Row.withKey (Row.key r) (r.usedBy call) else r := by
    rw [markUsed_eq_ok h]
    simp only [findCode, findBy, modifyWhere, List.find?_map, Function.comp_def, hrow]
  rw [hfind]
  obtain ⟨hmem, hkey⟩ := findBy_eq_some hcode
  split_ifs with heq
  · subst heq
    have hself : redemption.isOpen redemption = true := by simp [Redemption.isOpen, hopen]
    simp only [hcode, Option.map_some, hself]
    rfl
  · cases hother : s.findCode key with
    | none => rfl
    | some r =>
      obtain ⟨hmem', hkey'⟩ := findBy_eq_some hother
      have hclosed : redemption.isOpen r = false := by
        simp only [Redemption.isOpen, decide_eq_false_iff_not]
        rintro ⟨hid, -⟩
        rw [eq_of_key_eq hmem' hmem hid] at hkey'
        exact heq ((beq_iff_eq.mp hkey').symm.trans (beq_iff_eq.mp hkey))
      simp [hclosed]

end

end RedeemDB

/-! ### The user is paid -/

/-- The user has `quota` more than before, and no other user is touched. -/
structure DB.Credits (userId quota : Int) (db db' : DB) : Prop where
  user : (db'.users.find userId).map User.quota =
    (db.users.find userId).map fun u => u.quota + quota
  others : ∀ other, other ≠ userId → db'.users.find other = db.users.find other

namespace DB.Credits

variable {userId quota quota' : Int} {db db' db'' : DB}

lemma trans (h : db.Credits userId quota db') (h' : db'.Credits userId quota' db'') :
    db.Credits userId (quota + quota') db'' where
  user := by
    have hmap := congrArg (Option.map (· + quota')) h.user
    simp only [Option.map_map, Function.comp_def] at hmap
    rw [h'.user, hmap]
    simp only [add_assoc]
  others other hne := by rw [h'.others other hne, h.others other hne]

lemma refl (userId : Int) (db : DB) : db.Credits userId 0 db where
  user := by simp
  others _ _ := rfl

lemma userQuota (h : db.Credits userId quota db') (huser : db.HasUser userId) :
    db'.userQuota userId = db.userQuota userId + quota := by
  obtain ⟨u, hu⟩ := Option.isSome_iff_exists.mp huser
  simp [DB.userQuota, h.user, hu]

end DB.Credits

/-- An update of the row of the user that moves the quota. -/
lemma credits_modify {db db' : DB} {userId quota : Int} {f : User → User}
    (h : db'.users = db.users.modify userId f) (hid : ∀ u, (f u).id = u.id)
    (hquota : ∀ u, (f u).quota = u.quota + quota) : db.Credits userId quota db' := by
  have hfind := find_modify db.users userId (show ∀ u, Row.key (f u) = Row.key u from hid)
  constructor
  · simp [h, hfind, Function.comp_def, hquota]
  · intro other hne
    rw [h, hfind, if_neg hne]

lemma credits_usersWithGroup {db db' : DB} {userId : Int} {group : String}
    (h : db'.users = db.usersWithGroup userId group) : db.Credits userId 0 db' := by
  unfold DB.usersWithGroup at h
  split_ifs at h
  · exact credits_modify h (fun _ => rfl) fun u => (add_zero u.quota).symm
  · constructor
    · simp [h]
    · intro other _
      rw [h]

namespace RedeemDB

variable {loc : Location} {call : RedeemCall} {redemption : Redemption} {s s' : RedeemDB}

lemma addQuota_eq_ok (hquota : 0 ≤ redemption.quota) (h : s.addQuota call redemption = .ok s') :
    s.db.Credits call.userId redemption.quota s'.db ∧
      s'.db.subscriptions = s.db.subscriptions ∧ s'.redemptions = s.redemptions := by
  unfold addQuota at h
  split_ifs at h with hzero
  · obtain rfl := Except.ok.inj h
    rw [le_antisymm hzero hquota]
    exact ⟨.refl _ _, rfl, rfl⟩
  · obtain rfl := Except.ok.inj h
    exact ⟨credits_modify rfl (fun _ => rfl) fun _ => rfl, rfl, rfl⟩

/-- The subscription that a code is worth. -/
def AddsSubscription (redemption : Redemption) (userId : Int) (db db' : DB) : Prop :=
  if redemption.subscriptionPlanId ≤ 0 then db'.subscriptions = db.subscriptions
  else ∃ row : UserSubscription, db'.subscriptions = db.subscriptions.insert row ∧
    row.userId = userId ∧ row.planId = redemption.subscriptionPlanId

lemma addSubscription_eq_ok (h : s.addSubscription loc call redemption = .ok s') :
    s.db.Credits call.userId 0 s'.db ∧ AddsSubscription redemption call.userId s.db s'.db ∧
      s'.redemptions = s.redemptions := by
  unfold addSubscription at h
  unfold AddsSubscription
  by_cases hplanId : redemption.subscriptionPlanId ≤ 0
  · rw [if_pos hplanId] at h ⊢
    obtain rfl := Except.ok.inj h
    exact ⟨.refl _ _, rfl, rfl⟩
  rw [if_neg hplanId] at h ⊢
  split at h
  · cases h
  split at h
  next => cases h
  next plan hplan =>
    split at h
    · cases h
    split at h
    next => cases h
    next db sub hcreate =>
      obtain rfl := Except.ok.inj h
      obtain ⟨endUnix, prevGroup, -, rfl⟩ := createFromPlan_frame hcreate
      refine ⟨credits_usersWithGroup rfl, ⟨_, rfl, rfl, ?_⟩, rfl⟩
      exact getPlanById_id hplan

/-! ### Runs of redemptions -/

/-- The code has been given to the user: its quota and its subscription, and no one else's. -/
structure Grants (redemption : Redemption) (userId : Int) (s s' : RedeemDB) : Prop where
  quota : s'.db.userQuota userId = s.db.userQuota userId + redemption.quota
  others : ∀ other, other ≠ userId → s'.db.users.find other = s.db.users.find other
  subscription : AddsSubscription redemption userId s.db s'.db
  used : ∃ r, s'.findCode redemption.key = some r ∧ r.status = .used ∧ r.usedUserId = userId

/-- What a redemption that commits has found and has done. -/
lemma redeem_spec {quota : Int} (h : s.redeem loc call = .ok (s', quota)) :
    ∃ redemption, s.findCode call.key = some redemption ∧ redemption.status = .enabled ∧
      quota = redemption.quota ∧ s.db.Credits call.userId redemption.quota s'.db ∧
      AddsSubscription redemption call.userId s.db s'.db ∧
      ∀ key, s'.findCode key =
        if key = call.key then some (redemption.usedBy call) else s.findCode key := by
  obtain ⟨redemption, s₁, s₂, hread, hmark, hadd, hsub, rfl⟩ := redeem_eq_ok h
  obtain ⟨hcode, hopen, hpos⟩ := readCode_eq_ok hread
  obtain ⟨hcredits, hsubs, hcodes⟩ := addQuota_eq_ok hpos hadd
  obtain ⟨hcredits', hsubs', hcodes'⟩ := addSubscription_eq_ok hsub
  have hdb : s₁.db = s.db := by rw [markUsed_eq_ok hmark]
  refine ⟨redemption, hcode, hopen, rfl, ?_, ?_, ?_⟩
  · rw [← hdb]
    simpa using hcredits.trans hcredits'
  · unfold AddsSubscription at hsubs' ⊢
    rwa [hsubs, hdb] at hsubs'
  · intro key
    rw [← findCode_markUsed hcode hopen hmark key]
    simp only [findCode, hcodes', hcodes]

/-- The call succeeds in giving the code with the key to its user. -/
def grants (loc : Location) (key : String) (p : RedeemDB × RedeemCall) : Bool :=
  p.2.key = key && (p.1.redeem loc p.2).isOk

/-- The calls of a run that give the code with the key to their user. -/
def granted (loc : Location) (key : String) (s : RedeemDB) (calls : List RedeemCall) :
    List (RedeemDB × RedeemCall) :=
  (steps (step loc) s calls).filter (grants loc key)

lemma granted_cons (key : String) (calls : List RedeemCall) :
    granted loc key s (call :: calls) =
      if grants loc key (s, call) then (s, call) :: granted loc key (s.step loc call) calls
      else granted loc key (s.step loc call) calls := by
  simp only [granted, steps_cons, List.filter_cons]

/-- What one call can do: nothing, or give a code that it finds enabled. -/
lemma step_cases (loc : Location) (s : RedeemDB) (call : RedeemCall) (key : String) :
    (grants loc key (s, call) = false ∧ s.step loc call = s) ∨
    ∃ redemption, s.findCode call.key = some redemption ∧ redemption.status = .enabled ∧
      (grants loc key (s, call) = true ↔ call.key = key) ∧
      s.db.Credits call.userId redemption.quota (s.step loc call).db ∧
      AddsSubscription redemption call.userId s.db (s.step loc call).db ∧
      ∀ key, (s.step loc call).findCode key =
        if key = call.key then some (redemption.usedBy call) else s.findCode key := by
  unfold step grants
  cases h : s.redeem loc call with
  | error e => exact Or.inl ⟨by simp [Except.toBool], rfl⟩
  | ok r =>
    obtain ⟨redemption, hcode, hopen, -, hcredits, hsubs, hcodes⟩ := redeem_spec h
    exact Or.inr ⟨redemption, hcode, hopen, by simp [Except.toBool], hcredits, hsubs, hcodes⟩

/-- A code that is not enabled is never given, and stays as it is. -/
lemma granted_of_not_enabled (loc : Location) {key : String}
    (hcode : s.findCode key = some redemption) (hstatus : redemption.status ≠ .enabled)
    (calls : List RedeemCall) :
    granted loc key s calls = [] ∧ (run (step loc) s calls).findCode key = some redemption := by
  induction calls generalizing s with
  | nil => exact ⟨rfl, hcode⟩
  | cons call calls ih =>
    rw [granted_cons, run_cons]
    rcases step_cases loc s call key with
      ⟨hgrants, hsame⟩ | ⟨redemption', hcode', hopen, hgrants, -, -, hcodes⟩
    · rw [hgrants, hsame]
      exact ih hcode
    · -- the call has used another code
      have hne : key ≠ call.key := by
        rintro rfl
        rw [Option.some.inj (hcode.symm.trans hcode')] at hstatus
        exact hstatus hopen
      rw [if_neg fun h => hne (hgrants.mp h).symm]
      apply ih
      rw [hcodes, if_neg hne, hcode]

/-- A caller that finds the code open has a row. -/
def OpensAsUser (key : String) (s : RedeemDB) (call : RedeemCall) : Prop :=
  call.key = key → (s.findCode key).any (·.status = .enabled) = true → s.db.HasUser call.userId

instance (key : String) (s : RedeemDB) (call : RedeemCall) : Decidable (s.OpensAsUser key call) :=
  inferInstanceAs (Decidable (_ → _ → _ = true))

/-- An enabled code is given at most once, and then it is used. -/
lemma granted_of_enabled (hcode : s.findCode redemption.key = some redemption)
    (hstatus : redemption.status = .enabled) {calls : List RedeemCall}
    (husers : Along (step loc) (OpensAsUser redemption.key) s calls) :
    (granted loc redemption.key s calls).length ≤ 1 ∧
      (∃ r, (run (step loc) s calls).findCode redemption.key = some r ∧
        (r.status = .used ↔ granted loc redemption.key s calls ≠ [])) ∧
      ∀ p ∈ granted loc redemption.key s calls,
        Grants redemption p.2.userId p.1 (p.1.step loc p.2) := by
  induction calls generalizing s with
  | nil => simp [granted, hcode, hstatus]
  | cons call calls ih =>
    obtain ⟨huser, hrest⟩ := husers
    rw [granted_cons, run_cons]
    rcases step_cases loc s call redemption.key with
      ⟨hgrants, hsame⟩ | ⟨redemption', hcode', hopen, hgrants, hcredits, hsubs, hcodes⟩
    · rw [hsame] at hrest
      rw [hgrants, hsame]
      exact ih hcode hrest
    by_cases hkey : call.key = redemption.key
    · -- the code is given here, and never again
      have hsame : redemption' = redemption := by
        rw [hkey, hcode] at hcode'
        exact (Option.some.inj hcode').symm
      subst hsame
      have hused : (s.step loc call).findCode redemption'.key = some (redemption'.usedBy call) := by
        rw [hcodes, if_pos hkey.symm]
      obtain ⟨hnone, hfinal⟩ := granted_of_not_enabled loc hused (by simp [Redemption.usedBy]) calls
      rw [if_pos (hgrants.mpr hkey), hnone]
      refine ⟨le_refl 1, ⟨_, hfinal, by simp [Redemption.usedBy]⟩, ?_⟩
      intro p hp
      rw [List.mem_singleton.mp hp]
      have hrow := huser hkey (by simp [hcode, hstatus])
      exact ⟨hcredits.userQuota hrow, hcredits.others, hsubs, _, hused, rfl, rfl⟩
    · rw [if_neg fun h => hkey (hgrants.mp h)]
      apply ih _ hrest
      rw [hcodes, if_neg (Ne.symm hkey), hcode]

/-- However redemptions interleave and fail, the value of a code is given to at most one user and at
most once, the code is used iff it has been given, and a call that fails changes nothing, if no
caller without a row finds the code open. -/
theorem granted_once (loc : Location) (s : RedeemDB) (redemption : Redemption)
    (hcode : s.findCode redemption.key = some redemption) (calls : List RedeemCall)
    (husers : Along (step loc) (OpensAsUser redemption.key) s calls) :
    (granted loc redemption.key s calls).length ≤ 1 ∧
      (∀ p ∈ granted loc redemption.key s calls,
        Grants redemption p.2.userId p.1 (p.1.step loc p.2)) ∧
      (∃ r, (run (step loc) s calls).findCode redemption.key = some r ∧
        (r.status = .used ↔ redemption.status = .used ∨ granted loc redemption.key s calls ≠ [])) ∧
      ∀ p ∈ steps (step loc) s calls, ∀ e, p.1.redeem loc p.2 = .error e →
        p.1.step loc p.2 = p.1 := by
  have hfailed : ∀ p ∈ steps (step loc) s calls, ∀ e, p.1.redeem loc p.2 = .error e →
      p.1.step loc p.2 = p.1 := by
    intro p _ e he
    simp only [step, he]
  by_cases hstatus : redemption.status = .enabled
  · obtain ⟨hlength, hused, hgrants⟩ := granted_of_enabled hcode hstatus husers
    refine ⟨hlength, hgrants, ?_, hfailed⟩
    simpa [hstatus] using hused
  · obtain ⟨hnone, hfinal⟩ := granted_of_not_enabled loc hcode hstatus calls
    refine ⟨by simp [hnone], by simp [hnone], ⟨redemption, hfinal, by simp [hnone]⟩, hfailed⟩

/-- Two users, and a code that is worth quota and a subscription. -/
def oneCode : RedeemDB where
  db :=
    { DB.empty with
      users := (empty.insert { id := 0, group := "default", quota := 10 }).insert
        { id := 0, group := "default", quota := 20 }
      plans := empty.insert { id := 0, totalAmount := 1000 } }
  redemptions :=
    empty.insert { id := 0, key := "code", quota := 500, subscriptionPlanId := 1 }

/-- The first call fails at its commit, the second one gets the code, and the third one is late. -/
def threeCalls : List RedeemCall :=
  [⟨"code", 1, ⟨100, 100, 100⟩, some .commit⟩, ⟨"code", 2, ⟨101, 101, 101⟩, none⟩,
    ⟨"code", 1, ⟨102, 102, 102⟩, none⟩]

theorem granted_once_threeCalls :
    (granted .utc "code" oneCode threeCalls).length = 1 ∧
      (∃ r, (run (step .utc) oneCode threeCalls).findCode "code" = some r ∧
        (r.status = .used ↔ RedemptionCodeStatus.enabled = .used ∨
          granted .utc "code" oneCode threeCalls ≠ [])) ∧
      (run (step .utc) oneCode threeCalls).db.userQuota 1 = 10 ∧
      (run (step .utc) oneCode threeCalls).db.userQuota 2 = 520 :=
  ⟨by decide +kernel,
    (granted_once .utc oneCode { id := 1, key := "code", quota := 500, subscriptionPlanId := 1 }
      (by decide +kernel) threeCalls (by decide +kernel)).2.2.1,
    by decide +kernel, by decide +kernel⟩

/-- A code that is worth quota only. -/
def quotaCode : RedeemDB :=
  { oneCode with redemptions := empty.insert { id := 0, key := "code", quota := 500 } }

/-- An account that was deleted uses the code up, and no one has got anything for it. -/
theorem redeem_by_deleted_user :
    let s := quotaCode.step .utc ⟨"code", 3, ⟨100, 100, 100⟩, none⟩
    (s.findCode "code").map Redemption.status = some .used ∧
      s.db.users.rows = quotaCode.db.users.rows ∧
      s.db.subscriptions.rows = quotaCode.db.subscriptions.rows := by
  decide +kernel

end RedeemDB

end XinghaiApi
