import XinghaiApi.Service.Authz.Override
import XinghaiApi.Service.Group

/-!
# Administration of users

Administrators create, edit, manage and delete users, and every user can delete themselves. Each
handler compares the role of the actor with that of the user in its own way, and the ones that
change a role also see to the permissions that are stored for the user.
-/

namespace XinghaiApi

open Text Table

/-! ### Users -/

inductive UserStatus where
  | enabled
  | disabled
deriving DecidableEq

/-- A row of the table of users; a row that is deleted softly stays with a mark. -/
structure UserAccount where
  id : ℤ := 0
  username : String := ""
  password : String := ""
  displayName : String := ""
  role : ℤ := 0
  status : UserStatus := .enabled
  quota : ℤ := 0
  group : String := ""
  remark : String := ""
  deleted : Bool := false
deriving DecidableEq

instance : Row UserAccount where
  key u := u.id
  withKey k u := { u with id := k }
  key_withKey _ _ := rfl
  withKey_key _ := rfl

structure UserStore where
  users : Table UserAccount
  authz : Authz

open UserStore

namespace UserStore

variable (s : UserStore)

/-- A row that is not marked as deleted; the id 0 is refused. -/
def getUserById (id : ℤ) : Option UserAccount :=
  if id = 0 then none else (s.users.find id).filter fun u => !u.deleted

/-- The row with the id, or the first one for the id 0, which is no condition; a row that is not
there reads as an empty one with the id. -/
def fillUnscoped (id : ℤ) : UserAccount :=
  if id = 0 then
    (s.users.select (fun _ => true) fun u v => u.id ≤ v.id).head?.getD {}
  else (s.users.find id).getD { id }

def setUser (id : ℤ) (f : UserAccount → UserAccount) : UserStore :=
  { s with users := s.users.modify id f }

end UserStore

inductive UserError where
  | invalidParams
  | userInputInvalid
  | recordNotFound
  | userNotExists
  | userExists
  | usernameForbidden
  | noPermissionHigherLevel
  | cannotCreateHigherLevel
  | cannotDeleteRootUser
  | cannotDisableRootUser
  | cannotDemoteRootUser
  | alreadyAdmin
  | alreadyCommon
  | adminCannotPromote
  | quotaChangeZero
  | passwordHash
  | onlyRootPermissions
  | insufficientPrivilege
  | userInfoInvalid
  | userBanned
deriving DecidableEq

structure UserConfig where
  casbin : Casbin
  usernameForbiddenWords : List String := []
  quotaForNewUser : ℤ := 0
  /-- the hash of a password, nothing if it fails -/
  password2Hash : String → Option String := some

/-! ### Authentication -/

/-- What the session of a request says about its user. The role is the one that is stored. -/
structure Session where
  id : ℤ
  username : String
  status : UserStatus := .enabled

def isValidateRole (role : ℤ) : Bool :=
  role = roleGuestUser || role = roleCommonUser || role = roleAdminUser || role = roleRootUser

def validUserInfo (username : String) (role : ℤ) : Bool :=
  trimSpace username ≠ "" && isValidateRole role

def authHelper (session : Session) (role minRole : ℤ) : Except UserError Unit :=
  if session.status = .disabled then .error .userBanned
  else if role < minRole then .error .insufficientPrivilege
  else if !validUserInfo session.username role then .error .userInfoInvalid
  else .ok ()

def canManageTargetRole (myRole targetRole : ℤ) : Bool :=
  myRole = roleRootUser || targetRole < myRole

/-! ### Permissions of a user -/

/-- The rows of the permissions of the user, and whether they were written. -/
def updateAdminPermissionsForUserInTx (lib : Casbin) (registry : Registry) (authz : Authz)
    (myRole userID userRole : ℤ) (permissions : Option PermissionsMap) :
    Except UserError (Bool × List CasbinRule) :=
  match permissions with
  | none =>
    if userRole < roleAdminUser ∧ myRole = roleRootUser then
      .ok (true, clearUserAuthorizationInTx registry userID authz.rules)
    else .ok (false, authz.rules)
  | some permissions =>
    if myRole ≠ roleRootUser then .error .onlyRootPermissions
    else if userRole < roleAdminUser then
      .ok (true, clearUserAuthorizationInTx registry userID authz.rules)
    else
      .ok (true, setUserPermissionsInTx lib registry authz.policies userID authz.rules permissions)

/-- The rows are written with the users, and the policies are read again if they were. -/
def UserStore.commit (lib : Casbin) (users : Table UserAccount) (authz : Authz)
    (written : Bool × List CasbinRule) : UserStore :=
  let authz := { authz with rules := written.2 }
  { users, authz := if written.1 then authz.reloadPolicy lib else authz }

/-! ### Handlers

A handler gives the store after it and the error that it answers with. -/

structure UserRequest where
  id : ℤ := 0
  username : String
  password : String := ""
  displayName : String := ""
  role : ℤ := 0
  email : String := ""
  group : String := ""
  userGroups : List String := []
  remark : String := ""
  adminPermissions : Option PermissionsMap := none

/-- The lengths that the fields may have. -/
def UserRequest.validate (req : UserRequest) : Bool :=
  req.username.length ≤ 20 && 8 ≤ req.password.length && req.password.length ≤ 20 &&
    req.displayName.length ≤ 20 && req.email.length ≤ 50 && req.remark.length ≤ 255

def usernameContainsForbiddenWord (config : UserConfig) (username : String) : Bool :=
  let username := toLower (trimSpace username)
  username ≠ "" && config.usernameForbiddenWords.any fun word =>
    let word := toLower (trimSpace word)
    word ≠ "" && contains username word

abbrev UserAnswer := UserStore × Option UserError

/-- The row of a new user. A role of zero is replaced by the default of the column. -/
def UserRequest.cleanUser (config : UserConfig) (req : UserRequest) (username password : String) :
    UserAccount where
  username
  password
  displayName := if req.displayName = "" then username else req.displayName
  role := if req.role = 0 then roleCommonUser else req.role
  quota := config.quotaForNewUser

section

variable (registry : Registry) (config : UserConfig) (s : UserStore) (myRole : ℤ)
  (req : UserRequest)

/-- `CreateUser`. -/
def createUser : UserAnswer :=
  let username := trimSpace req.username
  if username = "" ∨ req.password = "" then (s, some .invalidParams)
  else if !{ req with username }.validate then (s, some .userInputInvalid)
  else if myRole ≤ req.role then (s, some .cannotCreateHigherLevel)
  else
    match config.password2Hash req.password with
    | none          => (s, some .passwordHash)
    | some password =>
      if s.users.rows.any (·.username = username) then (s, some .userExists)
      else
        let cleanUser := req.cleanUser config username password
        match updateAdminPermissionsForUserInTx config.casbin registry s.authz myRole s.users.next
            cleanUser.role req.adminPermissions with
        | .error err   => (s, some err)
        | .ok written =>
          (commit config.casbin (s.users.insert cleanUser) s.authz written, none)

/-- `UpdateUser`. The role is never written. -/
def updateUser : UserAnswer :=
  let username := trimSpace req.username
  if req.id = 0 ∨ username = "" then (s, some .invalidParams)
  else if !{ req with username, password := if req.password = "" then "$I_LOVE_U" else req.password
      : UserRequest }.validate then (s, some .userInputInvalid)
  else
    match s.getUserById req.id with
    | none            => (s, some .recordNotFound)
    | some originUser =>
      if req.role ≠ roleGuestUser ∧ req.role ≠ originUser.role then (s, some .invalidParams)
      else if !canManageTargetRole myRole originUser.role then
        (s, some .noPermissionHigherLevel)
      else if s.users.rows.any (fun u => u.username = username && u.id ≠ req.id) then
        (s, some .userExists)
      else if usernameContainsForbiddenWord config username then (s, some .usernameForbidden)
      -- the role is by now that of the row, so this repeats the check above
      else if !canManageTargetRole myRole originUser.role then
        (s, some .cannotCreateHigherLevel)
      else
        let group := joinUserGroups (req.group :: req.userGroups)
        let edit (password : String) (u : UserAccount) : UserAccount :=
          { u with
            username, password, displayName := req.displayName, remark := req.remark
            group := if group = "" then "default" else group }
        -- a password that is sent as the placeholder is taken for none
        match (if req.password = "" ∨ req.password = "$I_LOVE_U" then some originUser.password
          else config.password2Hash req.password) with
        | none          => (s, some .passwordHash)
        | some password =>
          match updateAdminPermissionsForUserInTx config.casbin registry s.authz myRole req.id
              originUser.role req.adminPermissions with
          | .error err   => (s, some err)
          | .ok written =>
            (commit config.casbin (s.users.modify req.id (edit password)) s.authz written, none)

end

/-- `DeleteUser`: the row is deleted for good, the permissions stay. -/
def deleteUser (s : UserStore) (myRole id : ℤ) : UserAnswer :=
  match s.getUserById id with
  | none            => (s, some .recordNotFound)
  | some originUser =>
    if myRole ≤ originUser.role then (s, some .noPermissionHigherLevel)
    else ({ s with users := s.users.delete id }, none)

/-- `DeleteSelf`: a row that is not found reads as one without a role, and the id 0 has none to
read at all. -/
def deleteSelf (s : UserStore) (id : ℤ) : UserAnswer :=
  if id = 0 then (s, some .recordNotFound)
  else if ((s.getUserById id).map UserAccount.role).getD 0 = roleRootUser then
    (s, some .cannotDeleteRootUser)
  else (s.setUser id fun u => { u with deleted := true }, none)

inductive QuotaMode where
  | add
  | subtract
  | override
  | other
deriving DecidableEq

inductive ManageAction where
  | disable
  | enable
  | delete
  | promote
  | demote
  | addQuota (mode : QuotaMode) (value : ℤ)
  | other
deriving DecidableEq

structure ManageRequest where
  id : ℤ
  action : ManageAction

/-- The columns that are not empty in the given row are written. -/
def UserAccount.updates (row newUser : UserAccount) : UserAccount :=
  { row with
    username := if newUser.username = "" then row.username else newUser.username
    password := if newUser.password = "" then row.password else newUser.password
    displayName := if newUser.displayName = "" then row.displayName else newUser.displayName
    role := if newUser.role = 0 then row.role else newUser.role
    status := newUser.status
    group := if newUser.group = "" then row.group else newUser.group
    remark := if newUser.remark = "" then row.remark else newUser.remark }

/-- `UpdateWithTx`: the row has to be there and not deleted. -/
def UserStore.update (s : UserStore) (user : UserAccount) : Except UserError (Table UserAccount) :=
  match s.getUserById user.id with
  | none   => .error .recordNotFound
  | some _ => .ok (s.users.modify user.id (·.updates user))

/-- The user is written, as far as the action has changed it. -/
def UserStore.saveManaged (s : UserStore) (user : UserAccount) : UserAnswer :=
  match s.update user with
  | .error err => (s, some err)
  | .ok users  => ({ s with users }, none)

/-- The quota of a row that is not deleted. -/
def UserStore.manageQuota (s : UserStore) (id value : ℤ) : QuotaMode → UserAnswer
  | .add      =>
    if value ≤ 0 then (s, some .quotaChangeZero)
    else (s.setUser id fun u => if u.deleted then u else { u with quota := u.quota + value }, none)
  | .subtract =>
    if value ≤ 0 then (s, some .quotaChangeZero)
    else (s.setUser id fun u => if u.deleted then u else { u with quota := u.quota - value }, none)
  | .override =>
    (s.setUser id fun u => if u.deleted then u else { u with quota := value }, none)
  | .other    => (s, some .invalidParams)

/-- `ManageUser`. -/
def manageUser (registry : Registry) (config : UserConfig) (s : UserStore) (myRole : ℤ)
    (req : ManageRequest) : UserAnswer :=
  let user := s.fillUnscoped req.id
  if user.id = 0 then (s, some .userNotExists)
  else if !canManageTargetRole myRole user.role then (s, some .noPermissionHigherLevel)
  else
    match req.action with
    | .disable =>
      if user.role = roleRootUser then (s, some .cannotDisableRootUser)
      else s.saveManaged { user with status := .disabled }
    | .enable  => s.saveManaged { user with status := .enabled }
    | .delete  =>
      if user.role = roleRootUser then (s, some .cannotDeleteRootUser)
      -- the row that was just deleted is not found any more
      else (s.setUser user.id fun u => { u with deleted := true }).saveManaged user
    | .promote =>
      if myRole ≠ roleRootUser then (s, some .adminCannotPromote)
      else if roleAdminUser ≤ user.role then (s, some .alreadyAdmin)
      else s.saveManaged { user with role := roleAdminUser }
    | .demote  =>
      if user.role = roleRootUser then (s, some .cannotDemoteRootUser)
      else if user.role = roleCommonUser then (s, some .alreadyCommon)
      else
        match s.update { user with role := roleCommonUser } with
        | .error err => (s, some err)
        | .ok users  =>
          (commit config.casbin users s.authz
            (true, clearUserAuthorizationInTx registry user.id s.authz.rules), none)
    | .addQuota mode value => s.manageQuota user.id value mode
    | .other   => s.saveManaged user

/-! ### Calls -/

inductive UserCall where
  | create (req : UserRequest)
  | update (req : UserRequest)
  | manage (req : ManageRequest)
  | delete (id : ℤ)
  | deleteSelf

/-- The role that a user needs for the route. -/
def UserCall.minRole : UserCall → ℤ
  | .deleteSelf => roleCommonUser
  | _           => roleAdminUser

def handleCall (registry : Registry) (config : UserConfig) (s : UserStore) (actor : UserAccount) :
    UserCall → UserAnswer
  | .create req => createUser registry config s actor.role req
  | .update req => updateUser registry config s actor.role req
  | .manage req => manageUser registry config s actor.role req
  | .delete id  => deleteUser s actor.role id
  | .deleteSelf => deleteSelf s actor.id

/-- A call by the user of a session, with the role that is stored for them. -/
def userStep (registry : Registry) (config : UserConfig) (s : UserStore)
    (call : Session × UserCall) : UserStore :=
  match s.users.find call.1.id with
  | none       => s
  | some actor =>
    match authHelper call.1 actor.role call.2.minRole with
    | .error _ => s
    | .ok ()   => (handleCall registry config s actor call.2).1

/-! ### What a call can do -/

variable {registry : Registry} {config : UserConfig} {s s' : UserStore} {actor : UserAccount}

/-- The changes that the handlers make for an actor. -/
inductive UserChange (registry : Registry) (s : UserStore) (actor : UserAccount) : UserStore → Prop
  | none : UserChange registry s actor s
  | modified {target : UserAccount} {f : UserAccount → UserAccount} {authz : Authz}
    (hmem : target ∈ s.users)
    (hmanage : canManageTargetRole actor.role target.role = true ∨ actor.id = target.id)
    (hrole : (f target).role = target.role ∨
      (f target).role < actor.role ∧ target.role ≠ roleRootUser)
    (hstatus : target.role = roleRootUser → (f target).status = .disabled →
      target.status = .disabled)
    (hdeleted : target.role = roleRootUser → (f target).deleted = true → target.deleted = true)
    (hother : ∀ u ≠ target.id, SameRules s.authz.rules authz.rules u)
    (hoverride : hasOverride registry authz.rules target.id = true →
      roleAdminUser ≤ (f target).role ∨
        hasOverride registry s.authz.rules target.id = true ∧ (f target).role = target.role) :
    UserChange registry s actor { users := s.users.modify target.id f, authz }
  | deleted {target : UserAccount} (hmem : target ∈ s.users) (hrole : target.role < actor.role) :
    UserChange registry s actor { s with users := s.users.delete target.id }
  | created {user : UserAccount} {authz : Authz} (hrole : user.role < actor.role)
    (hother : ∀ u ≠ s.users.next, SameRules s.authz.rules authz.rules u)
    (hoverride : hasOverride registry authz.rules s.users.next = true →
      roleAdminUser ≤ user.role ∨ hasOverride registry s.authz.rules s.users.next = true) :
    UserChange registry s actor { users := s.users.insert user, authz }

lemma getUserById_eq_some {id : ℤ} {u : UserAccount} (h : s.getUserById id = some u) :
    u ∈ s.users ∧ u.id = id ∧ u.deleted = false := by
  rw [getUserById] at h
  split_ifs at h with hid
  obtain ⟨hfind, hdeleted⟩ := Option.filter_eq_some_iff.mp h
  obtain ⟨hmem, hkey⟩ := find_eq_some_iff.mp hfind
  exact ⟨hmem, hkey, by simpa using hdeleted⟩

@[simp] lemma Authz.reloadPolicy_rules (lib : Casbin) (authz : Authz) :
    (authz.reloadPolicy lib).rules = authz.rules := by
  rw [Authz.reloadPolicy]
  split <;> rfl

lemma UserStore.commit_eq (lib : Casbin) (users : Table UserAccount) (authz : Authz)
    (written : Bool × List CasbinRule) :
    ∃ authz', commit lib users authz written = { users, authz := authz' } ∧
      authz'.rules = written.2 := by
  refine ⟨_, rfl, ?_⟩
  split_ifs <;> simp

/-- The permissions of other users stay, and a user below the administrators gets none. -/
lemma updatePermissions_eq_ok {lib : Casbin} {authz : Authz} {myRole userID userRole : ℤ}
    {permissions : Option PermissionsMap} {written : Bool × List CasbinRule}
    (h : updateAdminPermissionsForUserInTx lib registry authz myRole userID userRole permissions =
      .ok written) :
    (∀ u ≠ userID, SameRules authz.rules written.2 u) ∧
      (hasOverride registry written.2 userID = true →
        roleAdminUser ≤ userRole ∨ hasOverride registry authz.rules userID = true) := by
  have hclear : (∀ u ≠ userID, SameRules authz.rules
        (clearUserAuthorizationInTx registry userID authz.rules) u) ∧
      (hasOverride registry (clearUserAuthorizationInTx registry userID authz.rules) userID = true →
        roleAdminUser ≤ userRole ∨ hasOverride registry authz.rules userID = true) := by
    refine ⟨fun u hu => sameRules_clearAuthorization _ hu, fun hhas => ?_⟩
    rw [hasOverride_clearAuthorization] at hhas
    cases hhas
  cases permissions with
  | none =>
    rw [updateAdminPermissionsForUserInTx] at h
    split_ifs at h
    · cases h
      exact hclear
    · cases h
      exact ⟨fun u _ => SameRules.refl _ u, Or.inr⟩
  | some permissions =>
    rw [updateAdminPermissionsForUserInTx] at h
    split_ifs at h with hactor hrole
    · cases h
      exact hclear
    · cases h
      exact ⟨fun u hu => sameRules_setUserPermissionsInTx _ _ _ permissions hu,
        fun _ => Or.inl (Int.not_lt.mp hrole)⟩

/-! ### Handlers as changes -/

variable {target : UserAccount} {f : UserAccount → UserAccount} {users : Table UserAccount}

/-- A check that fails changes nothing. -/
lemma UserChange.guard {c : Prop} [Decidable c] {err : UserError} {answer : UserAnswer}
    (h : ¬c → UserChange registry s actor answer.1) :
    UserChange registry s actor (if c then (s, some err) else answer).1 := by
  split_ifs with hc
  · exact .none
  · exact h hc

lemma userChange_createUser (hactor : roleAdminUser ≤ actor.role) (req : UserRequest) :
    UserChange registry s actor (createUser registry config s actor.role req).1 := by
  refine .guard fun _ => .guard fun _ => .guard fun hrole => ?_
  cases config.password2Hash req.password with
  | none => exact .none
  | some password =>
    refine .guard fun _ => ?_
    dsimp only
    split
    · exact .none
    · rename_i written hwritten
      obtain ⟨hother, hoverride⟩ := updatePermissions_eq_ok hwritten
      obtain ⟨authz, hcommit, hrules⟩ := commit_eq config.casbin (s.users.insert _) s.authz written
      rw [hcommit]
      refine .created ?_ (hrules ▸ hother) (hrules ▸ hoverride)
      -- the default role is below every administrator
      have hcommon : roleCommonUser < actor.role := Int.lt_of_lt_of_le (by decide) hactor
      change (if req.role = 0 then roleCommonUser else req.role) < actor.role
      split_ifs
      · exact hcommon
      · exact Int.not_le.mp hrole

lemma canManageTargetRole_of_guard {myRole targetRole : ℤ}
    (h : ¬(!canManageTargetRole myRole targetRole) = true) :
    canManageTargetRole myRole targetRole = true := by
  simpa using h

lemma userChange_updateUser (req : UserRequest) :
    UserChange registry s actor (updateUser registry config s actor.role req).1 := by
  refine .guard fun _ => .guard fun _ => ?_
  split
  · exact .none
  · rename_i originUser horigin
    obtain ⟨hmem, hid, -⟩ := getUserById_eq_some horigin
    refine .guard fun _ => .guard fun hmanage => .guard fun _ => .guard fun _ => .guard fun _ => ?_
    dsimp only
    split
    · exact .none
    · split
      · exact .none
      · rename_i password hpassword written hwritten
        obtain ⟨hother, hoverride⟩ := updatePermissions_eq_ok hwritten
        obtain ⟨authz, hcommit, hrules⟩ :=
          commit_eq config.casbin (s.users.modify req.id _) s.authz written
        rw [hcommit]
        have hcan := canManageTargetRole_of_guard hmanage
        rw [← hid] at hother hoverride ⊢
        exact .modified hmem (.inl hcan) (.inl rfl) (fun _ => id) (fun _ => id) (hrules ▸ hother)
          fun hhas => (hoverride (hrules ▸ hhas)).imp id fun hbefore => ⟨hbefore, rfl⟩

lemma userChange_deleteUser (id : ℤ) :
    UserChange registry s actor (deleteUser s actor.role id).1 := by
  rw [deleteUser]
  split
  · exact .none
  · rename_i originUser horigin
    obtain ⟨hmem, rfl, -⟩ := getUserById_eq_some horigin
    exact .guard fun hrole => .deleted hmem (Int.not_le.mp hrole)

lemma UserChange.setUser (hmem : target ∈ s.users)
    (hmanage : canManageTargetRole actor.role target.role = true ∨ actor.id = target.id)
    (hrole : (f target).role = target.role)
    (hstatus : target.role = roleRootUser → (f target).status = .disabled →
      target.status = .disabled)
    (hdeleted : target.role = roleRootUser → (f target).deleted = true → target.deleted = true) :
    UserChange registry s actor (s.setUser target.id f) :=
  .modified hmem hmanage (.inl hrole) hstatus hdeleted (fun u _ => .refl _ u)
    fun hhas => .inr ⟨hhas, hrole⟩

lemma userChange_deleteSelf (hmem : actor ∈ s.users) :
    UserChange registry s actor (deleteSelf s actor.id).1 := by
  refine .guard fun hid => .guard fun hroot => ?_
  refine .setUser hmem (.inr rfl) rfl (fun _ => id) fun hrole _ => ?_
  -- the row of a root user is only passed over when it is deleted already
  have hfind : s.users.find actor.id = some actor := find_eq_some_iff.mpr ⟨hmem, rfl⟩
  cases hdeleted : actor.deleted with
  | true => rfl
  | false => simp [getUserById, hid, hfind, Option.filter, hdeleted, hrole] at hroot

/-! ### Management of a user -/

/-- A user that is read is a row, or no row has the id. -/
lemma fillUnscoped_mem_or (s : UserStore) (id : ℤ) :
    s.fillUnscoped id ∈ s.users ∨ s.users.find (s.fillUnscoped id).id = none ∨
      (s.fillUnscoped id).id = 0 := by
  rw [fillUnscoped]
  split_ifs with hid
  · cases hselect : (s.users.select (fun _ => true) fun u v => u.id ≤ v.id) with
    | nil => exact .inr (.inr rfl)
    | cons u users =>
      have hu : u ∈ s.users.select (fun _ => true) fun u v => u.id ≤ v.id := by simp [hselect]
      exact .inl (mem_select.mp hu).1
  · cases hfind : s.users.find id with
    | none => exact .inr (.inl hfind)
    | some u => exact .inl (find_eq_some_iff.mp hfind).1

lemma update_eq_ok {user : UserAccount} (h : s.update user = .ok users) :
    users = s.users.modify user.id (·.updates user) ∧
      ∃ row ∈ s.users, row.id = user.id ∧ row.deleted = false := by
  rw [update] at h
  split at h
  · cases h
  · rename_i row hrow
    cases h
    obtain ⟨hmem, hid, hdeleted⟩ := getUserById_eq_some hrow
    exact ⟨rfl, row, hmem, hid, hdeleted⟩

/-- The row is written with what was read from it, apart from the role and the status. -/
lemma UserAccount.updates_self (user : UserAccount) (role : ℤ) (status : UserStatus) :
    user.updates { user with role, status } =
      { user with role := if role = 0 then user.role else role, status } := by
  simp [UserAccount.updates]

section

variable {user : UserAccount} (hmem : user ∈ s.users ∨ s.users.find user.id = none)
  (hmanage : canManageTargetRole actor.role user.role = true)

include hmem

/-- The row that was read is the one that is written. -/
lemma eq_of_update {row : UserAccount} (hrow : row ∈ s.users) (hid : row.id = user.id) :
    row = user := by
  rcases hmem with hmem | hnone
  · exact eq_of_key_eq hrow hmem hid
  · have hsome := find_eq_some_iff.mpr ⟨hrow, hid⟩
    rw [hnone] at hsome
    cases hsome

include hmanage

lemma userChange_saveManaged {role : ℤ} {status : UserStatus} (hrole : role = user.role ∨
      roleAdminUser ≤ role ∧ role < actor.role ∧ user.role ≠ roleRootUser)
    (hstatus : user.role = roleRootUser → status = .disabled → user.status = .disabled) :
    UserChange registry s actor (s.saveManaged { user with role, status }).1 := by
  rw [saveManaged]
  split
  · exact .none
  · rename_i users husers
    obtain ⟨rfl, row, hrow, hid, -⟩ := update_eq_ok husers
    obtain rfl := eq_of_update hmem hrow hid
    have hwritten : (row.updates { row with role, status }).role = role := by
      rcases hrole with rfl | ⟨hadmin, -, -⟩
      · simp [UserAccount.updates_self]
      · have hne : role ≠ 0 := by
          rintro rfl
          exact absurd hadmin (by decide)
        simp [UserAccount.updates_self, hne]
    change UserChange registry s actor
      { users := s.users.modify row.id (·.updates { row with role, status }), authz := s.authz }
    refine .modified hrow (.inl hmanage) ?_ ?_ ?_ (fun u _ => .refl _ u) ?_
    · rw [hwritten]
      exact hrole.imp id And.right
    · simpa [UserAccount.updates_self] using hstatus
    · simp [UserAccount.updates_self]
    · intro hhas
      rw [hwritten]
      rcases hrole with hsame | ⟨hadmin, -⟩
      · exact .inr ⟨hhas, hsame⟩
      · exact .inl hadmin

lemma userChange_setManaged (hrole : (f user).role = user.role)
    (hstatus : user.role = roleRootUser → (f user).status = user.status)
    (hdeleted : user.role = roleRootUser → (f user).deleted = user.deleted) :
    UserChange registry s actor (s.setUser user.id f) := by
  rcases hmem with hmem | hnone
  · refine .setUser hmem (.inl hmanage) hrole (fun hroot => ?_) fun hroot => ?_
    · rw [hstatus hroot]
      exact id
    · rw [hdeleted hroot]
      exact id
  · rw [setUser, modify_eq_self_of_find_eq_none f hnone]
    exact .none

/-- The row that is deleted is not found again, so nothing else is written. -/
lemma userChange_deleteManaged (hroot : user.role ≠ roleRootUser) :
    UserChange registry s actor
      ((s.setUser user.id fun u => { u with deleted := true }).saveManaged user).1 := by
  have hgone : (s.setUser user.id fun u => { u with deleted := true }).getUserById user.id =
      none := by
    rw [getUserById, setUser]
    split_ifs
    · rfl
    · rw [find_modify]
      · cases s.users.find user.id <;> simp
      · exact fun u => rfl
  rw [saveManaged, update, hgone]
  exact userChange_setManaged hmem hmanage rfl (fun h => absurd h hroot) fun h => absurd h hroot

lemma userChange_manageQuota (value : ℤ) (mode : QuotaMode) :
    UserChange registry s actor (s.manageQuota user.id value mode).1 := by
  have hset : ∀ quota : UserAccount → ℤ, UserChange registry s actor
      (s.setUser user.id fun u => if u.deleted then u else { u with quota := quota u }) := by
    intro quota
    refine userChange_setManaged hmem hmanage ?_ (fun _ => ?_) fun _ => ?_ <;> split_ifs <;> rfl
  cases mode with
  | add => exact .guard fun _ => hset fun u => u.quota + value
  | subtract => exact .guard fun _ => hset fun u => u.quota - value
  | override => exact hset fun _ => value
  | other => exact .none

lemma userChange_demote (hactor : roleAdminUser ≤ actor.role) (hroot : user.role ≠ roleRootUser)
    (h : s.update { user with role := roleCommonUser } = .ok users) :
    UserChange registry s actor (commit config.casbin users s.authz
      (true, clearUserAuthorizationInTx registry user.id s.authz.rules)) := by
  obtain ⟨rfl, row, hrow, hid, -⟩ := update_eq_ok h
  obtain rfl := eq_of_update hmem hrow hid
  obtain ⟨authz, hcommit, hrules⟩ := commit_eq config.casbin
    (s.users.modify row.id (·.updates { row with role := roleCommonUser })) s.authz
    (true, clearUserAuthorizationInTx registry row.id s.authz.rules)
  rw [hcommit]
  refine .modified hrow (.inl hmanage) (.inr ⟨?_, hroot⟩) (fun h => absurd h hroot)
    (fun h => absurd h hroot) ?_ ?_
  · exact Int.lt_of_lt_of_le (show roleCommonUser < roleAdminUser by decide) hactor
  · rw [hrules]
    exact fun u hu => sameRules_clearAuthorization _ hu
  · rw [hrules, hasOverride_clearAuthorization]
    exact fun hhas => by cases hhas

end

lemma userChange_manageUser (hactor : roleAdminUser ≤ actor.role) (req : ManageRequest) :
    UserChange registry s actor (manageUser registry config s actor.role req).1 := by
  refine .guard fun hid => .guard fun hguard => ?_
  have hmanage := canManageTargetRole_of_guard hguard
  have hmem : s.fillUnscoped req.id ∈ s.users ∨ s.users.find (s.fillUnscoped req.id).id = none := by
    rcases fillUnscoped_mem_or s req.id with hmem | hnone | hzero
    · exact .inl hmem
    · exact .inr hnone
    · exact absurd hzero hid
  cases req.action with
  | disable =>
    exact .guard fun hroot => userChange_saveManaged hmem hmanage (.inl rfl)
      fun hrole => absurd hrole hroot
  | enable => exact userChange_saveManaged hmem hmanage (.inl rfl) nofun
  | delete => exact .guard fun hroot => userChange_deleteManaged hmem hmanage hroot
  | promote =>
    refine .guard fun hself => .guard fun hbelow => ?_
    have hself : actor.role = roleRootUser := not_not.mp hself
    refine userChange_saveManaged hmem hmanage (.inr ⟨Int.le_refl _, ?_, ?_⟩) fun _ => id
    · rw [hself]
      decide
    · rintro hroot
      exact hbelow (hroot ▸ by decide)
  | demote =>
    refine .guard fun hroot => .guard fun _ => ?_
    split
    · exact .none
    · rename_i users husers
      exact userChange_demote hmem hmanage hactor hroot husers
  | addQuota mode value => exact userChange_manageQuota hmem hmanage value mode
  | other => exact userChange_saveManaged hmem hmanage (.inl rfl) fun _ => id

/-! ### Hierarchy -/

variable (config)

lemma authHelper_eq_ok {session : Session} {role minRole : ℤ}
    (h : authHelper session role minRole = .ok ()) : minRole ≤ role ∧ role ≤ roleRootUser := by
  rw [authHelper] at h
  split_ifs at h with hstatus hmin hvalid
  have hrole : isValidateRole role = true := by
    simp only [validUserInfo, Bool.not_eq_true', Bool.not_eq_false, Bool.and_eq_true] at hvalid
    exact hvalid.2
  refine ⟨Int.not_lt.mp hmin, ?_⟩
  simp only [isValidateRole, Bool.or_eq_true, decide_eq_true_eq] at hrole
  rcases hrole with ((rfl | rfl) | rfl) | rfl <;> decide

lemma userChange_handleCall {call : UserCall} (hmem : actor ∈ s.users)
    (hmin : call.minRole ≤ actor.role) :
    UserChange registry s actor (handleCall registry config s actor call).1 := by
  cases call with
  | create req => exact userChange_createUser hmin req
  | update req => exact userChange_updateUser req
  | manage req => exact userChange_manageUser hmin req
  | delete id => exact userChange_deleteUser id
  | deleteSelf => exact userChange_deleteSelf hmem

/-- A call makes a change that is open to its actor, whose role is one of the known ones unless the
call is refused. -/
lemma userChange_userStep {call : Session × UserCall}
    (hfind : s.users.find call.1.id = some actor) :
    userStep registry config s call = s ∨ actor.role ≤ roleRootUser ∧
      UserChange registry s actor (userStep registry config s call) := by
  cases hauth : authHelper call.1 actor.role call.2.minRole with
  | error err => exact .inl (by simp [userStep, hfind, hauth])
  | ok _ =>
    obtain ⟨hmin, hmax⟩ := authHelper_eq_ok hauth
    have hstep : userStep registry config s call =
        (handleCall registry config s actor call.2).1 := by
      simp [userStep, hfind, hauth]
    rw [hstep]
    exact .inr ⟨hmax, userChange_handleCall config (find_eq_some_iff.mp hfind).1 hmin⟩

/-- What a call of the actor may do to the users and the permissions. -/
structure RespectsHierarchy (actor : UserAccount) (s s' : UserStore) : Prop where
  /-- a user whose role is not below the actor's is neither changed nor deleted -/
  untouched : ∀ u ∈ s.users, actor.role ≤ u.role → actor.role ≠ roleRootUser → actor.id ≠ u.id →
    u ∈ s'.users ∧ SameRules s.authz.rules s'.authz.rules u.id
  /-- nobody gets a role that is not below the actor's -/
  notRaised : ∀ u' ∈ s'.users, actor.role ≤ u'.role → ∃ u ∈ s.users, u.id = u'.id ∧ u.role = u'.role
  /-- a root user is not demoted, disabled or deleted -/
  root : ∀ u ∈ s.users, u.role = roleRootUser → ∃ u' ∈ s'.users, u'.id = u.id ∧
    u'.role = roleRootUser ∧ (u'.status = .disabled → u.status = .disabled) ∧
      (u'.deleted = true → u.deleted = true)

lemma RespectsHierarchy.refl (actor : UserAccount) (s : UserStore) :
    RespectsHierarchy actor s s where
  untouched _ hu _ _ _ := ⟨hu, .refl _ _⟩
  notRaised u hu _ := ⟨u, hu, rfl, rfl⟩
  root u hu hroot := ⟨u, hu, rfl, hroot, id, id⟩

/-- The rows after an update: the target is written and the others stay. -/
lemma mem_modify_user {u : UserAccount} (hmem : target ∈ users) :
    u ∈ users.modify target.id f ↔
      u = { f target with id := target.id } ∨ u ∈ users ∧ u.id ≠ target.id := by
  rw [mem_modify]
  constructor
  · rintro ⟨row, hrow, rfl⟩
    split_ifs with hid
    · obtain rfl := eq_of_key_eq hrow hmem hid
      exact .inl rfl
    · exact .inr ⟨hrow, hid⟩
  · rintro (rfl | ⟨hu, hid⟩)
    · exact ⟨target, hmem, if_pos rfl⟩
    · exact ⟨u, hu, if_neg hid⟩

lemma UserChange.respectsHierarchy (hmax : actor.role ≤ roleRootUser)
    (h : UserChange registry s actor s') : RespectsHierarchy actor s s' := by
  cases h with
  | none => exact .refl actor s
  | @modified target f authz hmem hmanage hrole hstatus hdeleted hother hoverride =>
    refine ⟨fun u hu hge hroot hid => ?_, fun u' hu' hge => ?_, fun u hu hroot => ?_⟩
    · have hne : u.id ≠ target.id := by
        intro hsame
        obtain rfl := eq_of_key_eq hu hmem hsame
        simp only [canManageTargetRole, Bool.or_eq_true, decide_eq_true_eq] at hmanage
        omega
      exact ⟨(mem_modify_user hmem).mpr (.inr ⟨hu, hne⟩), hother u.id hne⟩
    · rcases (mem_modify_user hmem).mp hu' with rfl | ⟨hu, -⟩
      · rcases hrole with hsame | ⟨hbelow, -⟩
        · exact ⟨target, hmem, rfl, hsame.symm⟩
        · exact absurd hge (Int.not_le.mpr hbelow)
      · exact ⟨u', hu, rfl, rfl⟩
    · by_cases hsame : u.id = target.id
      · obtain rfl := eq_of_key_eq hu hmem hsame
        refine ⟨_, (mem_modify_user hmem).mpr (.inl rfl), rfl, ?_, hstatus hroot, hdeleted hroot⟩
        rcases hrole with hkept | ⟨-, hnot⟩
        · exact hkept.trans hroot
        · exact absurd hroot hnot
      · exact ⟨u, (mem_modify_user hmem).mpr (.inr ⟨hu, hsame⟩), rfl, hroot, id, id⟩
  | @deleted target hmem hrole =>
    have hkept : ∀ u ∈ s.users, actor.role ≤ u.role → u ∈ s.users.delete target.id := by
      intro u hu hge
      refine mem_delete.mpr ⟨hu, fun hsame => ?_⟩
      obtain rfl := eq_of_key_eq hu hmem hsame
      exact absurd hge (Int.not_le.mpr hrole)
    refine ⟨fun u hu hge _ _ => ⟨hkept u hu hge, .refl _ _⟩, fun u' hu' _ => ?_,
      fun u hu hroot => ?_⟩
    · exact ⟨u', (mem_delete.mp hu').1, rfl, rfl⟩
    · exact ⟨u, hkept u hu (hroot ▸ hmax), rfl, hroot, id, id⟩
  | @created user authz hrole hother hoverride =>
    have hold : ∀ u ∈ s.users, u ∈ s.users.insert user := fun u hu => mem_insert.mpr (.inl hu)
    refine ⟨fun u hu _ _ _ => ⟨hold u hu, hother u.id (Int.ne_of_lt (s.users.fresh u hu))⟩,
      fun u' hu' hge => ?_, fun u hu hroot => ⟨u, hold u hu, rfl, hroot, id, id⟩⟩
    rcases mem_insert.mp hu' with hu | rfl
    · exact ⟨u', hu, rfl, rfl⟩
    · exact absurd hge (Int.not_le.mpr hrole)

/-! ### Permissions below the administrators -/

/-- Permissions are stored only for ids that were given to a user. -/
def UserStore.Issued (registry : Registry) (s : UserStore) : Prop :=
  ∀ userID, hasOverride registry s.authz.rules userID = true → userID < s.users.next

/-- The stores of the program. A user who is deleted leaves their permissions behind, and keys are
never given again, so no permissions are stored for the id of a new user. -/
abbrev UserDatabase (registry : Registry) := { s : UserStore // s.Issued registry }

/-- A new installation, with the account that `createRootAccountIfNeed` makes. -/
def rootDatabase (registry : Registry) (password : String) : UserDatabase registry where
  val :=
    { users := Table.empty.insert
        { username := "root", password, displayName := "Root User", role := roleRootUser
          quota := 100000000 }
      authz := {} }
  property := fun _ h => absurd h (by simp [hasOverride])

def UserStore.OverridesAdminsOnly (registry : Registry) (s : UserStore) : Prop :=
  ∀ u ∈ s.users, hasOverride registry s.authz.rules u.id = true → roleAdminUser ≤ u.role

lemma UserChange.issued (h : UserChange registry s actor s') (hissued : s.Issued registry) :
    s'.Issued registry := by
  cases h with
  | none => exact hissued
  | @modified target f authz hmem hmanage hrole hstatus hdeleted hother hoverride =>
    intro userID hhas
    by_cases hsame : userID = target.id
    · rw [hsame]
      exact s.users.fresh target hmem
    · exact hissued userID ((hother userID hsame).hasOverride_eq ▸ hhas)
  | deleted => exact hissued
  | @created user authz hrole hother hoverride =>
    intro userID hhas
    have hnext : userID = s.users.next ∨ userID < s.users.next := by
      by_cases hsame : userID = s.users.next
      · exact .inl hsame
      · exact .inr (hissued userID ((hother userID hsame).hasOverride_eq ▸ hhas))
    change userID < s.users.next + 1
    omega

lemma UserChange.overridesAdminsOnly (h : UserChange registry s actor s')
    (hissued : s.Issued registry) (hadmins : s.OverridesAdminsOnly registry) :
    s'.OverridesAdminsOnly registry := by
  cases h with
  | none => exact hadmins
  | @modified target f authz hmem hmanage hrole hstatus hdeleted hother hoverride =>
    intro u hu hhas
    rcases (mem_modify_user hmem).mp hu with rfl | ⟨hu, hne⟩
    · rcases hoverride hhas with hadmin | ⟨hbefore, hsame⟩
      · exact hadmin
      · exact (hadmins target hmem hbefore).trans_eq hsame.symm
    · exact hadmins u hu ((hother u.id hne).hasOverride_eq ▸ hhas)
  | deleted => exact fun u hu => hadmins u (mem_delete.mp hu).1
  | @created user authz hrole hother hoverride =>
    intro u hu hhas
    rcases mem_insert.mp hu with hu | rfl
    · have hne : u.id ≠ s.users.next := Int.ne_of_lt (s.users.fresh u hu)
      exact hadmins u hu ((hother u.id hne).hasOverride_eq ▸ hhas)
    · rcases hoverride hhas with hadmin | hbefore
      · exact hadmin
      · exact absurd (hissued _ hbefore) (Int.lt_irrefl _)

/-- What every change keeps, every call keeps. -/
lemma userStep_induction (call : Session × UserCall) {P : UserStore → Prop} (hs : P s)
    (hchange : ∀ actor s', UserChange registry s actor s' → P s') :
    P (userStep registry config s call) := by
  cases hfind : s.users.find call.1.id with
  | none => simpa [userStep, hfind] using hs
  | some actor =>
    rcases userChange_userStep config hfind with hsame | ⟨-, h⟩
    · rwa [hsame]
    · exact hchange actor _ h

namespace UserDatabase

section

variable (config : UserConfig) (db : UserDatabase registry) (call : Session × UserCall)

/-- A call on a store of the program. -/
def step : UserDatabase registry :=
  ⟨userStep registry config db.1 call,
    userStep_induction config call db.2 fun _ _ h => h.issued db.2⟩

/-- The call keeps to the hierarchy, with the role that is stored for its actor at that moment. -/
def StepRespects : Prop :=
  match db.1.users.find call.1.id with
  | none       => db.step config call = db
  | some actor => RespectsHierarchy actor db.1 (db.step config call).1

lemma stepRespects : db.StepRespects config call := by
  rw [StepRespects]
  split
  · rename_i hfind
    exact Subtype.ext (by simp [step, userStep, hfind])
  · rename_i actor hfind
    rcases userChange_userStep config hfind with hsame | ⟨hmax, h⟩
    · have hsame : (db.step config call).1 = db.1 := hsame
      rw [hsame]
      exact .refl actor db.1
    · exact h.respectsHierarchy hmax

end

/-- Every call of a run keeps to the hierarchy, and if no user below the administrators has a
permission stored, then none has one after any of the calls. -/
theorem run_keeps_hierarchy (registry : Registry) (config : UserConfig)
    (db : UserDatabase registry) (calls : List (Session × UserCall)) :
    Machine.Along (step config) (StepRespects config) db calls ∧
      (db.1.OverridesAdminsOnly registry →
        ∀ db' ∈ Machine.states (step config) db calls, db'.1.OverridesAdminsOnly registry) := by
  refine ⟨Machine.along_of_forall fun call _ db => stepRespects config db call, fun hadmins => ?_⟩
  refine Machine.states_invariant
    (I := fun db : UserDatabase registry => db.1.OverridesAdminsOnly registry)
    (fun db call h => ?_) hadmins calls
  exact userStep_induction config call h fun _ _ hchange => hchange.overridesAdminsOnly db.2 h

/-- Root makes an administrator with a permission, who cannot disable root, and demotes them. -/
def demotionRun : List (Session × UserCall) :=
  [({ id := 1, username := "root" },
      .create { username := "ann", password := "12345678", role := roleAdminUser
                adminPermissions := some (oneAction "channel" "secret_view" true) }),
    ({ id := 2, username := "ann" }, .manage ⟨1, .disable⟩),
    ({ id := 1, username := "root" }, .manage ⟨2, .demote⟩)]

def csvConfig : UserConfig where
  casbin := csvCasbin

/-- The permission that the first call stores is gone when its user is no administrator any more. -/
theorem run_keeps_hierarchy_demotion :
    Machine.Along (step csvConfig) (StepRespects csvConfig) (rootDatabase channelRegistry "hash")
        demotionRun ∧
      (∀ db ∈ Machine.states (step csvConfig) (rootDatabase channelRegistry "hash") demotionRun,
        db.1.OverridesAdminsOnly channelRegistry) ∧
      hasOverride channelRegistry (Machine.run (step csvConfig)
        (rootDatabase channelRegistry "hash") (demotionRun.take 1)).1.authz.rules 2 = true ∧
      (Machine.run (step csvConfig) (rootDatabase channelRegistry "hash")
        demotionRun).1.users.rows.map (·.role) = [roleRootUser, roleCommonUser] := by
  obtain ⟨halong, hstates⟩ := run_keeps_hierarchy channelRegistry csvConfig
    (rootDatabase channelRegistry "hash") demotionRun
  exact ⟨halong, hstates fun _ _ h => absurd h (by simp [rootDatabase, hasOverride]),
    by decide +kernel, by decide +kernel⟩

/-- The ids of the root users. -/
def rootIds (db : UserDatabase registry) : Set ℤ :=
  { id | ∃ u ∈ db.1.users, u.id = id ∧ u.role = roleRootUser }

/-- No sequence of calls adds a root user or takes one away. -/
theorem rootIds_run (config : UserConfig) (db : UserDatabase registry)
    (calls : List (Session × UserCall)) :
    (Machine.run (step config) db calls).rootIds = db.rootIds := by
  refine Machine.run_invariant (I := fun db' : UserDatabase registry => db'.rootIds = db.rootIds)
    (fun db' call h => h ▸ ?_) rfl calls
  cases hfind : db'.1.users.find call.1.id with
  | none => exact congrArg rootIds (Subtype.ext (by simp [step, userStep, hfind]))
  | some actor =>
    rcases userChange_userStep config hfind with hsame | ⟨hmax, hchange⟩
    · exact congrArg rootIds (Subtype.ext hsame)
    · obtain ⟨-, hraised, hroot⟩ := hchange.respectsHierarchy hmax
      ext id
      constructor
      · rintro ⟨u, hu, rfl, hrole⟩
        obtain ⟨u', hu', hid, hrole'⟩ := hraised u hu (hrole ▸ hmax)
        exact ⟨u', hu', hid, hrole'.trans hrole⟩
      · rintro ⟨u, hu, rfl, hrole⟩
        obtain ⟨u', hu', hid, hrole', -⟩ := hroot u hu hrole
        exact ⟨u', hu', hid, hrole'⟩

end UserDatabase

end XinghaiApi
