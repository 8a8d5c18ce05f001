import XinghaiApi.Model.Subscription.Consume

/-!
# The life of a subscription and the groups of its user

A subscription is created from a plan and adds the plan's upgrade group to the groups of the
user. It ends by expiry, by an administrator or by an upgrade to another plan, and the group is
taken back or replaced. The groups of a user are one text with separators between the names.
-/

namespace XinghaiApi

open Civil Text UserSubscription

/-! ### Groups of a user -/

variable {sub : UserSubscription} {now : Int} {db' db : DB} {target : String}

def isGroupSeparator (c : Char) : Bool :=
  c ∈ [',', '，', ';', '；', '\n', '\t', ' ']

/-- The distinct group names of a user, in the order they are written. -/
def splitUserGroups (userGroup : String) : List String :=
  (((fieldsFunc isGroupSeparator userGroup).map trimSpace).filter (· ≠ "")).eraseDups

def DB.userGroup (db : DB) (userId : Int) : String :=
  ((db.users.find userId).map User.group).getD ""

/-- `getUserGroupByIdTx`: a user without a row reads as the empty text. -/
def getUserGroupById (db : DB) (userId : Int) : Except Error String :=
  if userId ≤ 0 then .error .invalidUserId else .ok (db.userGroup userId)

def DB.setUserGroup (db : DB) (userId : Int) (group : String) : DB :=
  { db with users := db.users.modify userId fun u => { u with group := group } }

/-- The groups of a user once `upgradeGroup` is taken away, nothing if they do not hold it. -/
def withoutGroup (currentGroup upgradeGroup prevUserGroup : String) : Option String :=
  let currentGroups := splitUserGroups currentGroup
  let newGroups := currentGroups.filter (· ≠ upgradeGroup)
  if upgradeGroup ∉ currentGroups then none
  else if newGroups ≠ [] then some (join "," newGroups)
  else if trimSpace prevUserGroup ≠ "" then some (trimSpace prevUserGroup)
  else some "default"

/-- The groups a user falls back to when the subscription ends. -/
def UserSubscription.revertTarget (sub : UserSubscription) (currentGroup : String) :
    Option String :=
  if trimSpace sub.downgradeGroup ≠ "" then some (trimSpace sub.downgradeGroup)
  else if trimSpace sub.upgradeGroup = "" then none
  else withoutGroup currentGroup (trimSpace sub.upgradeGroup) sub.prevUserGroup

/-- Write the fallback groups of an ended subscription; also returns the text written. -/
def DB.revertUserGroup (db : DB) (sub : UserSubscription) (currentGroup : String) : DB × String :=
  match sub.revertTarget currentGroup with
  | none        => (db, "")
  | some target =>
    if target = "" ∨ target = currentGroup then (db, "")
    else (db.setUserGroup sub.userId target, target)

def UserSubscription.holdsGroup (userId now : Int) (r : UserSubscription) : Bool :=
  r.userId == userId && r.status == .active && decide (now < r.endTime) && r.upgradeGroup != ""

/-- Another unexpired subscription of the user has an upgrade group. -/
def DB.othersHold (db : DB) (sub : UserSubscription) (now : Int) : Bool :=
  db.subscriptions.rows.any fun r => r.holdsGroup sub.userId now && r.id != sub.id

/-- `downgradeUserGroupForSubscriptionTx`: nothing changes while another unexpired subscription
of the user has an upgrade group, whichever group that is. -/
def downgradeUserGroupForSubscription (sub : UserSubscription) (now : Int) (db : DB) :
    Except Error (DB × String) :=
  if trimSpace sub.downgradeGroup = "" ∧ trimSpace sub.upgradeGroup = "" then .ok (db, "")
  else
    match getUserGroupById db sub.userId with
    | .error e         => .error e
    | .ok currentGroup =>
      if db.othersHold sub now then .ok (db, "")
      else .ok (db.revertUserGroup sub currentGroup)

/-- What is written to the users when a group is given back. -/
lemma revertUserGroup_users (db : DB) (sub : UserSubscription) (currentGroup : String) :
    (db.revertUserGroup sub currentGroup).1.users =
      match sub.revertTarget currentGroup with
      | none        => db.users
      | some target =>
        if target = "" ∨ target = currentGroup then db.users
        else (db.setUserGroup sub.userId target).users := by
  simp only [DB.revertUserGroup]
  cases sub.revertTarget currentGroup with
  | none => rfl
  | some target => exact apply_ite (fun r : DB × String => r.1.users) _ _ _

/-- Giving a group back writes nothing but the row of the user. -/
lemma revertUserGroup_frame (db : DB) (sub : UserSubscription) (currentGroup : String) :
    ∃ users, (db.revertUserGroup sub currentGroup).1 = { db with users := users } := by
  simp only [DB.revertUserGroup]
  cases sub.revertTarget currentGroup with
  | none => exact ⟨db.users, rfl⟩
  | some target =>
    by_cases hsame : target = "" ∨ target = currentGroup
    · exact ⟨db.users, by simp [hsame]⟩
    · exact ⟨_, by simp only [hsame]; rfl⟩

section

variable (h : downgradeUserGroupForSubscription sub now db = .ok (db', target))

include h

/-- Ending a subscription keeps the groups when it has none to give back or another unexpired
subscription has one, and reverts them otherwise. -/
lemma downgradeUserGroup_cases :
    ((trimSpace sub.downgradeGroup = "" ∧ trimSpace sub.upgradeGroup = "" ∨
        db.othersHold sub now = true) ∧ db' = db) ∨
    (db.othersHold sub now = false ∧
      db' = (db.revertUserGroup sub (db.userGroup sub.userId)).1) := by
  simp only [downgradeUserGroupForSubscription, getUserGroupById] at h
  by_cases hnone : trimSpace sub.downgradeGroup = "" ∧ trimSpace sub.upgradeGroup = ""
  · rw [if_pos hnone] at h
    cases h
    exact Or.inl ⟨Or.inl hnone, rfl⟩
  by_cases huser : sub.userId ≤ 0
  · simp only [hnone, huser, if_false] at h
    cases h
  simp only [hnone, huser, if_false] at h
  by_cases hother : db.othersHold sub now = true
  · rw [if_pos hother] at h
    cases h
    exact Or.inl ⟨Or.inr hother, rfl⟩
  · rw [if_neg hother, Except.ok.injEq] at h
    exact Or.inr ⟨by simpa using hother, by rw [h]⟩

lemma downgradeUserGroup_frame : ∃ users, db' = { db with users := users } := by
  rcases downgradeUserGroup_cases h with ⟨-, rfl⟩ | ⟨-, rfl⟩
  · exact ⟨db'.users, rfl⟩
  · exact revertUserGroup_frame _ _ _

end

/-! ### Creation -/

/-- The groups of a user once the upgrade group of a plan is added. -/
def addGroup (currentGroup upgradeGroup : String) : String :=
  if currentGroup ≠ "" then currentGroup ++ "," ++ upgradeGroup else upgradeGroup

/-- The plan has an upgrade group that the user does not hold yet. -/
def DB.gainsGroup (db : DB) (userId : Int) (upgradeGroup : String) : Bool :=
  upgradeGroup != "" && decide (upgradeGroup ∉ splitUserGroups (db.userGroup userId))

/-- The users after a creation. -/
def DB.usersWithGroup (db : DB) (userId : Int) (upgradeGroup : String) : Table User :=
  if db.gainsGroup userId upgradeGroup then
    (db.setUserGroup userId (addGroup (db.userGroup userId) upgradeGroup)).users
  else db.users

def createUserSubscriptionFromPlan (loc : Location) (now userId : Int) (plan : SubscriptionPlan)
    (source : String) (db : DB) : Except Error (DB × UserSubscription) :=
  let bought (r : UserSubscription) : Bool := r.userId == userId && r.planId == plan.id
  if plan.id = 0 then .error .invalidPlan
  else if userId ≤ 0 then .error .invalidUser
  else if 0 < plan.maxPurchasePerUser ∧
      plan.maxPurchasePerUser ≤ db.subscriptions.rows.countP bought then
    .error .purchaseLimitReached
  else
    match calcPlanEndTime loc now plan with
    | .error e    => .error e
    | .ok endUnix =>
      let upgradeGroup := trimSpace plan.upgradeGroup
      let prevGroup := if db.gainsGroup userId upgradeGroup then db.userGroup userId else ""
      let sub := fromPlan loc userId plan source now endUnix prevGroup
      .ok (
        { db with
          users := db.usersWithGroup userId upgradeGroup
          subscriptions := db.subscriptions.insert sub },
        { sub with id := db.subscriptions.next })

/-- A creation inserts one row made from the plan and writes at most the groups of the user. -/
lemma createFromPlan_frame {loc : Location} {userId : Int} {plan : SubscriptionPlan}
    {source : String}
    (h : createUserSubscriptionFromPlan loc now userId plan source db = .ok (db', sub)) :
    ∃ endUnix prevGroup, calcPlanEndTime loc now plan = .ok endUnix ∧
      db' = { db with
        users := db.usersWithGroup userId (trimSpace plan.upgradeGroup)
        subscriptions := db.subscriptions.insert
          (fromPlan loc userId plan source now endUnix prevGroup) } := by
  unfold createUserSubscriptionFromPlan at h
  simp only at h
  split at h
  · cases h
  split at h
  · cases h
  split at h
  · cases h
  split at h
  · cases h
  · rename_i endUnix hend
    obtain ⟨rfl, -⟩ := Prod.mk.inj (Except.ok.inj h)
    exact ⟨endUnix, _, hend, rfl⟩

/-- `upgradeUserSubscriptionTx`: the source subscription is cancelled and one of the target plan
is created, by a clock that reads `created`. -/
def upgradeUserSubscription (loc : Location) (now created userId sourceId : Int)
    (target : SubscriptionPlan) (db : DB) : Except Error (DB × UserSubscription) :=
  match db.subscriptions.find sourceId with
  | none        => .error .recordNotFound
  | some source =>
    if source.userId ≠ userId then .error .recordNotFound
    else if source.status ≠ .active ∨ source.endTime ≤ now then .error .sourceSubscriptionEnded
    else
      match downgradeUserGroupForSubscription source now db with
      | .error e      => .error e
      | .ok (db₁, _) =>
        let cancelled := { source with status := .cancelled, endTime := now }
        createUserSubscriptionFromPlan loc created userId target "upgrade"
          (db₁.saveSubscription cancelled)

/-! ### Endings -/

/-- The text of an administrator's ending that changed the groups of the user. -/
def revertMessage (target : String) : String :=
  if target = "" then "" else "用户分组将回退到 " ++ target

def adminInvalidateUserSubscription (now userSubscriptionId : Int) (db : DB) :
    Except Error (DB × String) :=
  if userSubscriptionId ≤ 0 then .error .invalidUserSubscriptionId
  else
    match db.subscriptions.find userSubscriptionId with
    | none     => .error .recordNotFound
    | some sub =>
      let sub' := { sub with status := .cancelled, endTime := now }
      match downgradeUserGroupForSubscription sub' now (db.saveSubscription sub') with
      | .error e          => .error e
      | .ok (db', target) => .ok (db', revertMessage target)

def adminDeleteUserSubscription (now userSubscriptionId : Int) (db : DB) :
    Except Error (DB × String) :=
  if userSubscriptionId ≤ 0 then .error .invalidUserSubscriptionId
  else
    match db.subscriptions.find userSubscriptionId with
    | none     => .error .recordNotFound
    | some sub =>
      match downgradeUserGroupForSubscription sub now db with
      | .error e          => .error e
      | .ok (db', target) =>
        .ok ({ db' with subscriptions := db'.subscriptions.delete userSubscriptionId },
          revertMessage target)

/-- An active subscription of the user whose time is over. -/
def UserSubscription.isDue (userId now : Int) (r : UserSubscription) : Bool :=
  r.userId == userId && r.status == .active && decide (0 < r.endTime) && decide (r.endTime ≤ now)

def DB.markExpired (db : DB) (userId now : Int) : DB :=
  let expired := db.subscriptions.modifyWhere (isDue userId now)
    fun r => { r with status := .expired }
  { db with subscriptions := expired }

/-- `ORDER BY end_time desc, id desc`. -/
def endTimeDesc (a b : UserSubscription) : Prop :=
  b.endTime < a.endTime ∨ (b.endTime = a.endTime ∧ b.id ≤ a.id)

instance : DecidableRel endTimeDesc := fun _ _ => inferInstanceAs (Decidable (_ ∨ _))

/-- The ended subscription that decides the groups the user falls back to. -/
def DB.lastExpired (db : DB) (userId : Int) : Option UserSubscription :=
  (db.subscriptions.select
    (fun r => r.userId == userId && r.status == .expired &&
      (r.downgradeGroup != "" || r.upgradeGroup != "")) endTimeDesc).head?

/-- The transaction of `ExpireDueSubscriptions` for one user with a due subscription. -/
def expireDueSubscriptions (now userId : Int) (db : DB) : DB × String :=
  let db' := db.markExpired userId now
  if db'.subscriptions.rows.any (holdsGroup userId now) then (db', "")
  else
    match db'.lastExpired userId with
    | none      => (db', "")
    | some last => db'.revertUserGroup last (db'.userGroup userId)

/-! ### Edits of the period -/

def adminUpdateUserSubscriptionPeriod (userSubscriptionId startTime endTime : Int) (db : DB) :
    Except Error DB :=
  if userSubscriptionId ≤ 0 then .error .invalidUserSubscriptionId
  else if startTime ≤ 0 ∨ endTime ≤ 0 then .error .startEndNotPositive
  else if endTime ≤ startTime then .error .endNotAfterStart
  else
    match db.subscriptions.find userSubscriptionId with
    | none     => .error .recordNotFound
    | some sub =>
      let status := if sub.status = .expired then .active else sub.status
      .ok (db.saveSubscription
        { sub with startTime := startTime, endTime := endTime, status := status })

def adminExtendPlanSubscriptions (loc : Location) (now planId : Int) (durationUnit : String)
    (durationValue customSeconds : Int) (db : DB) : Except Error DB :=
  let extended (start : Int) :=
    calcSubscriptionEndTime loc start (trimSpace durationUnit) durationValue customSeconds
  if planId ≤ 0 then .error .invalidPlanArg
  else
    match extended now with
    | .error e => .error e
    | .ok _    =>
      match getSubscriptionPlanById db planId with
      | .error e => .error e
      | .ok plan =>
        -- the duration has been checked above, so it fails for no row
        let extend (r : UserSubscription) : UserSubscription :=
          match extended r.endTime with
          | .error _    => r
          | .ok endTime => { r with endTime := endTime }
        .ok { db with
          subscriptions := db.subscriptions.modifyWhere (·.activeOfPlan plan now) extend }

end XinghaiApi
