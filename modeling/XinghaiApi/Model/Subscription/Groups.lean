import XinghaiApi.Model.Subscription.Quota

/-!
# Groups that outlive their subscriptions

A subscription lends its upgrade group to the user, and the group is to go when the subscriptions
that lend it have ended. Whether it does is decided from one ended subscription and from whether
any other upgraded subscription is left, not from the groups the others lend. The last section
gives the condition on each step under which a user without active subscriptions has exactly the
groups they started with.
-/

namespace XinghaiApi

open Civil Machine Text DB Table SubscriptionTx Location List

/-! ### The groups in a text -/

variable {s x current g : String} {db : DB} {userId : Int}

lemma mem_splitUserGroups :
    x ∈ splitUserGroups s ↔
      (∃ field ∈ fieldsFunc isGroupSeparator s, trimSpace field = x) ∧ x ≠ "" := by
  simp only [splitUserGroups, mem_eraseDups, mem_filter, mem_map, decide_eq_true_eq]

/-- A group name is not empty, has no white space at its ends and no separator. -/
lemma splitUserGroups_spec (h : x ∈ splitUserGroups s) :
    x ≠ "" ∧ trimSpace x = x ∧ ∀ c ∈ x.toList, isGroupSeparator c = false := by
  obtain ⟨⟨field, hfield, rfl⟩, hne⟩ := mem_splitUserGroups.mp h
  refine ⟨hne, trimSpace_trimSpace field, ?_⟩
  intro c hc
  exact not_sep_of_mem_fieldsFunc hfield c (mem_of_mem_trimSpace hc)

lemma mem_splitUserGroups_join {names : List String}
    (h : ∀ name ∈ names, name ∈ splitUserGroups s) :
    x ∈ splitUserGroups (join "," names) ↔ x ∈ names := by
  have hfields : fieldsFunc isGroupSeparator (join "," names) = names := by
    have hcomma : isGroupSeparator ',' = true := by decide
    exact fieldsFunc_join hcomma (fun name hname => (splitUserGroups_spec (h name hname)).1)
      (fun name hname => (splitUserGroups_spec (h name hname)).2.2)
  rw [mem_splitUserGroups, hfields]
  constructor
  · rintro ⟨⟨name, hname, rfl⟩, -⟩
    rw [(splitUserGroups_spec (h name hname)).2.1]
    exact hname
  · intro hx
    obtain ⟨hne, htrim, -⟩ := splitUserGroups_spec (h x hx)
    exact ⟨⟨x, hx, htrim⟩, hne⟩

/-- The text names exactly one group, itself. -/
def NamesOneGroup (g : String) : Prop := ∀ x ∈ splitUserGroups g, x = g

instance (g : String) : Decidable (NamesOneGroup g) :=
  inferInstanceAs (Decidable (∀ x ∈ splitUserGroups g, x = g))

lemma mem_splitUserGroups_addGroup :
    x ∈ splitUserGroups (addGroup current g) ↔
      x ∈ splitUserGroups current ∨ x ∈ splitUserGroups g := by
  by_cases hempty : current = ""
  · subst hempty
    simp [addGroup, mem_splitUserGroups]
  · have hcomma : isGroupSeparator ',' = true := by decide
    have hfields : fieldsFunc isGroupSeparator (addGroup current g) =
        fieldsFunc isGroupSeparator current ++ fieldsFunc isGroupSeparator g := by
      simp only [addGroup, ne_eq, hempty, not_false_eq_true, if_true]
      exact fieldsFunc_append_sep hcomma current g
    simp only [mem_splitUserGroups, hfields, mem_append]
    constructor
    · rintro ⟨⟨field, hfield | hfield, htrim⟩, hne⟩
      · exact Or.inl ⟨⟨field, hfield, htrim⟩, hne⟩
      · exact Or.inr ⟨⟨field, hfield, htrim⟩, hne⟩
    · rintro (⟨⟨field, hfield, htrim⟩, hne⟩ | ⟨⟨field, hfield, htrim⟩, hne⟩)
      · exact ⟨⟨field, Or.inl hfield, htrim⟩, hne⟩
      · exact ⟨⟨field, Or.inr hfield, htrim⟩, hne⟩

/-- When another group stays, exactly the named group is taken out of the text. -/
lemma mem_withoutGroup (hheld : g ∈ splitUserGroups current)
    (hstays : ∃ x ∈ splitUserGroups current, x ≠ g) (prev : String) :
    ∃ target, withoutGroup current g prev = some target ∧ target ≠ "" ∧
      ∀ x, x ∈ splitUserGroups target ↔ x ∈ splitUserGroups current ∧ x ≠ g := by
  have hjoin : ∀ x, x ∈ splitUserGroups (join "," ((splitUserGroups current).filter (· ≠ g))) ↔
      x ∈ splitUserGroups current ∧ x ≠ g := by
    intro x
    rw [mem_splitUserGroups_join fun y hy => mem_of_mem_filter hy]
    simp
  obtain ⟨y, hy, hyne⟩ := hstays
  have hleft : (splitUserGroups current).filter (· ≠ g) ≠ [] :=
    ne_nil_of_mem (mem_filter.mpr ⟨hy, by simpa using hyne⟩)
  refine ⟨_, ?_, ?_, hjoin⟩
  · simp only [withoutGroup]
    rw [if_neg (not_not.mpr hheld), if_pos hleft]
  · intro hempty
    have hmem := (hjoin y).mpr ⟨hy, hyne⟩
    rw [hempty] at hmem
    simp [mem_splitUserGroups] at hmem

/-! ### The groups of a user -/

def DB.groups (db : DB) (userId : Int) : List String :=
  splitUserGroups (db.userGroup userId)

lemma userGroup_setUserGroup_self {user : User} (h : db.users.find userId = some user)
    (group : String) : (db.setUserGroup userId group).userGroup userId = group := by
  have hkey : Row.key user = userId := (Table.find_eq_some_iff.mp h).2
  simp [userGroup, setUserGroup, Table.modify, Table.find_modifyWhere, h, hkey, Row.withKey]

lemma userGroup_setUserGroup_of_ne {other : Int} (h : other ≠ userId)
    (group : String) : (db.setUserGroup other group).userGroup userId = db.userGroup userId := by
  simp only [userGroup, setUserGroup, Table.modify, Table.find_modifyWhere]
  cases hfind : db.users.find userId with
  | none => rfl
  | some user =>
    have hkey : Row.key user = userId := (Table.find_eq_some_iff.mp hfind).2
    simp [hkey, Ne.symm h]

lemma find_setUserGroup {user : User} (h : db.users.find userId = some user) (other : Int)
    (group : String) : ∃ user', (db.setUserGroup other group).users.find userId = some user' := by
  simp [setUserGroup, Table.modify, Table.find_modifyWhere, h]

/-! ### The invariant -/

/-- The subscription is active and lends the group `x` to the user. -/
def UserSubscription.Lends (userId : Int) (x : String) (r : UserSubscription) : Prop :=
  r.userId = userId ∧ r.status = .active ∧ r.upgradeGroup = x

instance (userId : Int) (x : String) (r : UserSubscription) : Decidable (r.Lends userId x) :=
  inferInstanceAs (Decidable (_ ∧ _ ∧ _))

/-- A row as a plan without a downgrade group leaves it. -/
def UserSubscription.OnlyLends (r : UserSubscription) : Prop :=
  r.downgradeGroup = "" ∧ trimSpace r.upgradeGroup = r.upgradeGroup

/-- The user has the groups `own`, and beyond them only what an active subscription lends. -/
structure DB.GroupsAccounted (own : List String) (userId : Int) (db : DB) : Prop where
  user : ∃ user, db.users.find userId = some user
  rows : ∀ r ∈ db.subscriptions, r.userId = userId → r.OnlyLends
  kept : ∀ x ∈ own, x ∈ db.groups userId
  lent : ∀ x ∈ db.groups userId, x ∈ own ∨ ∃ r ∈ db.subscriptions, r.Lends userId x

section

variable {own : List String} {userId : Int} {db db' : DB}

section

variable (h : db.GroupsAccounted own userId)

include h

/-- With no active subscription left the groups are the user's own. -/
lemma DB.GroupsAccounted.eq_own
    (hnone : ∀ r ∈ db.subscriptions, r.userId = userId → r.status ≠ .active) (x : String) :
    x ∈ db.groups userId ↔ x ∈ own := by
  constructor
  · intro hx
    rcases h.lent x hx with hown | ⟨r, hr, huser, hactive, -⟩
    · exact hown
    · exact absurd hactive (hnone r hr huser)
  · exact h.kept x

/-- A step that gives the user no group, takes none of their own, and leaves a lender to each
borrowed group that stays. -/
lemma DB.GroupsAccounted.of_shrink (huser : ∃ user, db'.users.find userId = some user)
    (hrows : ∀ r ∈ db'.subscriptions, r.userId = userId → r.OnlyLends)
    (hgroups : ∀ x ∈ db'.groups userId, x ∈ db.groups userId)
    (hkept : ∀ x ∈ own, x ∈ db'.groups userId)
    (hlent : ∀ x ∈ db'.groups userId, ∀ r ∈ db.subscriptions, r.Lends userId x →
      x ∈ own ∨ ∃ r' ∈ db'.subscriptions, r'.Lends userId x) : db'.GroupsAccounted own userId := by
  refine ⟨huser, hrows, hkept, ?_⟩
  intro x hx
  rcases h.lent x (hgroups x hx) with hown | ⟨r, hr, hlends⟩
  · exact Or.inl hown
  · exact hlent x hx r hr hlends

/-- A step of others: the row of the user and their subscriptions are as before. -/
lemma DB.GroupsAccounted.of_others (huser : ∃ user, db'.users.find userId = some user)
    (hgroup : db'.userGroup userId = db.userGroup userId)
    (hrows : ∀ r, r.userId = userId → (r ∈ db'.subscriptions ↔ r ∈ db.subscriptions)) :
    db'.GroupsAccounted own userId := by
  have hsame : db'.groups userId = db.groups userId := by simp only [groups, hgroup]
  refine h.of_shrink huser (fun r hr hu => h.rows r ((hrows r hu).mp hr) hu) ?_ ?_ ?_
  · intro x hx
    rwa [hsame] at hx
  · intro x hx
    rw [hsame]
    exact h.kept x hx
  · intro x _ r hr hlends
    exact Or.inr ⟨r, (hrows r hlends.1).mpr hr, hlends⟩

end

end

/-! ### Taking a group back -/

section

variable {userId : Int} {db : DB} {sub : UserSubscription}

lemma revertTarget_of_onlyLends (hsub : sub.OnlyLends) (current : String) :
    sub.revertTarget current =
      if sub.upgradeGroup = "" then none
      else withoutGroup current sub.upgradeGroup sub.prevUserGroup := by
  have hempty : trimSpace "" = "" := by decide
  simp [UserSubscription.revertTarget, hsub.1, hsub.2, hempty]

lemma users_revertUserGroup (h : ∃ user, db.users.find userId = some user) (current : String) :
    ∃ user, (db.revertUserGroup sub current).1.users.find userId = some user := by
  obtain ⟨user, huser⟩ := h
  rw [revertUserGroup_users]
  cases sub.revertTarget current with
  | none => exact ⟨user, huser⟩
  | some target =>
    by_cases hsame : target = "" ∨ target = current
    · simp only [hsame]
      exact ⟨user, huser⟩
    · simp only [hsame]
      exact find_setUserGroup huser _ _

lemma userGroup_revertUserGroup_of_ne (h : sub.userId ≠ userId) (current : String) :
    (db.revertUserGroup sub current).1.userGroup userId = db.userGroup userId := by
  have hread : ∀ d : DB, d.userGroup userId = ((d.users.find userId).map User.group).getD "" :=
    fun _ => rfl
  rw [hread, revertUserGroup_users]
  cases sub.revertTarget current with
  | none => rfl
  | some target =>
    by_cases hsame : target = "" ∨ target = current
    · simp only [hsame]
      rfl
    · simp only [hsame]
      exact userGroup_setUserGroup_of_ne h target

/-- When another group of the user stays, exactly the lent group is taken away. -/
lemma groups_revertUserGroup (huser : ∃ user, db.users.find sub.userId = some user)
    (hsub : sub.OnlyLends) (hstays : ∃ x ∈ db.groups sub.userId, x ≠ sub.upgradeGroup)
    (x : String) :
    x ∈ (db.revertUserGroup sub (db.userGroup sub.userId)).1.groups sub.userId ↔
      x ∈ db.groups sub.userId ∧ x ≠ sub.upgradeGroup := by
  obtain ⟨user, huser⟩ := huser
  by_cases hheld : sub.upgradeGroup ∈ db.groups sub.userId
  · have hne : sub.upgradeGroup ≠ "" := (splitUserGroups_spec hheld).1
    obtain ⟨target, htarget, hfull, hmem⟩ := mem_withoutGroup hheld hstays sub.prevUserGroup
    simp only [revertUserGroup, revertTarget_of_onlyLends hsub, hne, if_false, htarget, hfull,
      false_or]
    split
    · rename_i hsame
      rw [hsame] at hmem
      exact hmem x
    · rw [groups, userGroup_setUserGroup_self huser]
      exact hmem x
  · have hnone : sub.revertTarget (db.userGroup sub.userId) = none := by
      rw [revertTarget_of_onlyLends hsub]
      split
      · rfl
      · exact if_pos hheld
    simp only [revertUserGroup, hnone]
    constructor
    · intro hx
      exact ⟨hx, fun h => hheld (h ▸ hx)⟩
    · exact And.left

end

/-! ### Endings -/

variable {o : UserSubscription}

/-- The group of an ended subscription is taken back only if it is not the user's own, and it is
kept only if it is their own or another active subscription lends it. -/
def DB.EndsCleanly (own : List String) (db : DB) (r : UserSubscription) (now : Int) : Prop :=
  r.upgradeGroup ∈ db.groups r.userId →
    if db.othersHold r now then
      r.upgradeGroup ∈ own ∨
        ∃ o ∈ db.subscriptions.rows, o.id ≠ r.id ∧ o.Lends r.userId r.upgradeGroup
    else r.upgradeGroup ∉ own

instance (own : List String) (db : DB) (r : UserSubscription) (now : Int) :
    Decidable (db.EndsCleanly own r now) :=
  inferInstanceAs (Decidable (_ → ite _ _ _))

/-- The rows after the subscription has ended: the others, and at most an inactive copy of it. -/
structure Ended (r : UserSubscription) (t t' : Table UserSubscription) : Prop where
  others : ∀ o ∈ t, o.id ≠ r.id → o ∈ t'
  rest : ∀ o ∈ t', o ∈ t ∨ (o.status ≠ .active ∧ o.userId = r.userId ∧
    o.downgradeGroup = r.downgradeGroup ∧ o.upgradeGroup = r.upgradeGroup)

def EndedUsers (db : DB) (r : UserSubscription) (now : Int) (users : Table User) : Prop :=
  (users = db.users ∧ (trimSpace r.upgradeGroup = "" ∨ db.othersHold r now = true)) ∨
    (db.othersHold r now = false ∧ users = (db.revertUserGroup r (db.userGroup r.userId)).1.users)

lemma groups_congr {db' : DB} (h : db'.users = db.users) (userId : Int) :
    db'.groups userId = db.groups userId := by
  simp only [groups, userGroup, h]

section

variable {own : List String} {userId now : Int} {db db' : DB} {r : UserSubscription}

lemma eq_of_id_eq (hr : r ∈ db.subscriptions) (ho : o ∈ db.subscriptions) (h : o.id = r.id) :
    o = r :=
  eq_of_key_eq ho hr h

lemma EndedUsers.user (husers : EndedUsers db r now db'.users)
    (h : ∃ user, db.users.find userId = some user) :
    ∃ user, db'.users.find userId = some user := by
  rcases husers with ⟨husers, -⟩ | ⟨-, husers⟩
  · rw [husers]
    exact h
  · rw [husers]
    exact users_revertUserGroup h _

section

variable (h : db.GroupsAccounted own userId)

include h

lemma DB.GroupsAccounted.ended_rows (hr : r ∈ db.subscriptions)
    (hended : Ended r db.subscriptions db'.subscriptions) :
    ∀ o ∈ db'.subscriptions, o.userId = userId → o.OnlyLends := by
  intro o ho huser
  rcases hended.rest o ho with hold | ⟨-, hu, hdown, hup⟩
  · exact h.rows o hold huser
  · have hlends := h.rows r hr (hu ▸ huser)
    exact ⟨hdown.trans hlends.1, by rw [hup]; exact hlends.2⟩

lemma DB.GroupsAccounted.ended (hown : own ≠ []) (hr : r ∈ db.subscriptions)
    (hru : r.userId = userId) (hclean : db.EndsCleanly own r now)
    (hended : Ended r db.subscriptions db'.subscriptions) (husers : EndedUsers db r now db'.users) :
    db'.GroupsAccounted own userId := by
  subst hru
  have hlends := h.rows r hr rfl
  have huser := husers.user h.user
  have hrows := h.ended_rows hr hended
  rcases husers with ⟨husers, hskip⟩ | ⟨hnone, husers⟩
  · have hsame := groups_congr husers r.userId
    refine h.of_shrink huser hrows ?_ ?_ ?_ <;> rw [hsame]
    · exact fun _ hx => hx
    · exact h.kept
    intro x hx o ho hlend
    by_cases hid : o.id = r.id
    · -- the ended subscription itself: its group is held, so the others were asked
      obtain rfl := eq_of_id_eq hr ho hid
      obtain rfl : o.upgradeGroup = x := hlend.2.2
      have hothers : db.othersHold o now = true := by
        rcases hskip with hempty | hothers
        · rw [hlends.2] at hempty
          exact absurd hempty (splitUserGroups_spec hx).1
        · exact hothers
      have hheir := hclean hx
      rw [if_pos hothers] at hheir
      rcases hheir with hmine | ⟨o', ho', hne, hlend'⟩
      · exact Or.inl hmine
      · exact Or.inr ⟨o', hended.others o' ho' hne, hlend'⟩
    · exact Or.inr ⟨o, hended.others o ho hid, hlend⟩
  · have hforeign : ∀ x ∈ own, x ≠ r.upgradeGroup := by
      intro x hx hxg
      subst hxg
      have hnot := hclean (h.kept _ hx)
      rw [hnone] at hnot
      exact hnot hx
    obtain ⟨y, hy⟩ := exists_mem_of_ne_nil own hown
    have hgroups := groups_revertUserGroup h.user hlends ⟨y, h.kept y hy, hforeign y hy⟩
    have hsame := groups_congr husers r.userId
    rw [← hsame] at hgroups
    refine h.of_shrink huser hrows ?_ ?_ ?_
    · intro x hx
      exact ((hgroups x).mp hx).1
    · intro x hx
      exact (hgroups x).mpr ⟨h.kept x hx, hforeign x hx⟩
    · intro x hx o ho hlend
      have hne : o.id ≠ r.id := by
        intro hid
        obtain rfl := eq_of_id_eq hr ho hid
        exact ((hgroups x).mp hx).2 hlend.2.2.symm
      exact Or.inr ⟨o, hended.others o ho hne, hlend⟩

lemma DB.GroupsAccounted.ended_other (hr : r ∈ db.subscriptions) (hru : r.userId ≠ userId)
    (hended : Ended r db.subscriptions db'.subscriptions) (husers : EndedUsers db r now db'.users) :
    db'.GroupsAccounted own userId := by
  have hread : ∀ d d' : DB, d.users = d'.users → d.userGroup userId = d'.userGroup userId := by
    intro d d' hd
    simp only [userGroup, hd]
  refine h.of_others (husers.user h.user) ?_ ?_
  · rcases husers with ⟨husers, -⟩ | ⟨-, husers⟩
    · exact hread _ _ husers
    · rw [hread _ _ husers]
      exact userGroup_revertUserGroup_of_ne hru _
  · intro o hou
    constructor
    · intro ho
      rcases hended.rest o ho with hold | ⟨-, hu, -⟩
      · exact hold
      · exact absurd (hu.symm.trans hou) hru
    · intro ho
      refine hended.others o ho fun hid => ?_
      obtain rfl := eq_of_id_eq hr ho hid
      exact hru hou

end

end

/-! ### Transactions of the life of a subscription -/

section

variable {own : List String} {userId now : Int} {db db' : DB} {loc : Location}
  {plan : SubscriptionPlan} {source message : String} {sub r r' : UserSubscription}

/-- The groups after a creation: none is lost, and only those of the plan are new. -/
lemma groups_usersWithGroup (huser : ∃ user, db.users.find userId = some user)
    (hdb' : db'.users = db.usersWithGroup userId g) :
    (∃ user, db'.users.find userId = some user) ∧
      (∀ x ∈ db'.groups userId, x ∈ db.groups userId ∨ x ∈ splitUserGroups g) ∧
      (∀ x ∈ db.groups userId, x ∈ db'.groups userId) := by
  obtain ⟨user, huser⟩ := huser
  by_cases hgains : db.gainsGroup userId g = true
  · rw [usersWithGroup, if_pos hgains] at hdb'
    have hgroups : db'.groups userId = splitUserGroups (addGroup (db.userGroup userId) g) := by
      rw [groups_congr hdb', groups, userGroup_setUserGroup_self huser]
    rw [hgroups, hdb']
    refine ⟨find_setUserGroup huser _ _, ?_, ?_⟩
    · intro x hx
      exact mem_splitUserGroups_addGroup.mp hx
    · intro x hx
      exact mem_splitUserGroups_addGroup.mpr (Or.inl hx)
  · rw [usersWithGroup, if_neg hgains] at hdb'
    rw [groups_congr hdb', hdb']
    exact ⟨⟨user, huser⟩, fun _ hx => Or.inl hx, fun _ hx => hx⟩

/-- A purchase by the user of a plan that lends one group and has no downgrade group. -/
lemma DB.GroupsAccounted.create (h : db.GroupsAccounted own userId)
    (hdown : trimSpace plan.downgradeGroup = "")
    (hone : NamesOneGroup (trimSpace plan.upgradeGroup))
    (hcreate : createUserSubscriptionFromPlan loc now userId plan source db = .ok (db', sub)) :
    db'.GroupsAccounted own userId := by
  obtain ⟨endUnix, prevGroup, -, hdb'⟩ := createFromPlan_frame hcreate
  have husers : db'.users = db.usersWithGroup userId (trimSpace plan.upgradeGroup) := by
    rw [hdb']
  have hinsert : db'.subscriptions = db.subscriptions.insert
      (UserSubscription.fromPlan loc userId plan source now endUnix prevGroup) := by
    rw [hdb']
  obtain ⟨huser, hgrow, hkeep⟩ := groups_usersWithGroup h.user husers
  refine ⟨huser, ?_, fun x hx => hkeep x (h.kept x hx), ?_⟩
  · intro r hr huser
    rw [hinsert] at hr
    rcases mem_insert.mp hr with hold | rfl
    · exact h.rows r hold huser
    · exact ⟨hdown, trimSpace_trimSpace plan.upgradeGroup⟩
  · intro x hx
    rw [hinsert]
    rcases hgrow x hx with hold | hnew
    · rcases h.lent x hold with hown | ⟨r, hr, hlends⟩
      · exact Or.inl hown
      · exact Or.inr ⟨r, mem_insert.mpr (Or.inl hr), hlends⟩
    · -- the new subscription lends the group it brought
      refine Or.inr ⟨_, mem_insert.mpr (Or.inr rfl), rfl, rfl, ?_⟩
      exact (hone x hnew).symm

/-- A purchase by another user. -/
lemma DB.GroupsAccounted.create_other {other : Int} (h : db.GroupsAccounted own userId)
    (hne : other ≠ userId)
    (hcreate : createUserSubscriptionFromPlan loc now other plan source db = .ok (db', sub)) :
    db'.GroupsAccounted own userId := by
  obtain ⟨endUnix, prevGroup, -, rfl⟩ := createFromPlan_frame hcreate
  obtain ⟨user, huser⟩ := h.user
  refine h.of_others ?_ ?_ ?_
  · by_cases hgains : db.gainsGroup other (trimSpace plan.upgradeGroup) = true
    · simp only [usersWithGroup, hgains]
      exact find_setUserGroup huser _ _
    · simp only [usersWithGroup, hgains]
      exact ⟨user, huser⟩
  · by_cases hgains : db.gainsGroup other (trimSpace plan.upgradeGroup) = true
    · have hsame := @userGroup_setUserGroup_of_ne db userId other hne
        (addGroup (db.userGroup other) (trimSpace plan.upgradeGroup))
      simpa [usersWithGroup, hgains, userGroup] using hsame
    · simp [usersWithGroup, hgains, userGroup]
  · intro r hr
    rw [mem_insert]
    constructor
    · rintro (hold | rfl)
      · exact hold
      · exact absurd hr hne
    · exact Or.inl

lemma endedUsers_of_downgrade {target : String}
    (hdown : downgradeUserGroupForSubscription r now db = .ok (db', target)) :
    EndedUsers db r now db'.users := by
  rcases downgradeUserGroup_cases hdown with ⟨hskip, rfl⟩ | ⟨hnone, rfl⟩
  · exact Or.inl ⟨rfl, hskip.imp_left And.right⟩
  · exact Or.inr ⟨hnone, rfl⟩

/-- Marking a subscription cancelled does not change which others hold a group. -/
lemma othersHold_saveSubscription (hid : r'.id = r.id) (huser : r'.userId = r.userId) :
    (db.saveSubscription r').othersHold r' now = db.othersHold r now := by
  rw [Bool.eq_iff_iff]
  simp only [othersHold, any_eq_true, Bool.and_eq_true, bne_iff_ne, hid, huser]
  constructor
  · rintro ⟨o, ho, hholds, hne⟩
    rcases mem_save.mp ho with ⟨hold, -⟩ | ⟨rfl, -⟩
    · exact ⟨o, hold, hholds, hne⟩
    · exact absurd hid hne
  · rintro ⟨o, ho, hholds, hne⟩
    refine ⟨o, mem_save.mpr (Or.inl ⟨ho, ?_⟩), hholds, hne⟩
    intro hkey
    exact hne (hkey.trans hid)

lemma ended_save (hid : r'.id = r.id) (hactive : r'.status ≠ .active)
    (huser : r'.userId = r.userId) (hdown : r'.downgradeGroup = r.downgradeGroup)
    (hup : r'.upgradeGroup = r.upgradeGroup) :
    Ended r db.subscriptions (db.subscriptions.save r') where
  others o ho hne := mem_save.mpr (Or.inl ⟨ho, fun hkey => hne (hkey.trans hid)⟩)
  rest o ho := by
    rcases mem_save.mp ho with ⟨hold, -⟩ | ⟨rfl, -⟩
    · exact Or.inl hold
    · exact Or.inr ⟨hactive, huser, hdown, hup⟩

section

variable (h : db.GroupsAccounted own userId) (hown : own ≠ [])

include h hown

/-- The end of a subscription, whoever it belongs to. -/
lemma DB.GroupsAccounted.ended_any (hr : r ∈ db.subscriptions)
    (hclean : r.userId = userId → db.EndsCleanly own r now)
    (hended : Ended r db.subscriptions db'.subscriptions) (husers : EndedUsers db r now db'.users) :
    db'.GroupsAccounted own userId := by
  by_cases hru : r.userId = userId
  · exact h.ended hown hr hru (hclean hru) hended husers
  · exact h.ended_other hr hru hended husers

lemma DB.GroupsAccounted.invalidate {id : Int}
    (hclean : ∀ r ∈ db.subscriptions.find id, r.userId = userId → db.EndsCleanly own r now)
    (hend : adminInvalidateUserSubscription now id db = .ok (db', message)) :
    db'.GroupsAccounted own userId := by
  unfold adminInvalidateUserSubscription at hend
  split at hend
  · cases hend
  split at hend
  · cases hend
  rename_i r hfind
  simp only at hend
  split at hend
  · cases hend
  rename_i db₁ target hdown
  cases hend
  obtain ⟨users, hframe⟩ := downgradeUserGroup_frame hdown
  have hsubs := congrArg subscriptions hframe
  refine h.ended_any hown (find_eq_some_iff.mp hfind).1 (hclean r hfind) ?_ ?_
  · rw [hsubs]
    exact ended_save rfl (by simp) rfl rfl rfl
  · -- the row was saved before the groups were looked at
    rcases endedUsers_of_downgrade hdown with ⟨husers, hskip⟩ | ⟨hnone, husers⟩
    · refine Or.inl ⟨husers, hskip.imp_right fun hothers => ?_⟩
      rwa [othersHold_saveSubscription rfl rfl] at hothers
    · refine Or.inr ⟨?_, ?_⟩
      · rwa [othersHold_saveSubscription rfl rfl] at hnone
      · rw [husers, revertUserGroup_users, revertUserGroup_users]
        rfl

lemma DB.GroupsAccounted.delete {id : Int}
    (hclean : ∀ r ∈ db.subscriptions.find id, r.userId = userId → db.EndsCleanly own r now)
    (hend : adminDeleteUserSubscription now id db = .ok (db', message)) :
    db'.GroupsAccounted own userId := by
  unfold adminDeleteUserSubscription at hend
  split at hend
  · cases hend
  split at hend
  · cases hend
  rename_i r hfind
  split at hend
  · cases hend
  rename_i db₁ target hdown
  cases hend
  obtain ⟨hr, hid⟩ := find_eq_some_iff.mp hfind
  obtain ⟨users, hframe⟩ := downgradeUserGroup_frame hdown
  have hsubs : db₁.subscriptions = db.subscriptions := by rw [hframe]
  have husers := endedUsers_of_downgrade hdown
  have hended : Ended r db.subscriptions (db₁.subscriptions.delete id) := by
    rw [hsubs]
    constructor
    · intro o ho hne
      exact mem_delete.mpr ⟨ho, fun hkey => hne (hkey.trans hid.symm)⟩
    · intro o ho
      exact Or.inl (mem_delete.mp ho).1
  exact h.ended_any hown hr (hclean r hfind) hended husers

lemma DB.GroupsAccounted.upgrade {created buyer sourceId : Int} {target : SubscriptionPlan}
    (hclean : ∀ r ∈ db.subscriptions.find sourceId, r.userId = userId → db.EndsCleanly own r now)
    (hplan : buyer = userId →
      trimSpace target.downgradeGroup = "" ∧ NamesOneGroup (trimSpace target.upgradeGroup))
    (hup : upgradeUserSubscription loc now created buyer sourceId target db = .ok (db', sub)) :
    db'.GroupsAccounted own userId := by
  unfold upgradeUserSubscription at hup
  split at hup
  · cases hup
  rename_i r hfind
  split at hup
  · cases hup
  split at hup
  · cases hup
  split at hup
  · cases hup
  rename_i db₁ _ hdown
  obtain ⟨users, hframe⟩ := downgradeUserGroup_frame hdown
  have hsubs : db₁.subscriptions = db.subscriptions := by rw [hframe]
  have husers := endedUsers_of_downgrade hdown
  have hmid : (db₁.saveSubscription { r with status := .cancelled, endTime := now }).GroupsAccounted
      own userId := by
    have hended : Ended r db.subscriptions
        (db₁.subscriptions.save { r with status := .cancelled, endTime := now }) := by
      rw [hsubs]
      exact ended_save rfl (by simp) rfl rfl rfl
    exact h.ended_any hown (find_eq_some_iff.mp hfind).1 (hclean r hfind) hended husers
  by_cases hbuyer : buyer = userId
  · subst hbuyer
    exact hmid.create (hplan rfl).1 (hplan rfl).2 hup
  · exact hmid.create_other hbuyer hup

end

end

/-! ### Expiry -/

/-- Every held group of a due subscription is the user's own, still lent by an active subscription,
or the one that the last expired subscription takes away, which is not their own. -/
def DB.ExpiresCleanly (own : List String) (db : DB) (userId now : Int) : Prop :=
  let db₁ := db.markExpired userId now
  let covered (g : String) : Prop := g ∈ own ∨ ∃ o ∈ db₁.subscriptions.rows, o.Lends userId g
  if db₁.subscriptions.rows.any (UserSubscription.holdsGroup userId now) then
    ∀ r ∈ db.subscriptions.rows, r.isDue userId now = true →
      r.upgradeGroup ∈ db.groups userId → covered r.upgradeGroup
  else
    ∀ last ∈ db₁.lastExpired userId,
      (last.upgradeGroup ∈ db.groups userId → last.upgradeGroup ∉ own) ∧
        ∀ r ∈ db.subscriptions.rows, r.isDue userId now = true →
          r.upgradeGroup ∈ db.groups userId →
            r.upgradeGroup = last.upgradeGroup ∨ covered r.upgradeGroup

section

variable {own : List String} {userId now : Int} {db : DB} {r : UserSubscription}

lemma mem_markExpired {user : Int} :
    o ∈ (db.markExpired user now).subscriptions ↔
      ∃ r ∈ db.subscriptions,
        (if r.isDue user now then { r with status := .expired } else r) = o := by
  simp only [markExpired, mem_modifyWhere]
  rfl

lemma DB.GroupsAccounted.markExpired_rows (h : db.GroupsAccounted own userId) :
    ∀ o ∈ (db.markExpired userId now).subscriptions, o.userId = userId → o.OnlyLends := by
  intro o ho huser
  obtain ⟨r, hr, rfl⟩ := mem_markExpired.mp ho
  split at huser
  · rename_i hdue
    rw [if_pos hdue]
    exact h.rows r hr huser
  · rename_i hdue
    rw [if_neg hdue]
    exact h.rows r hr huser

/-- A subscription that lends a group after the due ones are marked, or a due one before. -/
lemma lends_or_due (hr : r ∈ db.subscriptions) (hlends : r.Lends userId x) :
    (∃ o ∈ (db.markExpired userId now).subscriptions, o.Lends userId x) ∨
      r.isDue userId now = true := by
  by_cases hdue : r.isDue userId now = true
  · exact Or.inr hdue
  · exact Or.inl ⟨r, mem_markExpired.mpr ⟨r, hr, if_neg hdue⟩, hlends⟩

lemma lastExpired_spec {last : UserSubscription} (h : db.lastExpired userId = some last) :
    last ∈ db.subscriptions ∧ last.userId = userId := by
  obtain ⟨hmem, hp⟩ := mem_select.mp (mem_of_head? h)
  simp only [Bool.and_eq_true, beq_iff_eq] at hp
  exact ⟨hmem, hp.1.1⟩

/-- A due subscription with a group has an expired successor to be found. -/
lemma lastExpired_ne_none (hr : r ∈ db.subscriptions) (hdue : r.isDue userId now = true)
    (hgroup : r.upgradeGroup ≠ "") : (db.markExpired userId now).lastExpired userId ≠ none := by
  have hrow : { r with status := .expired } ∈ (db.markExpired userId now).subscriptions :=
    mem_markExpired.mpr ⟨r, hr, if_pos hdue⟩
  have huser : r.userId = userId := by
    simp only [UserSubscription.isDue, Bool.and_eq_true, beq_iff_eq] at hdue
    exact hdue.1.1.1
  simp only [lastExpired, ne_eq, List.head?_eq_none_iff]
  exact ne_nil_of_mem (mem_select.mpr ⟨hrow, by simp [huser, hgroup]⟩)

section

variable (h : db.GroupsAccounted own userId)

include h

/-- The groups while the due subscriptions are only marked. -/
lemma DB.GroupsAccounted.markExpired (hcovered : ∀ r ∈ db.subscriptions, r.isDue userId now = true →
      r.upgradeGroup ∈ db.groups userId → r.upgradeGroup ∈ own ∨
        ∃ o ∈ (db.markExpired userId now).subscriptions, o.Lends userId r.upgradeGroup) :
    (db.markExpired userId now).GroupsAccounted own userId := by
  refine h.of_shrink h.user h.markExpired_rows (fun _ hx => hx) h.kept ?_
  intro x hx r hr hlends
  rcases lends_or_due hr hlends with hlent | hdue
  · exact Or.inr hlent
  · obtain rfl : r.upgradeGroup = x := hlends.2.2
    exact hcovered r hr hdue hx

lemma DB.GroupsAccounted.expire (hown : own ≠ []) (hclean : db.ExpiresCleanly own userId now) :
    (expireDueSubscriptions now userId db).1.GroupsAccounted own userId := by
  unfold ExpiresCleanly at hclean
  unfold expireDueSubscriptions
  by_cases hholds : (db.markExpired userId now).subscriptions.rows.any
      (UserSubscription.holdsGroup userId now) = true
  · rw [if_pos hholds] at hclean ⊢
    exact h.markExpired hclean
  rw [if_neg hholds] at hclean ⊢
  cases hlast : (db.markExpired userId now).lastExpired userId with
  | none =>
    refine h.markExpired ?_
    intro r hr hdue hheld
    exact absurd hlast (lastExpired_ne_none hr hdue (splitUserGroups_spec hheld).1)
  | some last =>
    obtain ⟨hforeign, hcovered⟩ := hclean last hlast
    obtain ⟨hmem, rfl⟩ := lastExpired_spec hlast
    have hrows : ∀ o ∈ (db.markExpired last.userId now).subscriptions,
        o.userId = last.userId → o.OnlyLends := h.markExpired_rows
    have hlends := hrows last hmem rfl
    have hother : ∀ x ∈ own, x ≠ last.upgradeGroup := by
      rintro x hx rfl
      exact hforeign (h.kept _ hx) hx
    obtain ⟨y, hy⟩ := exists_mem_of_ne_nil own hown
    have huser : ∃ user, (db.markExpired last.userId now).users.find last.userId = some user :=
      h.user
    have hgroups := groups_revertUserGroup huser hlends ⟨y, h.kept y hy, hother y hy⟩
    obtain ⟨users, hframe⟩ := revertUserGroup_frame (db.markExpired last.userId now) last
      ((db.markExpired last.userId now).userGroup last.userId)
    have hsubs := congrArg subscriptions hframe
    rw [← hsubs] at hrows
    refine h.of_shrink (users_revertUserGroup huser _) hrows ?_ ?_ ?_
    · intro x hx
      exact ((hgroups x).mp hx).1
    · intro x hx
      exact (hgroups x).mpr ⟨h.kept x hx, hother x hx⟩
    · intro x hx r hr hlend
      obtain ⟨hheld, hne⟩ := (hgroups x).mp hx
      rw [hsubs]
      rcases lends_or_due hr hlend with hlent | hdue
      · exact Or.inr hlent
      · obtain rfl : r.upgradeGroup = x := hlend.2.2
        exact (hcovered r hr hdue hheld).resolve_left hne

/-- The expiry of another user's subscriptions. -/
lemma DB.GroupsAccounted.expire_other {other : Int} (hne : other ≠ userId) :
    (expireDueSubscriptions now other db).1.GroupsAccounted own userId := by
  have hmarked : (db.markExpired other now).GroupsAccounted own userId := by
    refine h.of_others h.user rfl ?_
    intro r hr
    have hnot : r.isDue other now = false := by
      simp [UserSubscription.isDue, hr, Ne.symm hne]
    rw [mem_markExpired]
    constructor
    · rintro ⟨r₀, hr₀, hrow⟩
      by_cases hdue : r₀.isDue other now = true
      · -- a marked row is the other user's
        rw [if_pos hdue] at hrow
        subst hrow
        simp only [UserSubscription.isDue, Bool.and_eq_true, beq_iff_eq] at hdue
        exact absurd (hdue.1.1.1.symm.trans hr) hne
      · rw [if_neg hdue] at hrow
        exact hrow ▸ hr₀
    · intro hmem
      exact ⟨r, hmem, by rw [hnot]; rfl⟩
  unfold expireDueSubscriptions
  simp only
  split
  · exact hmarked
  · split
    · exact hmarked
    · rename_i last hlast
      obtain ⟨-, hother⟩ := lastExpired_spec hlast
      obtain ⟨users, hframe⟩ := revertUserGroup_frame (db.markExpired other now) last
        ((db.markExpired other now).userGroup other)
      have hsubs := congrArg subscriptions hframe
      refine hmarked.of_others (users_revertUserGroup hmarked.user _)
        (userGroup_revertUserGroup_of_ne (by rw [hother]; exact hne) _) ?_
      intro r _
      rw [hsubs]

end

end

/-! ### Runs -/

/-- The transaction is one of the life of a subscription, and it is clean for the user. -/
def SubscriptionTx.Clean (own : List String) (userId : Int) (db : DB) : SubscriptionTx → Prop
  | .create _ buyer plan _ =>
    buyer = userId →
      trimSpace plan.downgradeGroup = "" ∧ NamesOneGroup (trimSpace plan.upgradeGroup)
  | .upgrade now _ buyer sourceId target =>
    (buyer = userId →
      trimSpace target.downgradeGroup = "" ∧ NamesOneGroup (trimSpace target.upgradeGroup)) ∧
    ∀ r ∈ db.subscriptions.find sourceId, r.userId = userId → db.EndsCleanly own r now
  | .expire now user => user = userId → db.ExpiresCleanly own userId now
  | .invalidate now id =>
    ∀ r ∈ db.subscriptions.find id, r.userId = userId → db.EndsCleanly own r now
  | .delete now id =>
    ∀ r ∈ db.subscriptions.find id, r.userId = userId → db.EndsCleanly own r now
  | _ => False

/-- One clean transaction. -/
lemma DB.GroupsAccounted.step {own : List String} {loc : Location} {tx : SubscriptionTx}
    (h : db.GroupsAccounted own userId) (hown : own ≠ []) (hclean : tx.Clean own userId db) :
    (tx.step loc db).GroupsAccounted own userId := by
  unfold SubscriptionTx.step
  split
  · rename_i db' hexec
    cases tx with
    | create now buyer plan source =>
      obtain ⟨_, hexec⟩ := map_fst_eq_ok hexec
      by_cases hbuyer : buyer = userId
      · subst hbuyer
        exact h.create (hclean rfl).1 (hclean rfl).2 hexec
      · exact h.create_other hbuyer hexec
    | upgrade now created buyer sourceId target =>
      obtain ⟨_, hexec⟩ := map_fst_eq_ok hexec
      exact h.upgrade hown hclean.2 hclean.1 hexec
    | expire now user =>
      cases hexec
      by_cases huser : user = userId
      · subst huser
        exact h.expire hown (hclean rfl)
      · exact h.expire_other huser
    | invalidate now id =>
      obtain ⟨_, hexec⟩ := map_fst_eq_ok hexec
      exact h.invalidate hown hclean hexec
    | delete now id =>
      obtain ⟨_, hexec⟩ := map_fst_eq_ok hexec
      exact h.delete hown hclean hexec
    | preConsume | postConsumeDelta | refund | markRecord | resetDue | adminResetUser
    | adminResetPlan | updatePeriod | extendPlan | editPlans => exact hclean.elim
  · exact h

/-- Along a clean run, a user who started without subscriptions has exactly their first groups
whenever no subscription of theirs is active. -/
theorem groups_eq_own_of_clean (loc : Location) (db : DB) (userId : Int)
    (huser : ∃ user, db.users.find userId = some user) (hgroups : db.groups userId ≠ [])
    (hnone : ∀ r ∈ db.subscriptions, r.userId ≠ userId) (txs : List SubscriptionTx)
    (hclean : Along (step loc) (fun db' tx => tx.Clean (db.groups userId) userId db') db txs) :
    let t := run (step loc) db txs
    (∀ r ∈ t.subscriptions, r.userId = userId → r.status ≠ .active) →
      ∀ x, x ∈ t.groups userId ↔ x ∈ db.groups userId := by
  intro t hended
  have hstart : db.GroupsAccounted (db.groups userId) userId :=
    ⟨huser, fun r hr hu => absurd hu (hnone r hr), fun _ hx => hx, fun _ hx => Or.inl hx⟩
  have hfinal : t.GroupsAccounted (db.groups userId) userId :=
    Along.invariant (fun _ _ h hok => h.step hgroups hok) hstart hclean
  exact hfinal.eq_own hended

/-- A user with the group `default`, and a plan that lends `group` for `seconds`. -/
def defaultUser : DB :=
  { empty with users := empty.insert { id := 0, group := "default", quota := 0 } }

def lendingPlan (id seconds : Int) (group : String) : SubscriptionPlan :=
  { id := id, durationUnit := "custom", customSeconds := seconds, upgradeGroup := group }

/-- A subscription is bought and ended by an administrator. -/
def vipRun : List SubscriptionTx :=
  [.create 1000 1 (lendingPlan 1 1000 "vip") "order", .invalidate 1500 1]

theorem groups_eq_own_after_invalidation :
    "vip" ∈ (run (step utc) defaultUser (vipRun.take 1)).groups 1 ∧
      ("vip" ∈ (run (step utc) defaultUser vipRun).groups 1 ↔ "vip" ∈ defaultUser.groups 1) := by
  have huser : defaultUser.users.find 1 = some { id := 1, group := "default", quota := 0 } := by
    decide
  have hnone : ∀ r ∈ defaultUser.subscriptions.rows, r.userId ≠ 1 := by decide
  have hplan : trimSpace (lendingPlan 1 1000 "vip").downgradeGroup = "" ∧
      NamesOneGroup (trimSpace (lendingPlan 1 1000 "vip").upgradeGroup) := by decide
  have hend : ∀ r ∈ ((create 1000 1 (lendingPlan 1 1000 "vip") "order").step
      utc defaultUser).subscriptions.find 1, r.userId = 1 →
        ((create 1000 1 (lendingPlan 1 1000 "vip") "order").step utc
          defaultUser).EndsCleanly (defaultUser.groups 1) r 1500 := by decide
  have hended : ∀ r ∈ (run (step utc) defaultUser
      vipRun).subscriptions.rows, r.userId = 1 → r.status ≠ .active := by decide
  exact ⟨by decide, groups_eq_own_of_clean utc defaultUser 1 ⟨_, huser⟩ (by decide) hnone
    vipRun ⟨fun _ => hplan, hend, trivial⟩ hended "vip"⟩

/-- Two subscriptions lend `vip` until 2000 and `pro` until 2100. Each expires in time, and the user
keeps `vip`. -/
theorem group_outlives_subscriptions :
    let t := run (step utc) defaultUser
      [.create 1000 1 (lendingPlan 1 1000 "vip") "order",
        .create 1100 1 (lendingPlan 2 1000 "pro") "order", .expire 2050 1, .expire 2200 1]
    (∀ r ∈ t.subscriptions.rows, r.status ≠ .active) ∧ defaultUser.groups 1 = ["default"] ∧
      t.groups 1 = ["default", "vip"] := by
  decide

end XinghaiApi
