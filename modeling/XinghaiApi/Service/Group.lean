import XinghaiApi.Model.Subscription.Lifecycle

/-!
# Groups of users and requests

A user can be in several groups, and may use the groups that are open to all, those that are added
for one of their own groups, and their own ones. A request runs in the group of its token, in that
of its user if the token has none, or in the one that the playground asks for.
-/

namespace XinghaiApi

open Text

def joinUserGroups (userGroups : List String) : String :=
  join "," (userGroups.flatMap splitUserGroups).eraseDups

structure GroupSetting where
  userUsableGroups : List String := []
  /-- the special groups of a user group, in the order in which the map gives them -/
  groupSpecialUsableGroup : String → List String := fun _ => []
  autoGroups : List String := []
  containsGroupRatio : String → Bool := fun _ => true

/-- A special group is taken away, added, or added without a mark. -/
def applySpecialGroup (groups : List String) (special : String) : List String :=
  if hasPrefix special "-:" then
    groups.filter (· ≠ String.ofList (special.toList.drop 2))
  else if hasPrefix special "+:" then String.ofList (special.toList.drop 2) :: groups
  else special :: groups

namespace GroupSetting

variable (setting : GroupSetting)

def addUserGroup (groups : List String) (userGroup : String) : List String :=
  let groups := (setting.groupSpecialUsableGroup userGroup).foldl applySpecialGroup groups
  if userGroup ∈ groups then groups else userGroup :: groups

def getUserUsableGroups (userGroup : String) : List String :=
  (splitUserGroups userGroup).foldl setting.addUserGroup setting.userUsableGroups

def getUserAutoGroup (userGroup : String) : List String :=
  setting.autoGroups.filter (· ∈ setting.getUserUsableGroups userGroup)

def tokenUsingGroup (userGroup tokenGroup : String) : Except String String :=
  if tokenGroup = "" then .ok userGroup
  else if tokenGroup ∉ setting.getUserUsableGroups userGroup then
    .error s!"无权访问 {tokenGroup} 分组"
  else if setting.containsGroupRatio tokenGroup = false ∧ tokenGroup ≠ "auto" then
    .error s!"分组 {tokenGroup} 已被弃用"
  else .ok tokenGroup

/-- The group in which a request of the playground runs, if it asks for `group`. -/
def playgroundUsingGroup (usingGroup group : String) : Except String String :=
  if group = "" then .ok usingGroup
  else if group ∉ setting.getUserUsableGroups usingGroup ∧ group ≠ usingGroup then
    .error "distributor.group_access_denied"
  else .ok group

end GroupSetting

inductive RequestOrigin where
  | token (group : String)
  | playground (group : String)
deriving DecidableEq

/-- The group of a request, after the checks. -/
def GroupSetting.requestGroup (setting : GroupSetting) (userGroup : String) :
    RequestOrigin → Except String String
  | .token group      => setting.tokenUsingGroup userGroup group
  | .playground group => setting.playgroundUsingGroup userGroup group

/-- The group that the retries of a request are made in. The playground makes a token of the group
that it uses. -/
def relayTokenGroup (userGroup usingGroup : String) : RequestOrigin → String
  | .token group  => if group = "" then userGroup else group
  | .playground _ => if usingGroup = "" then userGroup else usingGroup

/-- Retries are made in the group of the request. -/
lemma relayTokenGroup_eq {setting : GroupSetting} {userGroup usingGroup : String}
    {origin : RequestOrigin} (h : setting.requestGroup userGroup origin = .ok usingGroup) :
    relayTokenGroup userGroup usingGroup origin = usingGroup := by
  cases origin with
  | token group =>
    simp only [GroupSetting.requestGroup, GroupSetting.tokenUsingGroup] at h
    split_ifs at h with hempty
    · simp only [hempty]
      exact Except.ok.inj h
    · simp only [relayTokenGroup, hempty]
      exact Except.ok.inj h
  | playground group =>
    simp only [GroupSetting.requestGroup, GroupSetting.playgroundUsingGroup] at h
    split_ifs at h with hempty
    · obtain rfl := Except.ok.inj h
      simp [relayTokenGroup]
    · obtain rfl := Except.ok.inj h
      simp [relayTokenGroup, hempty]

end XinghaiApi
