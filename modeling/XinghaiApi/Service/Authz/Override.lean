import XinghaiApi.Lib.Run
import XinghaiApi.Service.Authz.Policy

/-!
# Permissions of single administrators

What a map of permissions asks for a user is stored as the difference from the baseline of the
administrators, resource by resource. After any history of such edits the answer for a user is what
the last map that names the resource says.
-/

namespace XinghaiApi

open Csv Registry ActionDefinition Machine List

/-- What a map says about the actions of one resource. -/
abbrev ActionMap := String → Option Bool

/-- A map from resources to their actions, in the order in which it is walked. -/
structure PermissionsMap where
  entries : List (String × ActionMap)
  nodup : (entries.map Prod.fst).Nodup

structure OverridePolicy where
  resource : String
  action : String
  effect : PolicyEffect

/-- The entries that differ from the baseline of the managed role, sorted by action. -/
def userOverridePolicies (lib : Casbin) (registry : Registry) (policies : List (List String))
    (resource : String) (actions : ActionMap) : List OverridePolicy :=
  ((registry.catalogActions resource).filterMap fun definition =>
    match actions definition.action with
    | none         => none
    | some desired =>
      if desired = roleBaselineAllows lib policies managedRoleKey ⟨resource, definition.action⟩
      then none
      else some {
        resource, action := definition.action
        effect := if desired then .allow else .deny }).mergeSort
    fun first second => first.action ≤ second.action

def deleteRules (rules : List CasbinRule) (subject resource : String) : List CasbinRule :=
  rules.filter fun rule => !(rule.ptype = "p" && rule.v0 = subject && rule.v1 = resource)

section

variable (lib : Casbin) (registry : Registry) (policies : List (List String)) (userID : ℤ)
  (rules : List CasbinRule)

def setResourceInTx (entry : String × ActionMap) : List CasbinRule :=
  if registry.isKnownResource entry.1 then
    insertRules (deleteRules rules (userSubject userID) entry.1)
      ((userOverridePolicies lib registry policies entry.1 entry.2).map fun policy =>
        newRule "p" [userSubject userID, policy.resource, policy.action, policy.effect.text])
  else rules

/-- `SetUserPermissionsInTx`: the baseline is that of the policies in memory. -/
def setUserPermissionsInTx (permissions : PermissionsMap) : List CasbinRule :=
  permissions.entries.foldl (setResourceInTx lib registry policies userID) rules

end

/-- `ClearUserAuthorizationInTx`. -/
def clearUserAuthorizationInTx (registry : Registry) (userID : ℤ) (rules : List CasbinRule) :
    List CasbinRule :=
  registry.foldl (fun rules resource => deleteRules rules (userSubject userID) resource.resource)
    rules

inductive AuthzEvent
  | set (userID : ℤ) (permissions : PermissionsMap)
  | clear (userID : ℤ)

def AuthzEvent.userID : AuthzEvent → ℤ
  | .set userID _ => userID
  | .clear userID => userID

/-- A transaction and the reload after it. -/
def authzStep (lib : Casbin) (registry : Registry) (s : Authz) : AuthzEvent → Authz
  | .set userID permissions =>
    { s with rules := setUserPermissionsInTx lib registry s.policies userID s.rules permissions
      : Authz }.reloadPolicy lib
  | .clear userID =>
    { s with rules := clearUserAuthorizationInTx registry userID s.rules : Authz }.reloadPolicy lib

/-! ### What was written last -/

/-- What the last map that names a resource said about it, since the last clear of the user. -/
abbrev Written := ℤ → String → Option ActionMap

def PermissionsMap.find (permissions : PermissionsMap) (resource : String) : Option ActionMap :=
  permissions.entries.lookup resource

def Written.after (written : Written) : AuthzEvent → Written
  | .set userID permissions => fun u resource =>
    if u = userID then (permissions.find resource).or (written u resource)
    else written u resource
  | .clear userID => fun u resource => if u = userID then none else written u resource

/-- The last map of each user for each resource in a history. -/
def lastWritten (events : List AuthzEvent) : Written :=
  run Written.after (fun _ _ => none) events

/-- The permission that a role has by default. -/
def Registry.baseline (registry : Registry) (p : Permission) : Bool :=
  p ∈ registry.permissionsForRole managedRoleKey

/-- The answer that is asked for: what the last map says, and the baseline if it says nothing. -/
def Written.answer (written : Written) (registry : Registry) (userID : ℤ) (p : Permission) : Bool :=
  ((written userID p.resource).bind fun actions => actions p.action).getD (registry.baseline p)

/-! ### The rows of what was written -/

/-- A map asks for a difference from the baseline, for an action of the catalog. -/
def Asks (registry : Registry) (actions : Option ActionMap) (p : Permission) (e : PolicyEffect) :
    Prop :=
  p.action ∈ (registry.catalogActions p.resource).map action ∧
    ∃ desired, (actions.bind fun actions => actions p.action) = some desired ∧
      desired ≠ registry.baseline p ∧ e = if desired then .allow else .deny

/-- The grants of the administrators, and the differences from them that were written for users. -/
inductive WrittenGrants (registry : Registry) (written : Written) : Grants
  | role {p : Permission} (h : p ∈ registry.permissionsForRole managedRoleKey) :
    WrittenGrants registry written (roleSubject managedRoleKey) p .allow
  | user {userID : ℤ} {p : Permission} {e : PolicyEffect}
    (h : Asks registry (written userID p.resource) p e) :
    WrittenGrants registry written (userSubject userID) p e

/-! ### Subjects -/

variable {u : ℤ} {p : Permission} {resource subject : String} {e : PolicyEffect}
  {written before : Written} {rule : CasbinRule}

lemma isDigit_of_mem_repr {n : ℕ} {c : Char} (hc : c ∈ n.repr.toList) : c.isDigit = true := by
  rw [Nat.repr_eq_ofList_toDigits, String.toList_ofList] at hc
  exact Nat.isDigit_of_mem_toDigits (by decide) (by decide) hc

lemma natRepr_inj {m n : ℕ} (h : m.repr = n.repr) : m = n := by
  have hnumber := congrArg (fun s => Nat.ofDigitChars 10 s.toList 0) h
  simpa using hnumber

/-- A sign is in front of the negative numbers only. -/
lemma natRepr_ne_minus (m : ℕ) (s : String) : m.repr ≠ "-" ++ s := by
  intro h
  have hminus : '-' ∈ m.repr.toList := by simp [h]
  exact absurd (isDigit_of_mem_repr hminus) (by decide)

lemma intRepr_inj {u' : ℤ} (h : u.repr = u'.repr) : u = u' := by
  rw [Int.repr_eq_if, Int.repr_eq_if] at h
  split_ifs at h with hu hu' hu'
  · have := natRepr_inj h
    omega
  · exact absurd h (natRepr_ne_minus _ _)
  · exact absurd h.symm (natRepr_ne_minus _ _)
  · have hlist := congrArg String.toList h
    simp only [String.toList_append, append_cancel_left_eq, String.toList_inj] at hlist
    have := natRepr_inj hlist
    omega

lemma userSubject_inj {u' : ℤ} : userSubject u = userSubject u' ↔ u = u' := by
  refine ⟨fun h => ?_, fun h => h ▸ rfl⟩
  have hlist := congrArg String.toList h
  simp only [userSubject, String.toList_append, append_cancel_left_eq, String.toList_inj] at hlist
  exact intRepr_inj hlist

lemma userSubject_ne_roleSubject (u : ℤ) (role : String) : userSubject u ≠ roleSubject role := by
  intro h
  have hlist := congrArg (fun s => s.toList.head?) h
  simp [userSubject, roleSubject] at hlist

lemma isPlain_userSubject (u : ℤ) : isPlain (userSubject u) = true := by
  have hnat : ∀ (n : ℕ), ∀ c ∈ n.repr.toList, c ≠ ',' ∧ c ≠ '"' ∧ c ≠ '\n' := by
    intro n c hc
    have hdigit := isDigit_of_mem_repr hc
    refine ⟨?_, ?_, ?_⟩ <;> rintro rfl <;> exact absurd hdigit (by decide)
  have hint : ∀ c ∈ u.repr.toList, c ≠ ',' ∧ c ≠ '"' ∧ c ≠ '\n' := by
    rw [Int.repr_eq_if]
    split_ifs
    · exact hnat _
    · intro c hc
      rcases mem_append.mp (String.toList_append ▸ hc) with hc | hc
      · obtain rfl := mem_singleton.mp hc
        decide
      · exact hnat _ c hc
  refine isPlain_iff.mpr ⟨?_, ?_, ?_⟩
  · intro h
    simpa [userSubject] using congrArg String.toList h
  · intro c hc
    rcases mem_append.mp (String.toList_append ▸ hc) with hc | hc
    · have huser : ∀ c ∈ "user:".toList, c ≠ ',' ∧ c ≠ '"' ∧ c ≠ '\n' := by decide
      exact huser c hc
    · exact hint c hc
  · intro c hc
    obtain rfl : c = 'u' := by simpa [userSubject, eq_comm] using hc
    decide

/-! ### Grants of a history -/

variable {registry : Registry} {written : Written}

/-- The names of the registry are read back from the lines of the rules. -/
def Registry.PlainNames (registry : Registry) : Prop :=
  ∀ d ∈ registry, ∀ a ∈ d.actions, isPlain d.resource = true ∧ isPlain a.action = true

instance (registry : Registry) : Decidable registry.PlainNames :=
  inferInstanceAs (Decidable (∀ d ∈ registry, ∀ a ∈ d.actions, _))

/-- The actions of a resource are all in its first definition. -/
def Registry.Catalogued (registry : Registry) : Prop :=
  ∀ d ∈ registry, ∀ a ∈ d.actions, a.action ∈ (registry.catalogActions d.resource).map action

instance (registry : Registry) : Decidable registry.Catalogued :=
  inferInstanceAs (Decidable (∀ d ∈ registry, ∀ a ∈ d.actions, _))

lemma Registry.isKnownPermission_iff : registry.isKnownPermission p = true ↔
    ∃ d ∈ registry, d.resource = p.resource ∧ ∃ a ∈ d.actions, a.action = p.action := by
  simp [isKnownPermission]

lemma Registry.known_of_mem_catalog
    (h : p.action ∈ (registry.catalogActions p.resource).map action) :
    registry.isKnownPermission p = true := by
  cases hfind : registry.find? (·.resource = p.resource) with
  | none => simp [catalogActions, hfind] at h
  | some d =>
    have hd : d.resource = p.resource := by simpa using List.find?_some hfind
    refine isKnownPermission_iff.mpr ⟨d, mem_of_find?_eq_some hfind, hd, ?_⟩
    simpa [catalogActions, hfind] using h

lemma Registry.catalogActions_eq_nil (h : registry.isKnownResource resource = false) :
    registry.catalogActions resource = [] := by
  have hfind : registry.find? (·.resource = resource) = none := by
    simpa [isKnownResource] using h
  rw [catalogActions, hfind]
  rfl

lemma Registry.known_of_mem_permissionsForRole {roleKey : String}
    (h : p ∈ registry.permissionsForRole roleKey) : registry.isKnownPermission p = true := by
  obtain ⟨d, hd, hp⟩ := mem_flatMap.mp h
  obtain ⟨a, ha, rfl⟩ := mem_map.mp hp
  exact isKnownPermission_iff.mpr ⟨d, hd, rfl, a, mem_of_mem_filter ha, rfl⟩

lemma Registry.PlainNames.known (h : registry.PlainNames)
    (hknown : registry.isKnownPermission p = true) :
    isPlain p.resource = true ∧ isPlain p.action = true := by
  obtain ⟨d, hd, hresource, a, ha, haction⟩ := isKnownPermission_iff.mp hknown
  rw [← hresource, ← haction]
  exact h d hd a ha

lemma Registry.Catalogued.known (h : registry.Catalogued)
    (hknown : registry.isKnownPermission p = true) :
    p.action ∈ (registry.catalogActions p.resource).map action := by
  obtain ⟨d, hd, hresource, a, ha, haction⟩ := isKnownPermission_iff.mp hknown
  rw [← hresource, ← haction]
  exact h d hd a ha

lemma writtenGrants_role_iff :
    WrittenGrants registry written (roleSubject managedRoleKey) p e ↔
      p ∈ registry.permissionsForRole managedRoleKey ∧ e = .allow := by
  constructor
  · generalize hsubject : roleSubject managedRoleKey = subject
    rintro (h | _)
    · exact ⟨h, rfl⟩
    · exact absurd hsubject.symm (userSubject_ne_roleSubject _ _)
  · rintro ⟨h, rfl⟩
    exact .role h

lemma writtenGrants_user_iff :
    WrittenGrants registry written (userSubject u) p e ↔
      Asks registry (written u p.resource) p e := by
  refine ⟨?_, .user⟩
  generalize hsubject : userSubject u = subject
  rintro (_ | hasks)
  · exact absurd hsubject (userSubject_ne_roleSubject _ _)
  · obtain rfl := userSubject_inj.mp hsubject
    exact hasks

lemma plainGrants_writtenGrants (h : registry.PlainNames) (written : Written) :
    PlainGrants (WrittenGrants registry written) := by
  rintro _ p _ (hrole | ⟨hcatalog, -⟩)
  · exact ⟨by decide, h.known (known_of_mem_permissionsForRole hrole)⟩
  · exact ⟨isPlain_userSubject _, h.known (known_of_mem_catalog hcatalog)⟩

/-! ### Answers -/

variable {lib : Casbin} {s : Authz} {policies : List (List String)} {userID : ℤ}
  {rules : List CasbinRule}

section

variable (hreg : registry.PlainNames) (h : PoliciesOf (WrittenGrants registry written) policies)
  (hknown : registry.isKnownPermission p = true)

include hreg h hknown

/-- The role of the administrators allows what is its default. -/
lemma roleBaselineAllows_eq :
    roleBaselineAllows lib policies managedRoleKey p = registry.baseline p := by
  obtain ⟨hresource, haction⟩ := hreg.known hknown
  have heffect := explicitSubjectEffect_eq_some_iff lib h (e := .allow)
    (show roleSubject managedRoleKey ≠ "" by decide) (isPlain_iff.mp hresource).1
    (isPlain_iff.mp haction).1
  simp only [writtenGrants_role_iff] at heffect
  rw [roleBaselineAllows, baseline, decide_eq_decide, heffect]
  simp

/-- What is stored for a user is the last map where it differs from the baseline, for actions of the
catalog. -/
lemma explicitSubjectEffect_user (u : ℤ) :
    explicitSubjectEffect lib policies (userSubject u) p = some e ↔
      Asks registry (written u p.resource) p e := by
  obtain ⟨hresource, haction⟩ := hreg.known hknown
  have huser : userSubject u ≠ "" := (isPlain_iff.mp (isPlain_userSubject u)).1
  rw [explicitSubjectEffect_eq_some_iff lib h huser (isPlain_iff.mp hresource).1
    (isPlain_iff.mp haction).1, writtenGrants_user_iff, writtenGrants_user_iff]
  refine and_iff_left_of_imp fun hstored => ?_
  -- only one value was written, so it is not stored with both effects
  obtain ⟨-, desired, hbind, -, rfl⟩ := hstored
  cases desired with
  | false => exact Or.inl rfl
  | true =>
    refine Or.inr ?_
    rintro ⟨-, other, hother, -, heffect⟩
    obtain rfl : true = other := Option.some.inj (hbind.symm.trans hother)
    cases heffect

end

section

variable {role : ℤ} (hreg : registry.PlainNames)
  (h : PoliciesOf (WrittenGrants registry written) s.policies) (hadmin : roleAdminUser ≤ role)
  (hroot : role < roleRootUser) (hknown : registry.isKnownPermission p = true)

include hreg h hadmin hroot hknown

lemma can_admin_eq_elim :
    s.can lib registry u role p =
      (explicitSubjectEffect lib s.policies (userSubject u) p).elim (registry.baseline p)
        fun effect => decide (effect = .allow) := by
  have hroles : resolveSubjectRoles role = ["admin"] := by
    simp [resolveSubjectRoles, hadmin, Int.not_le.mpr hroot]
  have hsuper : isSuperuserRole "admin" = false := by decide
  have hbaseline : roleBaselineAllows lib s.policies managedRoleKey p = registry.baseline p :=
    roleBaselineAllows_eq hreg h hknown
  rw [managedRoleKey] at hbaseline
  simp only [Authz.can, hroles, hknown, any_cons, hsuper, hbaseline]
  cases explicitSubjectEffect lib s.policies (userSubject u) p <;> simp

/-- An action that is not in the catalog of its resource has the baseline for everyone. -/
lemma can_admin_eq_baseline
    (hcatalog : p.action ∉ (registry.catalogActions p.resource).map action) :
    s.can lib registry u role p = registry.baseline p := by
  have hnone : explicitSubjectEffect lib s.policies (userSubject u) p = none :=
    Option.eq_none_iff_forall_ne_some.mpr fun e he =>
      hcatalog ((explicitSubjectEffect_user hreg h hknown u).mp he).1
  rw [can_admin_eq_elim hreg h hadmin hroot hknown, hnone, Option.elim_none]

/-- An administrator is answered from what was written for them, and from the baseline. -/
lemma can_admin_eq (hcatalog : p.action ∈ (registry.catalogActions p.resource).map action) :
    s.can lib registry u role p = written.answer registry u p := by
  have hstored : ∀ e, explicitSubjectEffect lib s.policies (userSubject u) p = some e ↔ _ :=
    fun e => explicitSubjectEffect_user hreg h hknown u
  rw [can_admin_eq_elim hreg h hadmin hroot hknown, Written.answer]
  cases heffect : explicitSubjectEffect lib s.policies (userSubject u) p with
  | some e =>
    obtain ⟨-, desired, hwritten, -, rfl⟩ := (hstored e).mp heffect
    rw [hwritten]
    cases desired <;> rfl
  | none =>
    -- nothing is stored, so nothing was written or what was written is the baseline
    cases hwritten : (written u p.resource).bind fun actions => actions p.action with
    | none => rfl
    | some desired =>
      by_contra hdiffers
      have hasks := (hstored _).mpr ⟨hcatalog, desired, hwritten, Ne.symm hdiffers, rfl⟩
      simp [heffect] at hasks

end

/-! ### Edits -/

def Written.put (written : Written) (userID : ℤ) (resource : String) (actions : Option ActionMap) :
    Written :=
  fun u r => if u = userID ∧ r = resource then actions else written u r

/-- The differences from the baseline that a map asks for. -/
def AskedGrants (registry : Registry) (userID : ℤ) (resource : String)
    (actions : Option ActionMap) : Grants := fun subject p e =>
  subject = userSubject userID ∧ p.resource = resource ∧ Asks registry actions p e

/-- Replacing a map takes away the rows of its resource and adds those it asks for. -/
lemma writtenGrants_put_iff {actions : Option ActionMap} :
    WrittenGrants registry (written.put userID resource actions) subject p e ↔
      (WrittenGrants registry written subject p e ∧
        ¬(subject = userSubject userID ∧ p.resource = resource)) ∨
      AskedGrants registry userID resource actions subject p e := by
  constructor
  · rintro (hrole | @⟨u, _, _, hasks⟩)
    · exact Or.inl ⟨.role hrole, fun hsame => userSubject_ne_roleSubject _ _ hsame.1.symm⟩
    · by_cases hput : u = userID ∧ p.resource = resource
      · rw [Written.put, if_pos hput] at hasks
        exact Or.inr ⟨hput.1 ▸ rfl, hput.2, hasks⟩
      · rw [Written.put, if_neg hput] at hasks
        exact Or.inl ⟨.user hasks, fun hsame => hput ⟨userSubject_inj.mp hsame.1, hsame.2⟩⟩
  · rintro (⟨hrole | @⟨u, _, _, hasks⟩, hother⟩ | ⟨rfl, rfl, hasks⟩)
    · exact .role hrole
    · have hput : ¬(u = userID ∧ p.resource = resource) :=
        fun hput => hother ⟨hput.1 ▸ rfl, hput.2⟩
      refine .user ?_
      rwa [Written.put, if_neg hput]
    · refine .user ?_
      rwa [Written.put, if_pos ⟨rfl, rfl⟩]

lemma mem_deleteRules :
    rule ∈ deleteRules rules subject resource ↔
      rule ∈ rules ∧ ¬(rule.ptype = "p" ∧ rule.v0 = subject ∧ rule.v1 = resource) := by
  simp [deleteRules, imp_iff_not_or, or_assoc]

lemma mem_clearAuthorization :
    rule ∈ clearUserAuthorizationInTx registry userID rules ↔
      rule ∈ rules ∧ ¬(rule.ptype = "p" ∧ rule.v0 = userSubject userID ∧
        registry.isKnownResource rule.v1 = true) := by
  induction registry generalizing rules with
  | nil => simp [clearUserAuthorizationInTx, isKnownResource]
  | cons d registry ih =>
    rw [clearUserAuthorizationInTx, foldl_cons, ← clearUserAuthorizationInTx, ih, mem_deleteRules]
    simp only [isKnownResource, any_cons, Bool.or_eq_true, decide_eq_true_eq]
    grind

lemma RulesOf.keep {grants : Grants} {rules' : List CasbinRule} {kept : CasbinRule → Prop}
    (h : RulesOf grants rules) (hkept : ∀ rule, rule ∈ rules' ↔ rule ∈ rules ∧ kept rule) :
    RulesOf (fun subject p e => grants subject p e ∧ kept (subjectRule subject p e)) rules' := by
  intro rule
  rw [hkept, h]
  constructor
  · rintro ⟨⟨subject, p, e, hgrant, rfl⟩, hrule⟩
    exact ⟨subject, p, e, ⟨hgrant, hrule⟩, rfl⟩
  · rintro ⟨subject, p, e, ⟨hgrant, hrule⟩, rfl⟩
    exact ⟨⟨subject, p, e, hgrant, rfl⟩, hrule⟩

lemma RulesOf.delete {grants : Grants} (h : RulesOf grants rules) (subject resource : String) :
    RulesOf (fun subject' p e => grants subject' p e ∧
      ¬(subject' = subject ∧ p.resource = resource)) (deleteRules rules subject resource) :=
  (h.keep fun _ => mem_deleteRules).congr fun subject' p e => by simp [subjectRule, newRule]

/-- The rows that are stored for a map. -/
lemma rulesOf_userOverridePolicies (hreg : registry.PlainNames)
    (h : PoliciesOf (WrittenGrants registry written) policies) (userID : ℤ) (resource : String)
    (actions : ActionMap) :
    RulesOf (AskedGrants registry userID resource (some actions))
      ((userOverridePolicies lib registry policies resource actions).map fun policy =>
        newRule "p" [userSubject userID, policy.resource, policy.action, policy.effect.text]) := by
  have hbaseline : ∀ d ∈ registry.catalogActions resource,
      roleBaselineAllows lib policies managedRoleKey ⟨resource, d.action⟩ =
        registry.baseline ⟨resource, d.action⟩ := fun d hd =>
    roleBaselineAllows_eq hreg h (known_of_mem_catalog (mem_map_of_mem hd))
  intro rule
  simp only [userOverridePolicies, mem_map, mem_mergeSort, mem_filterMap]
  constructor
  · rintro ⟨policy, ⟨d, hd, hpolicy⟩, rfl⟩
    cases hdesired : actions d.action with
    | none => simp [hdesired] at hpolicy
    | some desired =>
      simp only [hdesired, hbaseline d hd] at hpolicy
      by_cases hsame : desired = registry.baseline ⟨resource, d.action⟩
      · rw [if_pos hsame] at hpolicy
        cases hpolicy
      · rw [if_neg hsame] at hpolicy
        obtain rfl := Option.some.inj hpolicy
        exact ⟨userSubject userID, ⟨resource, d.action⟩, _,
          ⟨rfl, rfl, mem_map_of_mem hd, desired, hdesired, hsame, rfl⟩, rfl⟩
  · rintro ⟨_, ⟨resource, action⟩, e, ⟨rfl, rfl, hcatalog, desired, hdesired, hdiffers, rfl⟩, rfl⟩
    obtain ⟨d, hd, rfl⟩ := mem_map.mp hcatalog
    rw [Option.bind_some] at hdesired
    refine ⟨⟨resource, d.action, if desired then .allow else .deny⟩, ⟨d, hd, ?_⟩, rfl⟩
    simp only [hdesired, hbaseline d hd, if_neg hdiffers]

/-- The rows after the map of one resource is replaced. -/
lemma rulesOf_setResourceInTx (hreg : registry.PlainNames)
    (hpolicies : PoliciesOf (WrittenGrants registry before) policies)
    (hrules : RulesOf (WrittenGrants registry written) rules) (userID : ℤ)
    (entry : String × ActionMap) :
    RulesOf (WrittenGrants registry (written.put userID entry.1 (some entry.2)))
      (setResourceInTx lib registry policies userID rules entry) := by
  rw [setResourceInTx]
  split_ifs with hknown
  · refine ((hrules.delete (userSubject userID) entry.1).insert
      (rulesOf_userOverridePolicies hreg hpolicies userID entry.1 entry.2)).congr ?_
    exact fun subject p e => writtenGrants_put_iff.symm
  · -- a resource that is not registered has no actions, so nothing is stored for it
    have hcatalog : registry.catalogActions entry.1 = [] :=
      catalogActions_eq_nil (by simpa using hknown)
    refine hrules.congr fun subject p e => ?_
    rw [writtenGrants_put_iff]
    constructor
    · refine fun hgrant => Or.inl ⟨hgrant, ?_⟩
      rintro ⟨rfl, hresource⟩
      obtain ⟨hmem, -⟩ := writtenGrants_user_iff.mp hgrant
      simp [hresource, hcatalog] at hmem
    · rintro (⟨hgrant, -⟩ | ⟨-, hresource, hmem, -⟩)
      · exact hgrant
      · simp [hresource, hcatalog] at hmem

/-- What was written once the maps of several resources are replaced. -/
def Written.putAll (written : Written) (userID : ℤ) (entries : List (String × ActionMap)) :
    Written :=
  entries.foldl (fun written entry => written.put userID entry.1 (some entry.2)) written

lemma Written.putAll_eq (written : Written) (userID : ℤ) {entries : List (String × ActionMap)}
    (hnodup : (entries.map Prod.fst).Nodup) (u : ℤ) (resource : String) :
    written.putAll userID entries u resource =
      if u = userID then (entries.lookup resource).or (written u resource)
      else written u resource := by
  induction entries generalizing written with
  | nil => simp [Written.putAll]
  | cons entry entries ih =>
    obtain ⟨name, actions⟩ := entry
    rw [map_cons, nodup_cons] at hnodup
    have hrest := ih (written.put userID name (some actions)) hnodup.2
    rw [Written.putAll, foldl_cons, ← Written.putAll, hrest]
    by_cases hu : u = userID
    · by_cases hr : resource = name
      · subst hr
        have hlookup : entries.lookup resource = none := by
          rw [lookup_eq_none_iff]
          intro other hother
          have hne : other.1 ≠ resource :=
            fun heq => hnodup.1 (mem_map.mpr ⟨other, hother, heq⟩)
          simpa using hne.symm
        simp [hlookup, Written.put]
      · have hlookup : List.lookup resource ((name, actions) :: entries) =
            entries.lookup resource := by
          rw [lookup_cons, beq_false_of_ne hr]
        simp [hr, hlookup, Written.put]
    · simp [hu, Written.put]

lemma rulesOf_setUserPermissionsInTx (hreg : registry.PlainNames)
    (hpolicies : PoliciesOf (WrittenGrants registry before) policies)
    (hrules : RulesOf (WrittenGrants registry written) rules) (userID : ℤ)
    (permissions : PermissionsMap) :
    RulesOf (WrittenGrants registry (written.after (.set userID permissions)))
      (setUserPermissionsInTx lib registry policies userID rules permissions) := by
  have hput : written.after (.set userID permissions) =
      written.putAll userID permissions.entries := by
    funext u resource
    rw [Written.putAll_eq written userID permissions.nodup]
    rfl
  rw [hput, setUserPermissionsInTx]
  clear hput
  generalize permissions.entries = entries
  induction entries generalizing written rules with
  | nil => exact hrules
  | cons entry entries ih => exact ih (rulesOf_setResourceInTx hreg hpolicies hrules userID entry)

lemma rulesOf_clearAuthorization (hrules : RulesOf (WrittenGrants registry written) rules)
    (userID : ℤ) :
    RulesOf (WrittenGrants registry (written.after (.clear userID)))
      (clearUserAuthorizationInTx registry userID rules) := by
  refine (hrules.keep fun _ => mem_clearAuthorization).congr fun subject p e => ?_
  constructor
  · rintro ⟨hrole | @⟨u, _, _, hasks⟩, hkept⟩
    · exact .role hrole
    · have hu : u ≠ userID := by
        rintro rfl
        obtain ⟨d, hd, hresource, -⟩ := isKnownPermission_iff.mp (known_of_mem_catalog hasks.1)
        exact hkept ⟨rfl, rfl, any_eq_true.mpr ⟨d, hd, decide_eq_true hresource⟩⟩
      refine .user ?_
      simpa only [Written.after, if_neg hu] using hasks
  · rintro (hrole | @⟨u, _, _, hasks⟩)
    · exact ⟨.role hrole, fun hrow => userSubject_ne_roleSubject _ _ hrow.2.1.symm⟩
    · by_cases hu : u = userID
      · obtain ⟨-, desired, hnone, -⟩ := hasks
        simp [Written.after, hu] at hnone
      · simp only [Written.after, if_neg hu] at hasks
        exact ⟨.user hasks, fun hrow => hu (userSubject_inj.mp hrow.2.1)⟩

/-! ### Rows of one user -/

variable (lib policies)

/-- The user has a row for a resource of the registry, as `ExplicitUserOverrides` looks for. -/
def hasOverride (registry : Registry) (rules : List CasbinRule) (userID : ℤ) : Bool :=
  rules.any fun rule =>
    rule.ptype = "p" && rule.v0 = userSubject userID && registry.isKnownResource rule.v1

def SameRules (rules rules' : List CasbinRule) (userID : ℤ) : Prop :=
  ∀ rule : CasbinRule, rule.v0 = userSubject userID → (rule ∈ rules' ↔ rule ∈ rules)

lemma SameRules.refl (rules : List CasbinRule) (userID : ℤ) : SameRules rules rules userID :=
  fun _ _ => Iff.rfl

lemma SameRules.trans {rules₁ rules₂ rules₃ : List CasbinRule}
    (h : SameRules rules₁ rules₂ userID) (h' : SameRules rules₂ rules₃ userID) :
    SameRules rules₁ rules₃ userID :=
  fun rule hrule => (h' rule hrule).trans (h rule hrule)

lemma hasOverride_iff :
    hasOverride registry rules userID = true ↔ ∃ rule ∈ rules, rule.ptype = "p" ∧
      rule.v0 = userSubject userID ∧ registry.isKnownResource rule.v1 = true := by
  simp [hasOverride, and_assoc]

lemma SameRules.hasOverride_eq {rules' : List CasbinRule} (h : SameRules rules rules' userID) :
    hasOverride registry rules' userID = hasOverride registry rules userID := by
  rw [Bool.eq_iff_iff, hasOverride_iff, hasOverride_iff]
  constructor
  · rintro ⟨rule, hmem, hptype, hv0, hknown⟩
    exact ⟨rule, (h rule hv0).mp hmem, hptype, hv0, hknown⟩
  · rintro ⟨rule, hmem, hptype, hv0, hknown⟩
    exact ⟨rule, (h rule hv0).mpr hmem, hptype, hv0, hknown⟩

lemma hasOverride_clearAuthorization (rules : List CasbinRule) (userID : ℤ) :
    hasOverride registry (clearUserAuthorizationInTx registry userID rules) userID = false := by
  rw [Bool.eq_false_iff, ne_eq, hasOverride_iff]
  rintro ⟨rule, hmem, hrow⟩
  exact (mem_clearAuthorization.mp hmem).2 hrow

lemma sameRules_clearAuthorization (rules : List CasbinRule) (h : u ≠ userID) :
    SameRules rules (clearUserAuthorizationInTx registry userID rules) u := by
  intro rule hv0
  rw [mem_clearAuthorization]
  refine and_iff_left fun hrow => h (userSubject_inj.mp (hv0.symm.trans hrow.2.1))

lemma sameRules_setResourceInTx (rules : List CasbinRule) (entry : String × ActionMap)
    (h : u ≠ userID) :
    SameRules rules (setResourceInTx lib registry policies userID rules entry) u := by
  intro rule hv0
  have hother : rule.v0 ≠ userSubject userID := by
    rw [hv0]
    exact fun hsame => h (userSubject_inj.mp hsame)
  rw [setResourceInTx]
  split_ifs
  · rw [mem_insertRules, mem_deleteRules]
    constructor
    · rintro (⟨hmem, -⟩ | hadded)
      · exact hmem
      · obtain ⟨policy, -, rfl⟩ := mem_map.mp hadded
        exact absurd rfl hother
    · exact fun hmem => Or.inl ⟨hmem, fun hrow => hother hrow.2.1⟩
  · exact Iff.rfl

lemma sameRules_setUserPermissionsInTx (rules : List CasbinRule) (permissions : PermissionsMap)
    (h : u ≠ userID) :
    SameRules rules (setUserPermissionsInTx lib registry policies userID rules permissions) u := by
  rw [setUserPermissionsInTx]
  generalize permissions.entries = entries
  induction entries generalizing rules with
  | nil => exact SameRules.refl rules u
  | cons entry entries ih =>
    exact (sameRules_setResourceInTx lib policies rules entry h).trans (ih _)

/-! ### Histories -/

lemma Authz.Represents.authzStep (hreg : registry.PlainNames)
    (h : s.Represents (WrittenGrants registry written)) (e : AuthzEvent) :
    (authzStep lib registry s e).Represents (WrittenGrants registry (written.after e)) := by
  have hplain := plainGrants_writtenGrants hreg (written.after e)
  cases e with
  | set userID permissions =>
    exact Authz.represents_reloadPolicy lib hplain
      (rulesOf_setUserPermissionsInTx hreg h.policies h.rules userID permissions)
  | clear userID =>
    exact Authz.represents_reloadPolicy lib hplain (rulesOf_clearAuthorization h.rules userID)

/-- The first start on an empty table. -/
lemma represents_initAuthz (h : initAuthz lib registry [] = .ok s) :
    s.Represents (WrittenGrants registry fun _ _ => none) := by
  obtain rfl : seedDefaultPolicies lib registry {} = s := Except.ok.inj h
  have hempty : ({} : Authz).Represents fun _ _ _ => False :=
    ⟨by simp [RulesOf], by simp [PoliciesOf]⟩
  have hseed := hempty.foldl_addPolicy lib (roleSubject managedRoleKey) .allow
    (registry.permissionsForRole managedRoleKey)
  have hpolicies : ((builtInRoles.filter (!·.superuser)).flatMap fun spec =>
      (registry.permissionsForRole spec.key).map fun p =>
        [roleSubject spec.key, p.resource, p.action, PolicyEffect.allow.text]) =
      (registry.permissionsForRole managedRoleKey).map fun p =>
        subjectPolicy (roleSubject managedRoleKey) p .allow := by
    simp [builtInRoles, managedRoleKey, subjectPolicy]
  have hgrants : (fun subject p e => False ∨ (subject = roleSubject managedRoleKey ∧
      p ∈ registry.permissionsForRole managedRoleKey ∧ e = .allow)) =
      WrittenGrants registry fun _ _ => none := by
    funext subject p e
    refine propext ⟨?_, ?_⟩
    · rintro (hfalse | ⟨rfl, hp, rfl⟩)
      · exact hfalse.elim
      · exact .role hp
    · rintro (hp | ⟨-, desired, hnone, -⟩)
      · exact Or.inr ⟨rfl, hp, rfl⟩
      · cases hnone
  rw [seedDefaultPolicies, hpolicies, ← hgrants]
  exact hseed

lemma represents_run (hreg : registry.PlainNames)
    (h : s.Represents (WrittenGrants registry written)) (events : List AuthzEvent) :
    (run (authzStep lib registry) s events).Represents
      (WrittenGrants registry (run Written.after written events)) := by
  induction events generalizing s written with
  | nil => exact h
  | cons e events ih => exact ih (h.authzStep lib hreg e)

/-- The answers that a history of edits has to give. -/
structure AnswersExactly (registry : Registry) (written : Written) (s : Authz) : Prop where
  admin : ∀ u role p, roleAdminUser ≤ role → role < roleRootUser →
    registry.isKnownPermission p = true →
    s.can lib registry u role p = written.answer registry u p
  unknown : ∀ u role p, role < roleRootUser → registry.isKnownPermission p = false →
    s.can lib registry u role p = false
  root : ∀ u role p, roleRootUser ≤ role → s.can lib registry u role p = true
  below : ∀ u role p, role < roleAdminUser → s.can lib registry u role p = false

lemma can_of_unknown {role : ℤ} (hroot : role < roleRootUser)
    (hunknown : registry.isKnownPermission p = false) : s.can lib registry u role p = false := by
  have hsuper : isSuperuserRole "admin" = false := by decide
  simp only [Authz.can, resolveSubjectRoles, if_neg (Int.not_le.mpr hroot)]
  split_ifs <;> simp_all

lemma answersExactly_of_represents (hreg : registry.PlainNames) (hcatalog : registry.Catalogued)
    (h : s.Represents (WrittenGrants registry written)) :
    AnswersExactly lib registry written s where
  admin u role p hadmin hroot hknown :=
    can_admin_eq hreg h.policies hadmin hroot hknown (hcatalog.known hknown)
  unknown u role p hroot hunknown := can_of_unknown lib hroot hunknown
  root u role p hroot := by
    have hsuper : isSuperuserRole "root" = true := by decide
    simp [Authz.can, resolveSubjectRoles, hroot, hsuper]
  below u role p hbelow := by
    have hroot : ¬ roleRootUser ≤ role := by
      rw [roleRootUser]
      rw [roleAdminUser] at hbelow
      omega
    simp [Authz.can, resolveSubjectRoles, hroot, Int.not_le.mpr hbelow]

/-- An edit for one user leaves what was written for the others. -/
lemma Written.after_of_ne (written : Written) {e : AuthzEvent} (h : u ≠ e.userID) :
    written.after e u = written u := by
  cases e with
  | set userID permissions => exact funext fun resource => if_neg h
  | clear userID => exact funext fun resource => if_neg h

/-- Edits take effect exactly: after any history of edits a permission of an administrator is what
the last map that names its resource says, and the baseline if it says nothing; and an edit for one
user changes no answer for another. -/
theorem answersExactly_after_edits (hreg : registry.PlainNames) (hcatalog : registry.Catalogued)
    (hinit : initAuthz lib registry [] = .ok s) (events : List AuthzEvent) :
    AnswersExactly lib registry (lastWritten events) (run (authzStep lib registry) s events) ∧
      ∀ e u role p, u ≠ e.userID →
        (authzStep lib registry (run (authzStep lib registry) s events) e).can lib registry u role
            p =
          (run (authzStep lib registry) s events).can lib registry u role p := by
  have hrun := represents_run lib hreg (represents_initAuthz lib hinit) events
  have hanswers := answersExactly_of_represents lib hreg hcatalog hrun
  refine ⟨hanswers, fun e u role p hne => ?_⟩
  have hafter := answersExactly_of_represents lib hreg hcatalog (hrun.authzStep lib hreg e)
  by_cases hroot : roleRootUser ≤ role
  · rw [hafter.root u role p hroot, hanswers.root u role p hroot]
  · by_cases hadmin : roleAdminUser ≤ role
    · rw [Int.not_le] at hroot
      cases hknown : registry.isKnownPermission p with
      | false => rw [hafter.unknown u role p hroot hknown, hanswers.unknown u role p hroot hknown]
      | true =>
        rw [hafter.admin u role p hadmin hroot hknown, hanswers.admin u role p hadmin hroot hknown,
          Written.answer, Written.after_of_ne _ hne]
        rfl
    · rw [Int.not_le] at hadmin
      rw [hafter.below u role p hadmin, hanswers.below u role p hadmin]

/-! ### Registries -/

def channelRegistry : Registry :=
  [{ resource := "channel"
     actions := [⟨"read", ["admin"]⟩, ⟨"operate", ["admin"]⟩, ⟨"write", ["admin"]⟩,
       ⟨"sensitive_write", []⟩, ⟨"secret_view", []⟩] }]

/-- The map that says `value` of one action of a resource. -/
def oneAction (resource action : String) (value : Bool) : PermissionsMap where
  entries := [(resource, fun name => if name = action then some value else none)]
  nodup := by simp

theorem answersExactly_after_edits_channel :
    ∃ s, initAuthz csvCasbin channelRegistry [] = .ok s ∧
      AnswersExactly csvCasbin channelRegistry
        (lastWritten [.set 42 (oneAction "channel" "secret_view" true), .clear 7])
        (run (authzStep csvCasbin channelRegistry) s
          [.set 42 (oneAction "channel" "secret_view" true), .clear 7]) ∧
      (lastWritten [.set 42 (oneAction "channel" "secret_view" true), .clear 7]).answer
        channelRegistry 42 ⟨"channel", "secret_view"⟩ = true :=
  ⟨_, rfl, (answersExactly_after_edits csvCasbin (by decide +kernel) (by decide +kernel) rfl _).1,
    by decide +kernel⟩

/-- A resource that is registered twice, with an action each. -/
def channelTwice : Registry :=
  [{ resource := "channel", actions := [⟨"read", ["admin"]⟩] },
   { resource := "channel", actions := [⟨"export", []⟩] }]

/-- An action whose name has a comma. -/
def commaAction : Registry := [{ resource := "channel", actions := [⟨"read,write", []⟩] }]

/-- After the first start, allowing a permission for an administrator leaves it denied. -/
def IgnoresEdit (lib : Casbin) (registry : Registry) (p : Permission) : Prop :=
  ∃ s, initAuthz lib registry [] = .ok s ∧
    (authzStep lib registry s (.set 1 (oneAction p.resource p.action true))).can lib registry 1
      roleAdminUser p = false ∧
    (lastWritten [.set 1 (oneAction p.resource p.action true)]).answer registry 1 p = true

/-- An edit has no effect on an action that only a second definition of its resource has and on one
that is not registered, and it may have none on one whose name is not read back from the line of its
row. -/
theorem edit_without_effect :
    (channelTwice.isKnownPermission ⟨"channel", "export"⟩ = true ∧
      ∀ lib, IgnoresEdit lib channelTwice ⟨"channel", "export"⟩) ∧
    (∀ lib, IgnoresEdit lib channelRegistry ⟨"channel", "export"⟩) ∧
    commaAction.isKnownPermission ⟨"channel", "read,write"⟩ = true ∧
      IgnoresEdit csvCasbin commaAction ⟨"channel", "read,write"⟩ := by
  refine ⟨⟨by decide +kernel, fun lib => ⟨seedDefaultPolicies lib channelTwice {}, rfl, ?_,
    by decide +kernel⟩⟩, fun lib => ⟨_, rfl, ?_, by decide +kernel⟩, by decide +kernel, _, rfl,
    by decide +kernel⟩
  · have hplain : channelTwice.PlainNames := by decide +kernel
    have hstart := represents_initAuthz lib
      (show initAuthz lib channelTwice [] = .ok (seedDefaultPolicies lib channelTwice {}) from rfl)
    have hedited := hstart.authzStep lib hplain (.set 1 (oneAction "channel" "export" true))
    exact (can_admin_eq_baseline hplain hedited.policies (by decide) (by decide)
      (by decide +kernel) (by decide +kernel)).trans (by decide +kernel)
  · exact can_of_unknown lib (by decide) (by decide +kernel)

end XinghaiApi
