import XinghaiApi.Lib.Csv

/-!
# Policies of administrators

A registry lists the resources and their actions, with the roles that may do them by default. The
rules are rows of a table, one for a subject, a resource, an action and an effect. The enforcer
answers from the policies it holds in memory, which it reads from the rows, each written as a line
of comma separated values. The enforcer is that of casbin, a parameter here.
-/

namespace XinghaiApi

open Csv Text List

def roleGuestUser : ℤ := 0

def roleCommonUser : ℤ := 1

def roleAdminUser : ℤ := 10

def roleRootUser : ℤ := 100

/-! ### The registry -/

structure Permission where
  resource : String
  action : String
deriving DecidableEq

structure ActionDefinition where
  action : String
  defaultRoles : List String := []

structure ResourceDefinition where
  resource : String
  actions : List ActionDefinition

abbrev Registry := List ResourceDefinition

namespace Registry

variable (registry : Registry)

def permissionsForRole (roleKey : String) : List Permission :=
  registry.flatMap fun resource =>
    (resource.actions.filter (roleKey ∈ ·.defaultRoles)).map fun action =>
      { resource := resource.resource, action := action.action }

def isKnownResource (resource : String) : Bool :=
  registry.any (·.resource = resource)

def catalogActions (resource : String) : List ActionDefinition :=
  ((registry.find? (·.resource = resource)).map ResourceDefinition.actions).getD []

/-- An action of any definition of the resource is known. -/
def isKnownPermission (permission : Permission) : Bool :=
  registry.any fun resource => resource.resource = permission.resource &&
    resource.actions.any (·.action = permission.action)

end Registry

/-! ### Rules -/

inductive PolicyEffect
  | allow
  | deny
deriving DecidableEq

open PolicyEffect

def PolicyEffect.text : PolicyEffect → String
  | .allow => "allow"
  | .deny  => "deny"

structure CasbinRule where
  ptype : String
  v0 : String := ""
  v1 : String := ""
  v2 : String := ""
  v3 : String := ""
  v4 : String := ""
  v5 : String := ""
deriving DecidableEq

def userSubject (userID : ℤ) : String := "user:" ++ userID.repr

def roleSubject (roleKey : String) : String := "role:" ++ roleKey

def newRule (ptype : String) (policy : List String) : CasbinRule where
  ptype := ptype
  v0 := policy.getD 0 ""
  v1 := policy.getD 1 ""
  v2 := policy.getD 2 ""
  v3 := policy.getD 3 ""
  v4 := policy.getD 4 ""
  v5 := policy.getD 5 ""

/-- A rule without an effect allows; empty values are left out. -/
def ruleToLine (rule : CasbinRule) : String :=
  let v3 := if rule.ptype = "p" ∧ rule.v0 ≠ "" ∧ rule.v1 ≠ "" ∧ rule.v2 ≠ "" ∧ rule.v3 = "" then
    allow.text else rule.v3
  join ", " (rule.ptype :: [rule.v0, rule.v1, rule.v2, v3, rule.v4, rule.v5].filter (· ≠ ""))

/-- The rules that are not there yet are added at the end. -/
def insertRules (rules : List CasbinRule) (added : List CasbinRule) : List CasbinRule :=
  added.foldl (fun rules rule => if rule ∈ rules then rules else rules ++ [rule]) rules

/-! ### The enforcer -/

/-- What is taken from casbin. Policies are lists of values; that of a line of plain values is read
back, and a filter without empty values is one on equality. -/
structure Casbin where
  /-- `LoadPolicyLine`, into the policies that were read before -/
  loadPolicyLine : List (List String) → String → Except String (List (List String))
  /-- the policies in memory after a `LoadPolicy` that fails -/
  failedLoad : List (List String) → List (List String)
  /-- `AddPolicy` in memory, unless the policy is there and nothing is written -/
  addPolicy : List (List String) → List String → Option (List (List String))
  getFilteredPolicy : List (List String) → (subject resource action : String) → List (List String)
  load_join : ∀ policies {policy : List String}, policy.length = 4 →
    (∀ value ∈ policy, isPlain value = true) →
    ∃ loaded, loadPolicyLine policies (join ", " ("p" :: policy)) = .ok loaded ∧
      ∀ other, other ∈ loaded ↔ other ∈ policies ∨ other = policy
  add_of_mem : ∀ {policies policy}, policy ∈ policies → addPolicy policies policy = none
  add_of_notMem : ∀ {policies policy}, policy ∉ policies →
    ∃ added, addPolicy policies policy = some added ∧
      ∀ other, other ∈ added ↔ other ∈ policies ∨ other = policy
  mem_filtered : ∀ {policies policy} {subject resource action : String},
    (∀ other ∈ policies, other.length = 4) → subject ≠ "" → resource ≠ "" → action ≠ "" →
    (policy ∈ getFilteredPolicy policies subject resource action ↔
      policy ∈ policies ∧ ∃ effect, policy = [subject, resource, action, effect])

/-- The table of the rules and the policies in memory. -/
structure Authz where
  rules : List CasbinRule := []
  policies : List (List String) := []

section

variable (lib : Casbin)

/-- `LoadPolicy` of the adapter. -/
def loadPolicy (rules : List CasbinRule) : Except String (List (List String)) :=
  (rules.map ruleToLine).foldlM lib.loadPolicyLine []

def Authz.reloadPolicy (s : Authz) : Authz :=
  match loadPolicy lib s.rules with
  | .error _     => { s with policies := lib.failedLoad s.policies }
  | .ok policies => { s with policies }

/-- `AddPolicy` of the enforcer and of the adapter. -/
def Authz.addPolicy (s : Authz) (policy : List String) : Authz :=
  match lib.addPolicy s.policies policy with
  | none          => s
  | some policies => { rules := insertRules s.rules [newRule "p" policy], policies }

def policyEffect (policy : List String) : String :=
  if policy.getD 3 "" = "" then allow.text else policy.getD 3 ""

/-- A policy that denies wins over those that allow. -/
def explicitSubjectEffect (policies : List (List String)) (subject : String)
    (permission : Permission) : Option PolicyEffect :=
  let effects := (lib.getFilteredPolicy policies subject permission.resource
    permission.action).map policyEffect
  if deny.text ∈ effects then some .deny
  else if allow.text ∈ effects then some .allow
  else none

def roleBaselineAllows (policies : List (List String)) (roleKey : String)
    (permission : Permission) : Bool :=
  explicitSubjectEffect lib policies (roleSubject roleKey) permission = some .allow

end

/-! ### Roles -/

structure RoleSpec where
  key : String
  superuser : Bool

def builtInRoles : List RoleSpec := [⟨"root", true⟩, ⟨"admin", false⟩]

def isSuperuserRole (roleKey : String) : Bool :=
  (builtInRoles.find? (·.key = roleKey)).any RoleSpec.superuser

def resolveSubjectRoles (systemRole : ℤ) : List String :=
  if roleRootUser ≤ systemRole then ["root"]
  else if roleAdminUser ≤ systemRole then ["admin"]
  else []

/-- The role whose baseline the permissions of a user are compared with. -/
def managedRoleKey : String := "admin"

/-- `Can`: a superuser may do everything, otherwise what is stored for the user comes first and the
roles of the user second. -/
def Authz.can (lib : Casbin) (s : Authz) (registry : Registry) (userID systemRole : ℤ)
    (permission : Permission) : Bool :=
  let roles := resolveSubjectRoles systemRole
  if roles = [] then false
  else if roles.any isSuperuserRole then true
  else if !registry.isKnownPermission permission then false
  else
    match explicitSubjectEffect lib s.policies (userSubject userID) permission with
    | some effect => effect = .allow
    | none        => roles.any (roleBaselineAllows lib s.policies · permission)

/-! ### The first start -/

def resetBuiltInRolePolicies (rules : List CasbinRule) : List CasbinRule :=
  let subjects := builtInRoles.map fun spec => roleSubject spec.key
  rules.filter fun rule => !(rule.ptype = "p" && rule.v0 ∈ subjects)

def seedDefaultPolicies (lib : Casbin) (registry : Registry) (s : Authz) : Authz :=
  ((builtInRoles.filter (!·.superuser)).flatMap fun spec =>
    (registry.permissionsForRole spec.key).map fun permission =>
      [roleSubject spec.key, permission.resource, permission.action, allow.text]).foldl
    (Authz.addPolicy lib) s

/-- `Init` of the master node. -/
def initAuthz (lib : Casbin) (registry : Registry) (rules : List CasbinRule) :
    Except String Authz :=
  let rules := resetBuiltInRolePolicies rules
  (loadPolicy lib rules).map fun policies => seedDefaultPolicies lib registry { rules, policies }

/-! ### Grants

The rows and the policies stand for a relation between subjects, permissions and effects. -/

section

variable (subject : String) (permission : Permission) (effect : PolicyEffect)

/-- The row of a grant. -/
def subjectRule : CasbinRule :=
  newRule "p" [subject, permission.resource, permission.action, effect.text]

def subjectPolicy : List String :=
  [subject, permission.resource, permission.action, effect.text]

end

abbrev Grants := String → Permission → PolicyEffect → Prop

def RulesOf (grants : Grants) (rules : List CasbinRule) : Prop :=
  ∀ rule, rule ∈ rules ↔
    ∃ subject permission effect, grants subject permission effect ∧
      rule = subjectRule subject permission effect

def PoliciesOf (grants : Grants) (policies : List (List String)) : Prop :=
  ∀ policy, policy ∈ policies ↔
    ∃ subject permission effect, grants subject permission effect ∧
      policy = subjectPolicy subject permission effect

/-- A grant whose values are read back from the line of its row. -/
def PlainGrants (grants : Grants) : Prop :=
  ∀ subject permission effect, grants subject permission effect →
    isPlain subject = true ∧ isPlain permission.resource = true ∧ isPlain permission.action = true

/-- Both the rows and the policies in memory are those of the grants. -/
structure Authz.Represents (s : Authz) (grants : Grants) : Prop where
  rules : RulesOf grants s.rules
  policies : PoliciesOf grants s.policies

/-! #### The rows of grants -/

variable (lib : Casbin) {e e' : PolicyEffect} {subject subject' : String} {p : Permission}
  {grants : Grants} {rules : List CasbinRule} {policies : List (List String)} {s : Authz}

lemma PolicyEffect.text_inj : e.text = e'.text ↔ e = e' := by
  cases e <;> cases e' <;> decide

lemma PolicyEffect.isPlain_text (e : PolicyEffect) : isPlain e.text = true := by
  cases e <;> decide

lemma subjectPolicy_inj {p' : Permission} :
    subjectPolicy subject p e = subjectPolicy subject' p' e' ↔
      subject = subject' ∧ p = p' ∧ e = e' := by
  cases p
  cases p'
  simp [subjectPolicy, text_inj, and_assoc]

lemma subjectRule_inj {p' : Permission} :
    subjectRule subject p e = subjectRule subject' p' e' ↔
      subject = subject' ∧ p = p' ∧ e = e' := by
  cases p
  cases p'
  simp [subjectRule, newRule, text_inj, and_assoc]

lemma PoliciesOf.mem_iff (h : PoliciesOf grants policies) :
    subjectPolicy subject p e ∈ policies ↔ grants subject p e := by
  rw [h]
  constructor
  · rintro ⟨subject', p', e', hgrant, heq⟩
    obtain ⟨rfl, rfl, rfl⟩ := subjectPolicy_inj.mp heq
    exact hgrant
  · exact fun hgrant => ⟨subject, p, e, hgrant, rfl⟩

lemma RulesOf.mem_iff (h : RulesOf grants rules) :
    subjectRule subject p e ∈ rules ↔ grants subject p e := by
  rw [h]
  constructor
  · rintro ⟨subject', p', e', hgrant, heq⟩
    obtain ⟨rfl, rfl, rfl⟩ := subjectRule_inj.mp heq
    exact hgrant
  · exact fun hgrant => ⟨subject, p, e, hgrant, rfl⟩

lemma mem_insertRules {added : List CasbinRule} {rule : CasbinRule} :
    rule ∈ insertRules rules added ↔ rule ∈ rules ∨ rule ∈ added := by
  induction added generalizing rules with
  | nil => simp [insertRules]
  | cons first added ih =>
    have hfirst : rule ∈ (if first ∈ rules then rules else rules ++ [first]) ↔
        rule ∈ rules ∨ rule = first := by
      split_ifs with hold
      · exact ⟨Or.inl, fun h => h.elim id fun h => h ▸ hold⟩
      · simp
    rw [insertRules, foldl_cons, ← insertRules, ih, hfirst, mem_cons, or_assoc]

lemma RulesOf.congr {grants' : Grants} (h : RulesOf grants rules)
    (hgrants : ∀ subject p e, grants subject p e ↔ grants' subject p e) :
    RulesOf grants' rules := by
  obtain rfl : grants = grants' := funext fun s => funext fun p => funext fun e =>
    propext (hgrants s p e)
  exact h

lemma RulesOf.insert {added : Grants} {addedRules : List CasbinRule} (h : RulesOf grants rules)
    (hadded : RulesOf added addedRules) :
    RulesOf (fun subject p e => grants subject p e ∨ added subject p e)
      (insertRules rules addedRules) := by
  intro rule
  rw [mem_insertRules, h, hadded]
  constructor
  · rintro (⟨subject, p, e, hgrant, rfl⟩ | ⟨subject, p, e, hgrant, rfl⟩)
    · exact ⟨subject, p, e, Or.inl hgrant, rfl⟩
    · exact ⟨subject, p, e, Or.inr hgrant, rfl⟩
  · rintro ⟨subject, p, e, hgrant | hgrant, rfl⟩
    · exact Or.inl ⟨subject, p, e, hgrant, rfl⟩
    · exact Or.inr ⟨subject, p, e, hgrant, rfl⟩

lemma Authz.Represents.addPolicy (h : s.Represents grants) (subject : String) (p : Permission)
    (e : PolicyEffect) :
    (s.addPolicy lib (subjectPolicy subject p e)).Represents fun subject' p' e' =>
      grants subject' p' e' ∨ (subject' = subject ∧ p' = p ∧ e' = e) := by
  rw [Authz.addPolicy]
  by_cases hmem : subjectPolicy subject p e ∈ s.policies
  · rw [lib.add_of_mem hmem]
    have hgrant := h.policies.mem_iff.mp hmem
    have hsame : (fun subject' p' e' => grants subject' p' e' ∨
        (subject' = subject ∧ p' = p ∧ e' = e)) = grants := by
      funext subject' p' e'
      refine propext ⟨fun hor => hor.elim id ?_, Or.inl⟩
      rintro ⟨rfl, rfl, rfl⟩
      exact hgrant
    rw [hsame]
    exact h
  · obtain ⟨added, hadded, hpolicies⟩ := lib.add_of_notMem hmem
    rw [hadded]
    constructor
    · refine h.rules.insert fun rule => ?_
      rw [mem_singleton]
      constructor
      · rintro rfl
        exact ⟨subject, p, e, ⟨rfl, rfl, rfl⟩, rfl⟩
      · rintro ⟨_, _, _, ⟨rfl, rfl, rfl⟩, rfl⟩
        rfl
    · intro policy
      rw [hpolicies, h.policies]
      constructor
      · rintro (⟨subject', p', e', hgrant, rfl⟩ | rfl)
        · exact ⟨subject', p', e', Or.inl hgrant, rfl⟩
        · exact ⟨subject, p, e, Or.inr ⟨rfl, rfl, rfl⟩, rfl⟩
      · rintro ⟨subject', p', e', hgrant | ⟨rfl, rfl, rfl⟩, rfl⟩
        · exact Or.inl ⟨subject', p', e', hgrant, rfl⟩
        · exact Or.inr rfl

/-- The policies of a role are added one after the other. -/
lemma Authz.Represents.foldl_addPolicy (h : s.Represents grants) (subject : String)
    (e : PolicyEffect) (permissions : List Permission) :
    ((permissions.map fun p => subjectPolicy subject p e).foldl (Authz.addPolicy lib) s).Represents
      fun subject' p' e' =>
        grants subject' p' e' ∨ (subject' = subject ∧ p' ∈ permissions ∧ e' = e) := by
  induction permissions generalizing s grants with
  | nil => simpa using h
  | cons p permissions ih =>
    have hrest := ih (h.addPolicy lib subject p e)
    have hgrants : (fun subject' p' e' => (grants subject' p' e' ∨
        (subject' = subject ∧ p' = p ∧ e' = e)) ∨
          (subject' = subject ∧ p' ∈ permissions ∧ e' = e)) =
        fun subject' p' e' => grants subject' p' e' ∨
          (subject' = subject ∧ p' ∈ p :: permissions ∧ e' = e) := by
      funext subject' p' e'
      simp only [mem_cons, eq_iff_iff]
      tauto
    rw [hgrants] at hrest
    exact hrest

/-! #### Reading the rows -/

lemma loadPolicyLine_subjectRule (e : PolicyEffect) (hsubject : isPlain subject = true)
    (hresource : isPlain p.resource = true) (haction : isPlain p.action = true)
    (policies : List (List String)) :
    ∃ loaded, lib.loadPolicyLine policies (ruleToLine (subjectRule subject p e)) = .ok loaded ∧
      ∀ other, other ∈ loaded ↔ other ∈ policies ∨ other = subjectPolicy subject p e := by
  have hne : ∀ {s : String}, isPlain s = true → s ≠ "" := fun h => (isPlain_iff.mp h).1
  have hline : ruleToLine (subjectRule subject p e) =
      join ", " ("p" :: subjectPolicy subject p e) := by
    simp [ruleToLine, subjectRule, newRule, subjectPolicy, hne hsubject, hne hresource, hne haction,
      hne e.isPlain_text]
  rw [hline]
  refine lib.load_join policies rfl ?_
  simp only [subjectPolicy, forall_mem_cons]
  exact ⟨hsubject, hresource, haction, e.isPlain_text, by simp⟩

lemma foldlM_loadPolicyLine (hplain : PlainGrants grants)
    (hrules : ∀ rule ∈ rules, ∃ subject p e, grants subject p e ∧ rule = subjectRule subject p e)
    (policies : List (List String)) :
    ∃ loaded, (rules.map ruleToLine).foldlM lib.loadPolicyLine policies = .ok loaded ∧
      ∀ policy, policy ∈ loaded ↔ policy ∈ policies ∨
        ∃ subject p e, subjectRule subject p e ∈ rules ∧ policy = subjectPolicy subject p e := by
  induction rules generalizing policies with
  | nil => exact ⟨policies, rfl, by simp⟩
  | cons rule rules ih =>
    obtain ⟨subject, p, e, hgrant, rfl⟩ := hrules rule mem_cons_self
    obtain ⟨hsubject, hresource, haction⟩ := hplain subject p e hgrant
    obtain ⟨first, hfirst, hstep⟩ :=
      loadPolicyLine_subjectRule lib e hsubject hresource haction policies
    obtain ⟨loaded, hloaded, hmem⟩ := ih (fun rule hrule => hrules rule
      (mem_cons_of_mem _ hrule)) first
    refine ⟨loaded, ?_, fun policy => ?_⟩
    · rw [map_cons, foldlM_cons, hfirst]
      exact hloaded
    · rw [hmem, hstep, or_assoc]
      refine or_congr_right ?_
      constructor
      · rintro (rfl | ⟨subject', p', e', hrule, rfl⟩)
        · exact ⟨subject, p, e, mem_cons_self, rfl⟩
        · exact ⟨subject', p', e', mem_cons_of_mem _ hrule, rfl⟩
      · rintro ⟨subject', p', e', hrule, rfl⟩
        rcases mem_cons.mp hrule with heq | hrule
        · obtain ⟨rfl, rfl, rfl⟩ := subjectRule_inj.mp heq
          exact Or.inl rfl
        · exact Or.inr ⟨subject', p', e', hrule, rfl⟩

/-- Rows of plain grants are read back into the policies of the grants. -/
lemma Authz.represents_reloadPolicy (hplain : PlainGrants grants) (h : RulesOf grants s.rules) :
    (s.reloadPolicy lib).Represents grants := by
  obtain ⟨loaded, hloaded, hmem⟩ :=
    foldlM_loadPolicyLine lib hplain (fun rule hrule => (h rule).mp hrule) []
  rw [Authz.reloadPolicy, loadPolicy, hloaded]
  refine ⟨h, fun policy => ?_⟩
  rw [hmem]
  simp only [not_mem_nil, false_or]
  refine exists_congr fun subject => exists_congr fun p => exists_congr fun e => ?_
  rw [h.mem_iff]

/-! #### Effects -/

section

variable (h : PoliciesOf grants policies) (hsubject : subject ≠ "") (hresource : p.resource ≠ "")
  (haction : p.action ≠ "")

include h hsubject hresource haction

lemma text_mem_effects_iff :
    e.text ∈ (lib.getFilteredPolicy policies subject p.resource p.action).map policyEffect ↔
      grants subject p e := by
  have hlength : ∀ policy ∈ policies, policy.length = 4 := by
    intro policy hpolicy
    obtain ⟨_, _, _, -, rfl⟩ := (h policy).mp hpolicy
    rfl
  have heffect : policyEffect (subjectPolicy subject p e) = e.text := by
    cases e <;> rfl
  rw [← h.mem_iff, mem_map]
  constructor
  · rintro ⟨policy, hpolicy, htext⟩
    obtain ⟨hmem, effect, rfl⟩ := (lib.mem_filtered hlength hsubject hresource haction).mp hpolicy
    obtain ⟨subject', p', e', -, heq⟩ := (h _).mp hmem
    obtain rfl : effect = e'.text := by
      simp only [subjectPolicy, cons.injEq] at heq
      exact heq.2.2.2.1
    obtain rfl : e' = e := by
      cases e' <;> exact text_inj.mp htext
    exact hmem
  · intro hmem
    exact ⟨_, (lib.mem_filtered hlength hsubject hresource haction).mpr ⟨hmem, _, rfl⟩, heffect⟩

lemma explicitSubjectEffect_eq_some_iff :
    explicitSubjectEffect lib policies subject p = some e ↔
      grants subject p e ∧ (e = .deny ∨ ¬ grants subject p .deny) := by
  have hmem : ∀ e : PolicyEffect, e.text ∈ (lib.getFilteredPolicy policies subject p.resource
      p.action).map policyEffect ↔ grants subject p e :=
    fun e => text_mem_effects_iff lib h hsubject hresource haction
  simp only [explicitSubjectEffect]
  cases e with
  | allow => split_ifs <;> simp_all
  | deny => split_ifs <;> simp_all

end

/-! ### An enforcer

Lines are read as records of comma separated values, and an empty value of a filter stands for
any. -/

def loadPolicyLine (policies : List (List String)) (line : String) :
    Except String (List (List String)) :=
  if line = "" || hasPrefix line "#" then .ok policies
  else
    match readRecord line with
    | .error err            => .error err
    | .ok []                => .ok policies
    | .ok (ptype :: policy) =>
      if ptype ≠ "p" then .error s!"missing required definition {ptype}"
      else if policy.length ≠ 4 then
        .error s!"invalid policy rule size: expected 4, got {policy.length}"
      else if policy ∈ policies then .ok policies
      else .ok (policies ++ [policy])

lemma loadPolicyLine_join (policies : List (List String)) {policy : List String}
    (hlength : policy.length = 4) (hplain : ∀ value ∈ policy, isPlain value = true) :
    ∃ loaded, loadPolicyLine policies (join ", " ("p" :: policy)) = .ok loaded ∧
      ∀ other, other ∈ loaded ↔ other ∈ policies ∨ other = policy := by
  have hread : readRecord (join ", " ("p" :: policy)) = .ok ("p" :: policy) :=
    readRecord_join (by simp) (forall_mem_cons.mpr ⟨by decide, hplain⟩)
  have hline : (join ", " ("p" :: policy) = "" || hasPrefix (join ", " ("p" :: policy)) "#") =
      false := by
    cases policy <;> simp [join, hasPrefix, List.isPrefixOf]
  rw [loadPolicyLine, hline, hread]
  simp only [Bool.false_eq_true, if_false, ne_eq, not_true_eq_false, hlength]
  split_ifs with hold
  · exact ⟨policies, rfl, fun other => ⟨Or.inl, fun h => h.elim id fun h => h ▸ hold⟩⟩
  · exact ⟨policies ++ [policy], rfl, by simp⟩

def fieldMatches (fieldValue value : String) : Bool := fieldValue = "" || value = fieldValue

def csvCasbin : Casbin where
  loadPolicyLine := loadPolicyLine
  failedLoad policies := policies
  addPolicy policies policy := if policy ∈ policies then none else some (policies ++ [policy])
  getFilteredPolicy policies subject resource action :=
    policies.filter fun policy => fieldMatches subject (policy.getD 0 "") &&
      fieldMatches resource (policy.getD 1 "") && fieldMatches action (policy.getD 2 "")
  load_join policies policy := loadPolicyLine_join policies
  add_of_mem hmem := if_pos hmem
  add_of_notMem hnot := ⟨_, if_neg hnot, by simp⟩
  mem_filtered hlength hsubject hresource haction := by
    rw [mem_filter]
    refine and_congr_right fun hmem => ?_
    obtain ⟨s, r, a, e, rfl⟩ := length_eq_four.mp (hlength _ hmem)
    simp [fieldMatches, hsubject, hresource, haction, and_assoc]

end XinghaiApi
