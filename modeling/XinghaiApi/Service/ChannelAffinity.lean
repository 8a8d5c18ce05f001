import XinghaiApi.Lib.Text

/-!
# Channel affinity

A rule names values of a request, such as a header or a member of the body, under which the channel
of a successful request is remembered. The key of the memory holds the name of the rule, the model
and the group only where the rule asks for them, so it can be shared by requests of other users and
of other groups.
-/

namespace XinghaiApi

open Text

inductive AffinitySourceType where
  | contextInt
  | contextString
  | requestHeader
  | gjson
deriving DecidableEq

structure ChannelAffinityKeySource where
  type : AffinitySourceType
  key : String := ""
  path : String := ""
deriving DecidableEq

structure ChannelAffinityRule where
  name : String := ""
  modelRegex : List String
  pathRegex : List String := []
  userAgentInclude : List String := []
  keySources : List ChannelAffinityKeySource
  valueRegex : String := ""
  includeUsingGroup : Bool := false
  includeModelName : Bool := false
  includeRuleName : Bool := false
deriving DecidableEq

/-- The settings and the shared memory. -/
structure ChannelAffinity where
  enabled : Bool := false
  rules : List ChannelAffinityRule := []
  /-- whether a pattern can be compiled and matches a text -/
  matchString : String → String → Bool := fun _ _ => false
  /-- the channels that are remembered, by whomever -/
  cache : String → Option ℤ := fun _ => none
  /-- the channels whose settings switch affinity off -/
  isChannelAffinityDisabled : ℤ → Bool := fun _ => false

/-- What a request has for the rules. -/
structure AffinityRequest where
  modelName : String
  path : String
  userAgent : String := ""
  /-- the value at a source, trimmed; empty where there is none -/
  value : ChannelAffinityKeySource → String := fun _ => ""

def matchAnyIncludeFold (patterns : List String) (s : String) : Bool :=
  s ≠ "" && (patterns.map trimSpace).any fun p => p ≠ "" && contains (toLower s) (toLower p)

def buildChannelAffinityCacheKeySuffix (rule : ChannelAffinityRule)
    (modelName usingGroup affinityValue : String) : String :=
  join ":"
    ((if rule.includeRuleName ∧ rule.name ≠ "" then [rule.name] else []) ++
      (if rule.includeModelName ∧ modelName ≠ "" then [modelName] else []) ++
      (if rule.includeUsingGroup ∧ usingGroup ≠ "" then [usingGroup] else []) ++
      [affinityValue])

namespace ChannelAffinity

variable (affinity : ChannelAffinity)

def matchAnyRegexCached (patterns : List String) (s : String) : Bool :=
  s ≠ "" && patterns.any fun p => p ≠ "" && affinity.matchString p s

/-- The value of a request under a rule; nothing where the rule does not apply to it. -/
def ruleValue (request : AffinityRequest) (rule : ChannelAffinityRule) : Option String :=
  if ¬ affinity.matchAnyRegexCached rule.modelRegex request.modelName then none
  else if rule.pathRegex ≠ [] ∧ ¬ affinity.matchAnyRegexCached rule.pathRegex request.path then none
  else if rule.userAgentInclude ≠ [] ∧
      ¬ matchAnyIncludeFold rule.userAgentInclude request.userAgent then none
  else
    match (rule.keySources.map request.value).find? (· ≠ "") with
    | none       => none
    | some value =>
      if rule.valueRegex ≠ "" ∧ ¬ affinity.matchAnyRegexCached [rule.valueRegex] value then none
      else some value

/-- The first rule that applies decides, also where nothing is remembered for it. -/
def getPreferredChannelByAffinity (request : AffinityRequest) (usingGroup : String) : Option ℤ :=
  if affinity.enabled then
    (affinity.rules.findSome? fun rule =>
      (affinity.ruleValue request rule).map fun value =>
        affinity.cache
          (buildChannelAffinityCacheKeySuffix rule request.modelName usingGroup value)).bind
      fun found => found.filter fun id => !affinity.isChannelAffinityDisabled id
  else none

end ChannelAffinity

end XinghaiApi
