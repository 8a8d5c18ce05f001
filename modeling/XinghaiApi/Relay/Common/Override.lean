import Mathlib.Data.List.AList
import XinghaiApi.Lib.Except
import XinghaiApi.Lib.Json
import XinghaiApi.Lib.Text

/-!
# Overrides of parameters and headers

A channel can change the body and the headers of the requests it is sent. Operations on headers work
on a context that is built for the attempt; those on the body are left to the JSON libraries, which
are a parameter here.
-/

namespace XinghaiApi

open Text Json

/-! ### Operations -/

structure ConditionOperation where
  path : String
  mode : String
  value : Json := .null
  invert : Bool := false
  passMissingKey : Bool := false

/-- A value of `null` counts as no value. -/
structure ParamOperation where
  path : String := ""
  mode : String
  value : Json := .null
  keepOrigin : Bool := false
  «from» : String := ""
  «to» : String := ""
  conditions : List ConditionOperation := []
  logic : String := "OR"

/-- The modes that change the body only. -/
def bodyModes : List String :=
  ["delete", "set", "move", "copy", "prepend", "append", "trim_prefix", "trim_suffix",
    "ensure_prefix", "ensure_suffix", "trim_space", "to_lower", "to_upper", "replace",
    "regex_replace", "prune_objects"]

structure ParamOverrideReturnError where
  message : String := ""
  statusCode : ℤ := 400
  code : String := "invalid_request"
  type : String := "invalid_request_error"
  skipRetry : Bool := true
deriving DecidableEq

inductive OverrideError where
  | failed (text : String)
  | sourceHeaderNotFound (header : String)
  | returned (err : ParamOverrideReturnError)
deriving DecidableEq

def OverrideError.text : OverrideError → String
  | .failed text                 => text
  | .sourceHeaderNotFound header => "source header does not exist: " ++ header
  | .returned err                => err.message

/-- What is taken from the JSON libraries: texts of values, values at paths, and the operations on a
body of type `δ`. Negative indices in the paths of a body are resolved. The operations on the body
are one parameter: what is shown about headers holds whatever they do. -/
structure JsonLib (δ : Type) where
  /-- the text that a decoded value is printed as -/
  format : Json → String
  format_str : ∀ s, format (.str s) = s
  /-- the text of a value that was looked up -/
  text : Json → String
  parse : String → Option Json
  lookup : Json → String → Option Json
  get : δ → String → Option Json
  set : δ → String → Json → Except String δ
  /-- set a member of the body, whatever characters its key has -/
  setMember : δ → String → Json → Except String δ
  /-- an operation of one of the `bodyModes`, in a context -/
  edit : ParamOperation → Json → δ → Except String δ

/-! ### Header maps -/

/-- The values of headers, by normalised name. -/
abbrev HeaderMap := AList fun _ : String => String

def HeaderMap.members (headers : HeaderMap) : List (String × Json) :=
  headers.entries.map fun e => (e.1, .str e.2)

def normalizeHeaderContextKey (key : String) : String := trimSpace (toLower key)

def isHeaderPassthroughRuleKeyForOverride (key : String) : Bool :=
  let key := trimSpace (toLower key)
  key ≠ "" && (key = "*" || hasPrefix key "re:" || hasPrefix key "regex:")

/-- The part of the relay info that an attempt can write and the next one finds as it was left. -/
structure SharedInfo where
  originModelName : String
  requestURLPath : String
  runtimeHeadersOverride : HeaderMap := ∅
  useRuntimeHeadersOverride : Bool := false

structure LastError where
  statusCode : ℤ
  message : String
  errorCode : String
  errorType : String
  skipRetry : Bool
deriving DecidableEq

structure ChannelMeta where
  upstreamModelName : String
  paramOverride : List (String × Json)
  headersOverride : List (String × Json)

/-- A request as it arrives. -/
structure OverrideRequest where
  originModelName : String
  requestURLPath : String := ""
  requestHeaders : List (String × String) := []
  isChannelTest : Bool := false
  /-- the template of the affinity rule that the request meets -/
  paramTemplate : List (String × Json) := []

/-- The relay info of an attempt. -/
structure OverrideInfo extends SharedInfo where
  request : OverrideRequest
  channelMeta : ChannelMeta
  retryIndex : ℕ := 0
  lastError : Option LastError := none

/-- The context of the operations: the values that conditions can look at, and the headers. -/
structure OverrideContext where
  values : List (String × Json)
  requestHeaders : HeaderMap
  headerOverride : HeaderMap

def OverrideContext.json (context : OverrideContext) : Json :=
  .obj (context.values ++
    [("request_headers", .obj context.requestHeaders.members),
      ("header_override", .obj context.headerOverride.members)])

section

variable {δ : Type} (lib : JsonLib δ)

def sanitizeEntry (target : HeaderMap) (entry : String × Json) : HeaderMap :=
  let key := normalizeHeaderContextKey entry.1
  let value := trimSpace (lib.format entry.2)
  if key = "" then target
  else if value = "" then
    if isHeaderPassthroughRuleKeyForOverride key then target.insert key "" else target
  else target.insert key value

def sanitizeHeaderOverrideMap (source : List (String × Json)) : HeaderMap :=
  source.foldl (sanitizeEntry lib) ∅

def getEffectiveHeaderOverride (info : OverrideInfo) : HeaderMap :=
  if info.useRuntimeHeadersOverride then
    sanitizeHeaderOverrideMap lib info.runtimeHeadersOverride.members
  else sanitizeHeaderOverrideMap lib info.channelMeta.headersOverride

/-! ### The context of an attempt -/

def buildRequestHeadersContext (headers : List (String × String)) : HeaderMap :=
  headers.foldl
    (fun target header =>
      let key := normalizeHeaderContextKey header.1
      let value := trimSpace header.2
      if key = "" ∨ value = "" then target else target.insert key value) ∅

def modelValues (originModelName upstreamModelName : String) : List (String × Json) :=
  let model := if upstreamModelName ≠ "" then upstreamModelName else originModelName
  (if model ≠ "" then [("model", .str model)] else []) ++
    (if upstreamModelName ≠ "" then [("upstream_model", .str upstreamModelName)] else []) ++
    (if originModelName ≠ "" then [("original_model", .str originModelName)] else [])

def retryValues (retryIndex : ℕ) : List (String × Json) :=
  let index : Json := .num retryIndex
  let isRetry : Json := .bool (0 < retryIndex)
  [("retry_index", index), ("is_retry", isRetry),
    ("retry", .obj [("index", index), ("is_retry", isRetry)])]

def LastError.values (err : LastError) : List (String × Json) :=
  let statusCode : Json := .num err.statusCode
  let message : Json := .str err.message
  let code : Json := .str err.errorCode
  let errorType : Json := .str err.errorType
  [("last_error", .obj
      [("status_code", statusCode), ("message", message), ("code", code), ("error_code", code),
        ("type", errorType), ("error_type", errorType), ("skip_retry", .bool err.skipRetry)]),
    ("last_error_status_code", statusCode), ("last_error_message", message),
    ("last_error_code", code), ("last_error_type", errorType)]

def buildParamOverrideContext (info : OverrideInfo) : OverrideContext where
  values :=
    modelValues info.originModelName info.channelMeta.upstreamModelName ++
      (if info.requestURLPath ≠ "" then [("request_path", .str info.requestURLPath)] else []) ++
      retryValues info.retryIndex ++ (info.lastError.map LastError.values).getD [] ++
      [("is_channel_test", .bool info.request.isChannelTest)]
  requestHeaders := buildRequestHeadersContext info.request.requestHeaders
  headerOverride := sanitizeHeaderOverrideMap lib (getEffectiveHeaderOverride lib info).members

/-! ### Conditions -/

/-- `null` equals `null` only, and values of different types do not compare. -/
def compareEqual (value target : Json) : Except String Bool :=
  match value, target with
  | .null, .null       => .ok true
  | .null, _           => .ok false
  | _, .null           => .ok false
  | .bool a, .bool b   => .ok (a = b)
  | .num a, .num b     => .ok (a = b)
  | .str a, .str b     => .ok (a = b)
  | a, b               =>
    if a.kind ≠ b.kind then
      .error ("compare for different types, got " ++ a.kind.name ++ " and " ++ b.kind.name)
    else .ok (lib.text a = lib.text b)

def compareNumeric (compare : ℚ → ℚ → Bool) : Json → Json → Except String Bool
  | .num a, .num b => .ok (compare a b)
  | a, b           =>
    .error ("numeric comparison requires both values to be numbers, got " ++ a.kind.name ++
      " and " ++ b.kind.name)

def compareGjsonValues (value target : Json) (mode : String) : Except String Bool :=
  match mode with
  | "full"     => compareEqual lib value target
  | "prefix"   => .ok (hasPrefix (lib.text value) (lib.text target))
  | "suffix"   => .ok (hasSuffix (lib.text value) (lib.text target))
  | "contains" => .ok (Text.contains (lib.text value) (lib.text target))
  | "gt"       => compareNumeric (fun a b => b < a) value target
  | "gte"      => compareNumeric (fun a b => b ≤ a) value target
  | "lt"       => compareNumeric (fun a b => a < b) value target
  | "lte"      => compareNumeric (fun a b => a ≤ b) value target
  | mode       => .error ("unsupported comparison mode: " ++ mode)

/-- A path is looked up in the body first and in the context after it. -/
def checkSingleCondition (data : δ) (context : Json) (condition : ConditionOperation) :
    Except OverrideError Bool :=
  match (lib.get data condition.path).or (lib.lookup context condition.path) with
  | none       => .ok condition.passMissingKey
  | some value =>
    match compareGjsonValues lib value condition.value (toLower condition.mode) with
    | .ok result => .ok (result != condition.invert)
    | .error err =>
      .error (.failed ("comparison failed for path " ++ condition.path ++ ": " ++ err))

def checkConditions (data : δ) (context : Json) (conditions : List ConditionOperation)
    (logic : String) : Except OverrideError Bool := do
  if conditions.isEmpty then return true
  let results ← conditions.mapM (checkSingleCondition lib data context)
  return if toLower logic = "and" then results.all id else results.any id

/-! ### Values of headers -/

/-- The value of a header: what was overridden, or else what the client sent. -/
def getHeaderValueFromContext (context : OverrideContext) (headerName : String) : Option String :=
  let headerName := normalizeHeaderContextKey headerName
  if headerName = "" then none
  else
    [context.headerOverride, context.requestHeaders].findSome? fun source =>
      (source.lookup headerName).bind fun raw =>
        let value := trimSpace raw
        if value = "" then none else some value

def splitHeaderListValue (raw : String) : List String :=
  ((split ',' raw).map trimSpace).filter (· ≠ "")

mutual

def parseHeaderReplacementTokens : Json → Except OverrideError (List String)
  | .null      => .ok []
  | .str raw   => .ok (splitHeaderListValue raw)
  | .arr items => (parseHeaderReplacementItems items).map List.eraseDups
  | .obj _     => .error (.failed "header replacement value must be string, array or null")
  | value      =>
    let token := trimSpace (lib.format value)
    .ok (if token = "" then [] else [token])

def parseHeaderReplacementItems : List Json → Except OverrideError (List String)
  | []            => .ok []
  | item :: items => do
    let tokens ← parseHeaderReplacementTokens item
    let rest ← parseHeaderReplacementItems items
    return tokens ++ rest

end

def replaceHeaderToken (mapping : List (String × Json)) (keepOnlyDeclared : Bool) (token : String) :
    Except OverrideError (List String) :=
  let replacement := (mapping.lookup token).or
    (if keepOnlyDeclared then none else mapping.lookup "*")
  match replacement with
  | some value => parseHeaderReplacementTokens lib value
  | none       => .ok (if keepOnlyDeclared then [] else [token])

section

variable (context : OverrideContext)

def resolveHeaderOverrideValueByMapping (headerName : String) (mapping : List (String × Json)) :
    Except OverrideError (Option String) := do
  if mapping.isEmpty then throw (.failed "header value mapping cannot be empty")
  let appendTokens ← match mapping.lookup "$append" with
    | some value => parseHeaderReplacementTokens lib value
    | none       => .ok []
  let keepOnlyDeclared := ((mapping.lookup "$keep_only_declared").bind bool?).getD false
  let sourceTokens :=
    ((getHeaderValueFromContext context headerName).map splitHeaderListValue).getD []
  let replaced ← sourceTokens.mapM (replaceHeaderToken lib mapping keepOnlyDeclared)
  let tokens := (replaced.flatten ++ appendTokens).eraseDups
  return if tokens = [] then none else some (join "," tokens)

def resolveHeaderOverrideValue (headerName : String) : Json → Except OverrideError (Option String)
  | .null        => .error (.failed "header value is required")
  | .obj mapping => resolveHeaderOverrideValueByMapping lib context headerName mapping
  | value        =>
    let headerValue := trimSpace (lib.format value)
    .ok (if headerValue = "" then none else some headerValue)

/-! ### Operations on headers -/

def setHeaderOverrideInContext (headerName : String) (value : Json) (keepOrigin : Bool) :
    Except OverrideError OverrideContext := do
  let headerName := normalizeHeaderContextKey headerName
  if headerName = "" then throw (.failed "header name is required")
  let existing := ((context.headerOverride.lookup headerName).map trimSpace).getD ""
  if keepOrigin ∧ existing ≠ "" then return context
  match ← resolveHeaderOverrideValue lib context headerName value with
  | none             =>
    return { context with headerOverride := context.headerOverride.erase headerName }
  | some headerValue =>
    return { context with headerOverride := context.headerOverride.insert headerName headerValue }

def deleteHeaderOverrideInContext (headerName : String) : Except OverrideError OverrideContext :=
  let headerName := normalizeHeaderContextKey headerName
  if headerName = "" then .error (.failed "header name is required")
  else .ok { context with headerOverride := context.headerOverride.erase headerName }

def copyHeaderInContext (fromHeader toHeader : String) (keepOrigin : Bool) :
    Except OverrideError OverrideContext :=
  let fromHeader := normalizeHeaderContextKey fromHeader
  let toHeader := normalizeHeaderContextKey toHeader
  if fromHeader = "" ∨ toHeader = "" then .error (.failed "copy_header from/to is required")
  else
    match getHeaderValueFromContext context fromHeader with
    | none       => .error (.sourceHeaderNotFound fromHeader)
    | some value => setHeaderOverrideInContext lib context toHeader (.str value) keepOrigin

def moveHeaderInContext (fromHeader toHeader : String) (keepOrigin : Bool) :
    Except OverrideError OverrideContext := do
  let fromHeader := normalizeHeaderContextKey fromHeader
  let toHeader := normalizeHeaderContextKey toHeader
  if fromHeader = "" ∨ toHeader = "" then throw (.failed "move_header from/to is required")
  let context ← copyHeaderInContext lib context fromHeader toHeader keepOrigin
  if equalFold fromHeader toHeader then return context
  deleteHeaderOverrideInContext context fromHeader

/-- A header that does not exist is left alone. -/
def ignoreMissingHeader :
    Except OverrideError OverrideContext → Except OverrideError OverrideContext
  | .error (.sourceHeaderNotFound _) => .ok context
  | result                           => result

end

def normalizeNames (names : List String) : List String :=
  ((names.map normalizeHeaderContextKey).filter (· ≠ "")).eraseDups

def validNames (names : List String) : Except OverrideError (List String) :=
  if names = [] then .error (.failed "pass_headers value is invalid") else .ok names

/-- The names that `pass_headers` lists. A text may hold a list that has to be parsed again; `fuel`
bounds how deep this goes. -/
def parseHeaderPassThroughNames : ℕ → Json → Except OverrideError (List String)
  | 0, _ => .error (.failed "pass_headers value is invalid")
  | fuel + 1, value =>
    match value with
    | .null    => .error (.failed "pass_headers value is required")
    | .str raw =>
      let trimmed := trimSpace raw
      if trimmed = "" then .error (.failed "pass_headers value is required")
      else
        let parsed := if hasPrefix trimmed "[" || hasPrefix trimmed "\x7b" then lib.parse trimmed
          else none
        match parsed with
        | some value => parseHeaderPassThroughNames fuel value
        | none       => validNames (normalizeNames (split ',' trimmed))
    | .arr items   => validNames (normalizeNames (items.map lib.format))
    | .obj members =>
      validNames (normalizeNames (["headers", "names", "header"].flatMap fun key =>
        match members.lookup key with
        | none       => []
        | some value => ((parseHeaderPassThroughNames fuel value).toOption).getD []))
    | _            => .error (.failed "pass_headers value must be string, array or object")

/-- Copy each header that exists. -/
def passHeaders (context : OverrideContext) (keepOrigin : Bool) (names : List String) :
    Except OverrideError OverrideContext :=
  names.foldlM
    (fun context name =>
      ignoreMissingHeader context (copyHeaderInContext lib context name name keepOrigin)) context

/-- The headers of `copy_header` and `move_header`; the path stands in for a missing one. -/
def ParamOperation.sourceHeader (op : ParamOperation) : String :=
  if trimSpace op.from = "" then trimSpace op.path else trimSpace op.from

def ParamOperation.targetHeader (op : ParamOperation) : String :=
  if trimSpace op.to = "" then trimSpace op.path else trimSpace op.to

/-! ### Fields that are kept in step -/

inductive SyncTarget where
  | json (key : String)
  | header (key : String)

def parseSyncTarget (spec : String) : Except OverrideError SyncTarget :=
  let raw := trimSpace spec
  if raw = "" then .error (.failed "sync_fields target is required")
  else
    match raw.toList.span (· ≠ ':') with
    | (_, [])           => .ok (.json raw)
    | (kind, _ :: rest) =>
      let key := trimSpace (String.ofList rest)
      if key = "" then .error (.failed ("sync_fields target key is required: " ++ raw))
      else
        match toLower (trimSpace (String.ofList kind)) with
        | "json" | "body" => .ok (.json key)
        | "header"        => .ok (.header key)
        | _               => .error (.failed ("sync_fields target prefix is invalid: " ++ raw))

section

variable (data : δ) (context : OverrideContext)

/-- Empty texts and `null` count as missing. -/
def readSyncTargetValue : SyncTarget → Option Json
  | .json key   =>
    match lib.get data key with
    | none | some .null => none
    | some (.str s)     => if trimSpace s = "" then none else some (.str s)
    | some value        => some value
  | .header key => (getHeaderValueFromContext context key).map .str

def writeSyncTargetValue (value : Json) : SyncTarget → Except OverrideError (δ × OverrideContext)
  | .json key   => ((lib.set data key value).map (·, context)).mapError .failed
  | .header key => (setHeaderOverrideInContext lib context key value false).map (data, ·)

def syncFieldsBetweenTargets (fromSpec toSpec : String) :
    Except OverrideError (δ × OverrideContext) := do
  let fromTarget ← parseSyncTarget fromSpec
  let toTarget ← parseSyncTarget toSpec
  match readSyncTargetValue lib data context fromTarget,
      readSyncTargetValue lib data context toTarget with
  | some value, none => writeSyncTargetValue lib data context value toTarget
  | none, some value => writeSyncTargetValue lib data context value fromTarget
  | _, _             => return (data, context)

end

/-! ### Errors that are asked for -/

def validReturnError (err : ParamOverrideReturnError) :
    Except OverrideError ParamOverrideReturnError :=
  if err.message = "" then .error (.failed "return_error message is required")
  else if err.statusCode < 100 ∨ 511 < err.statusCode then
    .error (.failed ("return_error status code out of range: " ++ toString err.statusCode))
  else .ok err

/-- The status code, under one of two names. -/
def returnErrorStatus (members : List (String × Json)) : Except OverrideError ℤ :=
  let parse (name : String) (value : Json) : Except OverrideError ℤ :=
    match value.int? with
    | some statusCode => .ok statusCode
    | none            => .error (.failed ("return_error " ++ name ++ " must be an integer"))
  match members.lookup "status_code", members.lookup "status" with
  | some value, _    => parse "status_code" value
  | none, some value => parse "status" value
  | none, none       => .ok 400

def parseParamOverrideReturnError : Json → Except OverrideError ParamOverrideReturnError
  | .null        => .error (.failed "return_error value is required")
  | .str raw     => validReturnError { message := trimSpace raw }
  | .obj members => do
    let field (name : String) : String :=
      (((members.lookup name).bind string?).map trimSpace).getD ""
    let code := ((members.lookup "code").map fun value => trimSpace (lib.format value)).getD ""
    let statusCode ← returnErrorStatus members
    validReturnError
      { message := if field "message" = "" then field "msg" else field "message"
        statusCode := statusCode
        code := if code = "" then "invalid_request" else code
        type := if field "type" = "" then "invalid_request_error" else field "type"
        skipRetry := ((members.lookup "skip_retry").bind bool?).getD true }
  | _            => .error (.failed "return_error value must be string or object")

/-! ### Operations of an override -/

def operationFailed (mode : String) (err : OverrideError) : OverrideError :=
  .failed ("operation " ++ mode ++ " failed: " ++ err.text)

/-- One operation whose conditions are met. -/
def applyOperation (op : ParamOperation) (data : δ) (context : OverrideContext) :
    Except OverrideError (δ × OverrideContext) :=
  let onHeaders (result : Except OverrideError OverrideContext) :=
    (result.map (data, ·)).mapError (operationFailed op.mode)
  match op.mode with
  | "return_error"  => (parseParamOverrideReturnError lib op.value).bind fun err =>
      .error (.returned err)
  | "set_header"    => onHeaders (setHeaderOverrideInContext lib context op.path op.value
      op.keepOrigin)
  | "delete_header" => onHeaders (deleteHeaderOverrideInContext context op.path)
  | "copy_header"   => onHeaders (ignoreMissingHeader context
      (copyHeaderInContext lib context op.sourceHeader op.targetHeader op.keepOrigin))
  | "move_header"   => onHeaders (ignoreMissingHeader context
      (moveHeaderInContext lib context op.sourceHeader op.targetHeader op.keepOrigin))
  | "pass_headers"  => (parseHeaderPassThroughNames lib (op.value.size + 1) op.value).bind
      fun names => onHeaders (passHeaders lib context op.keepOrigin names)
  | "sync_fields"   => (syncFieldsBetweenTargets lib data context op.from op.to).mapError
      (operationFailed op.mode)
  | mode            =>
    if mode ∈ bodyModes then ((lib.edit op context.json data).map (·, context)).mapError .failed
    else .error (.failed ("unknown operation: " ++ mode))

def applyOperations (data : δ) (context : OverrideContext) :
    List ParamOperation → Except OverrideError (δ × OverrideContext)
  | []               => .ok (data, context)
  | op :: operations => do
    if ← checkConditions lib data context.json op.conditions op.logic then
      let (data, context) ← applyOperation lib op data context
      applyOperations data context operations
    else applyOperations data context operations

def parseCondition (members : List (String × Json)) : Option ConditionOperation :=
  let field (name : String) : String := ((members.lookup name).bind string?).getD ""
  if trimSpace (field "path") = "" ∨ trimSpace (field "mode") = "" then none
  else
    some
      { path := field "path"
        mode := field "mode"
        value := (members.lookup "value").getD .null
        invert := ((members.lookup "invert").bind bool?).getD false
        passMissingKey := ((members.lookup "pass_missing_key").bind bool?).getD false }

def parseConditionOperations : Json → Option (List ConditionOperation)
  | .obj members =>
    let conditions := (members.filter fun m => trimSpace m.1 ≠ "").map fun m =>
      { path := trimSpace m.1, mode := "full", value := m.2 : ConditionOperation }
    if conditions.isEmpty then none else some conditions
  | .arr items   => items.mapM fun item => item.members?.bind parseCondition
  | _            => none

def parseOperation (members : List (String × Json)) : Option ParamOperation := do
  let field (name : String) : Option String := (members.lookup name).bind string?
  let mode ← field "mode"
  let conditions ← match members.lookup "conditions" with
    | none     => some []
    | some raw => parseConditionOperations raw
  return {
    path := (field "path").getD ""
    mode := mode
    value := (members.lookup "value").getD .null
    keepOrigin := ((members.lookup "keep_origin").bind bool?).getD false
    «from» := (field "from").getD ""
    «to» := (field "to").getD ""
    conditions := conditions
    logic := (field "logic").getD "OR" }

/-- The operations of an override, where it has the form of a list of operations. -/
def tryParseOperations (paramOverride : List (String × Json)) : Option (List ParamOperation) :=
  match paramOverride.lookup "operations" with
  | some (.arr items) => items.mapM fun item => item.members?.bind parseOperation
  | _                 => none

def buildLegacyParamOverride (paramOverride : List (String × Json)) : List (String × Json) :=
  paramOverride.filter fun m => !equalFold (trimSpace m.1) "operations"

/-- The override that only sets members of the body. -/
def applyOperationsLegacy (data : δ) (paramOverride : List (String × Json)) :
    Except OverrideError δ :=
  (paramOverride.foldlM (fun data m => lib.setMember data m.1 m.2) data).mapError .failed

def applyParamOverride (data : δ) (paramOverride : List (String × Json))
    (context : OverrideContext) : Except OverrideError (δ × OverrideContext) :=
  if paramOverride.isEmpty then .ok (data, context)
  else
    match tryParseOperations paramOverride with
    | some operations => do
      let data ← applyOperationsLegacy lib data (buildLegacyParamOverride paramOverride)
      applyOperations lib data context operations
    | none => (applyOperationsLegacy lib data paramOverride).map (·, context)

def syncRuntimeHeaderOverrideFromContext (info : OverrideInfo) (context : OverrideContext) :
    OverrideInfo :=
  { info with
    runtimeHeadersOverride := sanitizeHeaderOverrideMap lib context.headerOverride.members
    useRuntimeHeadersOverride := true }

/-- The headers that the operations leave become those of the relay info. -/
def applyParamOverrideWithRelayInfo (data : δ) (info : OverrideInfo) :
    Except OverrideError (δ × OverrideInfo) :=
  if info.channelMeta.paramOverride.isEmpty then .ok (data, info)
  else
    (applyParamOverride lib data info.channelMeta.paramOverride
      (buildParamOverrideContext lib info)).map fun result =>
        (result.1, syncRuntimeHeaderOverrideFromContext lib info result.2)

variable {lib}

/-- An override that is applied decides the headers from then on. -/
lemma useRuntimeHeaders_of_apply {data : δ} {info : OverrideInfo}
    {result : δ × OverrideInfo} (hparam : info.channelMeta.paramOverride.isEmpty = false)
    (h : applyParamOverrideWithRelayInfo lib data info = .ok result) :
    result.2.useRuntimeHeadersOverride = true := by
  simp only [applyParamOverrideWithRelayInfo, hparam, Bool.false_eq_true, if_false] at h
  obtain ⟨applied, -, rfl⟩ := Except.map_eq_ok.mp h
  rfl

end

end XinghaiApi
