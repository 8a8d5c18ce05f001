import XinghaiApi.Lib.Run
import XinghaiApi.Relay.Common.Override

/-!
# Overrides along the attempts of a request

All attempts of a request share one relay info. `InitChannelMeta` puts the overrides of the next
channel into it, but the headers that an earlier override has left there stay. So do the name of the
model and the path of the request, which some handlers and adaptors write over and the conditions of
an override can look at.
-/

namespace XinghaiApi

open Machine Text

/-! ### The overrides of a channel -/

structure ChannelOverrides where
  paramOverride : List (String × Json) := []
  headerOverride : List (String × Json) := []

/-- The value of a member is replaced, or a member is added. -/
def putMember (members : List (String × Json)) (key : String) (value : Json) :
    List (String × Json) :=
  if (members.lookup key).isSome then
    members.map fun m => if m.1 = key then (key, value) else m
  else members ++ [(key, value)]

/-- The operations of a template come before those of the channel; other members of the channel
win. -/
def mergeEntry (out : List (String × Json)) (entry : String × Json) : List (String × Json) :=
  match equalFold (trimSpace entry.1) "operations", entry.2.items? with
  | true, some operations =>
    putMember out entry.1 (.arr (operations ++ ((out.lookup entry.1).bind Json.items?).getD []))
  | _, _ => if (out.lookup entry.1).isSome then out else putMember out entry.1 entry.2

def mergeChannelOverride (base template : List (String × Json)) : List (String × Json) :=
  template.foldl mergeEntry base

/-! ### Attempts -/

/-- The model and the path of a request, as an attempt has them, and the model it asks for. -/
structure AttemptNames where
  originModelName : String
  requestURLPath : String
  upstreamModelName : String := ""

/-- An attempt, with what it has of its own. -/
structure OverrideAttempt (δ : Type) where
  channel : ChannelOverrides
  /-- what the handler and the adaptor make of the model and the path that they find -/
  names : String → String → AttemptNames := fun model path => ⟨model, path, model⟩
  retryIndex : ℕ := 0
  lastError : Option LastError := none
  /-- whether the handler applies the override, rather than passing the body through -/
  applies : Bool := true
  body : δ

def OverrideRequest.start (request : OverrideRequest) : SharedInfo where
  originModelName := request.originModelName
  requestURLPath := request.requestURLPath

section

variable {δ : Type} (lib : JsonLib δ) (request : OverrideRequest)

section

variable (s : SharedInfo) (e : OverrideAttempt δ) (es : List (OverrideAttempt δ))

def attemptNames : AttemptNames := e.names s.originModelName s.requestURLPath

/-- The context is set up for the channel and the relay info takes it over. The handler maps the
model; for `/v1/responses/compact` it writes the mapped one over that of the request, and an adaptor
of images writes its own path. -/
def initChannelMeta : OverrideInfo :=
  { s with
    originModelName := (attemptNames s e).originModelName
    requestURLPath := (attemptNames s e).requestURLPath
    request := request
    channelMeta :=
      { upstreamModelName := (attemptNames s e).upstreamModelName
        paramOverride := mergeChannelOverride e.channel.paramOverride request.paramTemplate
        headersOverride := e.channel.headerOverride }
    retryIndex := e.retryIndex
    lastError := e.lastError }

/-- The relay info with which the request is sent, unless the override fails. -/
def overrideInfo : Except OverrideError OverrideInfo :=
  let info := initChannelMeta request s e
  if e.applies then (applyParamOverrideWithRelayInfo lib e.body info).map Prod.snd else .ok info

def usedHeaders : Except OverrideError HeaderMap :=
  (overrideInfo lib request s e).map (getEffectiveHeaderOverride lib)

/-- What an attempt leaves for the next one. -/
def overrideStep : SharedInfo :=
  match overrideInfo lib request s e with
  | .ok info => info.toSharedInfo
  | .error _ => (initChannelMeta request s e).toSharedInfo

/-- The attempt has a parameter override that is applied without an error. -/
def AppliesOverride : Prop :=
  e.applies = true ∧
    (mergeChannelOverride e.channel.paramOverride request.paramTemplate).isEmpty = false ∧
    (overrideInfo lib request s e).isOk = true

/-- The attempt leaves the model and the path of the request as they are. -/
def KeepsNames : Prop :=
  (attemptNames s e).originModelName = s.originModelName ∧
    (attemptNames s e).requestURLPath = s.requestURLPath

/-- No attempt of a run applies an override. -/
def NoOverride : Prop :=
  Along (overrideStep lib request) (fun s e => ¬ AppliesOverride lib request s e) s es

/-- No attempt of a run writes over the model or the path of the request. -/
def NamesKept : Prop := Along (overrideStep lib request) KeepsNames s es

end

/-! ### What attempts leave behind -/

variable {lib request} {s : SharedInfo} {e : OverrideAttempt δ} {es : List (OverrideAttempt δ)}

/-- Only an override that is applied leaves headers. -/
lemma overrideStep_of_not_applies (h : ¬ AppliesOverride lib request s e) :
    overrideStep lib request s e = (initChannelMeta request s e).toSharedInfo := by
  rw [overrideStep]
  cases hinfo : overrideInfo lib request s e with
  | error err => rfl
  | ok info =>
    have hnone : e.applies = false ∨
        (mergeChannelOverride e.channel.paramOverride request.paramTemplate).isEmpty = true := by
      by_contra hboth
      simp only [not_or, Bool.not_eq_true, Bool.not_eq_false] at hboth
      exact h ⟨hboth.1, hboth.2, by rw [hinfo]; rfl⟩
    obtain rfl : initChannelMeta request s e = info := by
      rcases hnone with hpass | hempty
      · simpa [overrideInfo, hpass] using hinfo
      · simpa [overrideInfo, applyParamOverrideWithRelayInfo, initChannelMeta, hempty,
          Except.map] using hinfo
    rfl

lemma overrideStep_of_applies (h : AppliesOverride lib request s e) :
    (overrideStep lib request s e).useRuntimeHeadersOverride = true := by
  obtain ⟨happlies, hparam, hok⟩ := h
  rw [overrideStep]
  cases hinfo : overrideInfo lib request s e with
  | error err => simp [hinfo, Except.toBool] at hok
  | ok info =>
    simp only [overrideInfo, happlies] at hinfo
    obtain ⟨result, happly, rfl⟩ := Except.map_eq_ok.mp hinfo
    exact useRuntimeHeaders_of_apply hparam happly

/-- Attempts without an override that keep the names leave nothing behind. -/
lemma run_of_noOverride (h : NoOverride lib request s es) (hnames : NamesKept lib request s es) :
    run (overrideStep lib request) s es = s := by
  induction es generalizing s with
  | nil => rfl
  | cons e es ih =>
    obtain ⟨hsilent, htail⟩ := h
    obtain ⟨⟨hmodel, hpath⟩, hnames⟩ := hnames
    have hsame : overrideStep lib request s e = s := by
      rw [overrideStep_of_not_applies hsilent, initChannelMeta, hmodel, hpath]
    rw [hsame] at htail hnames
    rw [run_cons, hsame]
    exact ih htail hnames

/-- Nothing puts the headers of an override away again. -/
lemma useRuntimeHeaders_run (hs : s.useRuntimeHeadersOverride = true)
    (es : List (OverrideAttempt δ)) :
    (run (overrideStep lib request) s es).useRuntimeHeadersOverride = true := by
  refine run_invariant (I := fun t : SharedInfo => t.useRuntimeHeadersOverride = true) ?_ hs es
  intro t e ht
  by_cases happlies : AppliesOverride lib request t e
  · exact overrideStep_of_applies happlies
  · rw [overrideStep_of_not_applies happlies]
    exact ht

lemma useRuntimeHeaders_of_override (h : ¬ NoOverride lib request s es) :
    (run (overrideStep lib request) s es).useRuntimeHeadersOverride = true := by
  induction es generalizing s with
  | nil => exact absurd trivial h
  | cons e es ih =>
    by_cases happlies : AppliesOverride lib request s e
    · exact useRuntimeHeaders_run (overrideStep_of_applies happlies) es
    · exact ih fun htail => h ⟨happlies, htail⟩

/-! ### Interference -/

variable (lib request)

lemma sanitizeHeaderOverrideMap_ne_empty : sanitizeHeaderOverrideMap lib [("x", .str "x")] ≠ ∅ := by
  have hkey : normalizeHeaderContextKey "x" = "x" := by decide +kernel
  have hvalue : trimSpace "x" = "x" := by decide +kernel
  simp only [sanitizeHeaderOverrideMap, List.foldl_cons, sanitizeEntry, hkey,
    lib.format_str, hvalue]
  intro hempty
  simpa using congrArg AList.keys hempty

/-- Headers that were left behind are used in the place of those of some channel. -/
lemma exists_usedHeaders_ne (hs : s.useRuntimeHeadersOverride = true) (body : δ) :
    ∃ e, usedHeaders lib request s e ≠ usedHeaders lib request request.start e := by
  have hused : ∀ headers : List (String × Json),
      sanitizeHeaderOverrideMap lib s.runtimeHeadersOverride.members ≠
        sanitizeHeaderOverrideMap lib headers →
      ∃ e, usedHeaders lib request s e ≠ usedHeaders lib request request.start e := by
    intro headers hne
    refine ⟨{ channel := { headerOverride := headers }, applies := false, body := body }, ?_⟩
    simpa [usedHeaders, overrideInfo, initChannelMeta, getEffectiveHeaderOverride,
      OverrideRequest.start, hs, Except.map] using hne
  by_cases hempty : sanitizeHeaderOverrideMap lib s.runtimeHeadersOverride.members = ∅
  · apply hused [("x", .str "x")]
    rw [hempty]
    exact (sanitizeHeaderOverrideMap_ne_empty lib).symm
  · exact hused [] hempty

/-- Attempts that keep the names can be replaced by any such attempts without an override, and the
headers of every next attempt stay the same, just in case they have not applied an override
themselves. -/
theorem usedHeaders_unaffected_iff (es : List (OverrideAttempt δ))
    (hnames : NamesKept lib request request.start es) :
    (∀ es', NoOverride lib request request.start es' → NamesKept lib request request.start es' →
        ∀ e, usedHeaders lib request (run (overrideStep lib request) request.start es) e =
          usedHeaders lib request (run (overrideStep lib request) request.start es') e) ↔
      NoOverride lib request request.start es := by
  constructor
  · intro hsame
    by_contra hoverride
    cases es with
    | nil => exact hoverride trivial
    | cons e es =>
      obtain ⟨next, hnext⟩ := exists_usedHeaders_ne lib request
        (useRuntimeHeaders_of_override hoverride) e.body
      exact hnext (hsame [] trivial trivial next)
  · intro hes es' hes' hnames' e
    rw [run_of_noOverride hes hnames, run_of_noOverride hes' hnames']

end

/-! ### A header that goes to another channel -/

/-- Bodies that are objects of texts, without operations on them. -/
def objectLib : JsonLib (List (String × Json)) where
  format value := value.string?.getD ""
  format_str _ := rfl
  text value := value.string?.getD ""
  parse _ := none
  lookup value path := value.members?.bind (List.lookup path)
  get data path := data.lookup path
  set data path value := .ok (putMember data path value)
  setMember data key value := .ok (putMember data key value)
  edit op _ _ := .error ("unknown operation: " ++ op.mode)

/-- A channel with a key in its headers, which also sets a parameter of the body. -/
def keyChannel : ChannelOverrides where
  paramOverride := [("service_tier", .str "default")]
  headerOverride := [("Authorization", .str "Bearer key")]

def teamChannel : ChannelOverrides where
  headerOverride := [("X-Team", .str "b")]

def teamRetry : OverrideAttempt (List (String × Json)) where
  channel := teamChannel
  retryIndex := 1
  body := []

def plainRequest : OverrideRequest where
  originModelName := "m"

/-- The headers of a retry with `teamChannel`, after an attempt with another channel. -/
def teamHeaders (channel : ChannelOverrides) : Option (List (String × String)) :=
  let s := run (overrideStep objectLib plainRequest) plainRequest.start
    [{ channel := channel, body := [] }]
  (usedHeaders objectLib plainRequest s teamRetry).toOption.map fun headers =>
    headers.entries.map fun e => (e.1, e.2)

/-- An attempt without a parameter override changes nothing for the other channel. -/
theorem usedHeaders_unaffected_team :
    usedHeaders objectLib plainRequest (run (overrideStep objectLib plainRequest)
        plainRequest.start [{ channel := teamChannel, body := [] }]) teamRetry =
      usedHeaders objectLib plainRequest plainRequest.start teamRetry :=
  (usedHeaders_unaffected_iff objectLib plainRequest [{ channel := teamChannel, body := [] }]
    ⟨⟨rfl, rfl⟩, trivial⟩).mpr
    ⟨fun h => absurd h.2.1 (by decide), trivial⟩ [] trivial trivial teamRetry

/-- The key of one channel is sent to the other one. -/
theorem usedHeaders_affected :
    teamHeaders {} = some [("x-team", "b")] ∧
      teamHeaders keyChannel = some [("authorization", "Bearer key")] := by
  decide +kernel

end XinghaiApi
