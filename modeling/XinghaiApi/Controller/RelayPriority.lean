import XinghaiApi.Controller.Relay

/-!
# Priorities and retries

A retry excludes the channels that have failed and then takes the level of its number among the
levels that are left. The level that was tried is no longer among these if its last channel has
failed, so the number points one level too low; with more than one level left, the highest one is
passed over.
-/

namespace XinghaiApi

open Machine Selection Text RetryParam List

variable {setting : RelaySetting} {request : RelayRequest} {s t : RelayState} {e : RelayEvent}

/-! ### Excluded channels -/

variable {view : ChannelView} {param : RetryParam} {group : String} {c : Channel}
  {ctx : SelectContext}

/-- The channels that a selection would choose from if none was excluded. -/
def eligible (view : ChannelView) (param : RetryParam) (group : String) : List Channel :=
  selectable view { param with excludeChannelIds := [] } group

lemma mem_selectable_iff :
    c ∈ selectable view param group ↔
      c ∈ eligible view param group ∧ c.id ∉ param.excludeChannelIds := by
  simp only [selectable, eligible, mem_candidates, Channel.Satisfies, Option.mem_def,
    Option.some.injEq, forall_eq', channelSatisfied, Bool.and_eq_true,
    decide_eq_true_eq, not_mem_nil, not_false_eq_true, true_and]
  tauto

/-- Where nothing is left to choose from, every channel of the parameters in force, or of those of
the request, is excluded. -/
lemma mem_excluded_of_nil (h : selectable view (param.inForce view group) group = []) :
    (c ∈ eligible view param group → c.id ∈ param.excludeChannelIds) ∧
      (param.allowCrossFormatFallback = true → c ∈ eligible view param.fallback group →
        c.id ∈ param.excludeChannelIds) := by
  have hstrict : selectable view param group = [] := by
    by_contra hne
    rw [inForce, if_neg (by simp [hne])] at h
    exact hne h
  constructor
  · intro hc
    by_contra hid
    simpa [hstrict] using mem_selectable_iff.mpr ⟨hc, hid⟩
  · intro hallow hc
    rw [inForce, if_pos ⟨hstrict, hallow⟩] at h
    by_contra hid
    have hmem : c ∈ selectable view param.fallback group := mem_selectable_iff.mpr ⟨hc, hid⟩
    simp [h] at hmem

/-- A channel that can be selected is eligible for the parameters of the request or, if these allow
it, for those of another format. -/
lemma eligible_of_mem_inForce (h : c ∈ selectable view (param.inForce view group) group) :
    c.id ∉ param.excludeChannelIds ∧ (c ∈ eligible view param group ∨
      param.allowCrossFormatFallback = true ∧ c ∈ eligible view param.fallback group) := by
  rw [inForce] at h
  split_ifs at h with hforce
  · obtain ⟨hc, hid⟩ := mem_selectable_iff.mp h
    exact ⟨hid, Or.inr ⟨hforce.2, hc⟩⟩
  · obtain ⟨hc, hid⟩ := mem_selectable_iff.mp h
    exact ⟨hid, Or.inl hc⟩

/-- Where nothing is left, the channel that is allowed again is the only one to choose. -/
lemma getChannelAgain_fixed {rand : ℕ} {again : Selected} (hfixed : param.tokenGroup ≠ "auto")
    (hnil : selectable view (param.inForce view param.tokenGroup) param.tokenGroup = [])
    (h : getChannelAgain (satisfiedChannel view rand) ⟨none, param.tokenGroup, param, ctx⟩ =
      .ok again)
    (hc : again.channel = some c) :
    again.ctx = ctx ∧
      again.param = param.withLastAllowed ∧ c.id = param.lastFailedChannelId ∧
      c.id ∈ param.excludeChannelIds := by
  rcases getChannelAgain_eq_ok h with rfl | ⟨-, -, hselect⟩
  · cases hc
  · have hfixed' : param.withLastAllowed.tokenGroup ≠ "auto" := hfixed
    obtain ⟨found, heq, -, hsome⟩ := cacheGetSatisfied_fixed view rand ctx hfixed'
    rw [heq] at hselect
    cases hselect
    obtain ⟨hid, hel⟩ := eligible_of_mem_inForce (mem_targetChannels.mp (hsome c hc)).1
    have hexcluded : c.id ∈ param.excludeChannelIds := by
      rcases hel with hel | ⟨hback, hel⟩
      · exact (mem_excluded_of_nil hnil).1 hel
      · exact (mem_excluded_of_nil hnil).2 hback hel
    exact ⟨rfl, rfl, by simpa [withLastAllowed, hexcluded] using hid, hexcluded⟩

/-- What a retry in a fixed group has to choose from. -/
def untried (request : RelayRequest) (s : RelayState) (e : RelayEvent) : List Channel :=
  selectable e.view (s.param.inForce e.view request.tokenGroup) request.tokenGroup

/-- A retry in a fixed group takes a channel of its level, or tries the one that failed last once
more. -/
lemma getChannel_fixed (htoken : s.param.tokenGroup = request.tokenGroup)
    (hfixed : request.tokenGroup ≠ "auto") (h : getChannel setting request e s = .ok t) :
    (t.channel ∈ targetChannels (untried request s e) s.param.retry ∧ t.param = s.param) ∨
      untried request s e = [] ∧ t.channel.id = s.param.lastFailedChannelId ∧
        t.channel.id ∈ s.param.excludeChannelIds ∧ t.param = s.param.withLastAllowed := by
  obtain ⟨selected, again, channel, hselect, hagain, hchannel, rfl⟩ := getChannel_eq_ok h
  rw [untried, ← htoken]
  rw [← htoken] at hfixed
  obtain ⟨found, heq, hnone, hsome⟩ :=
    cacheGetSatisfied_fixed e.view e.rand s.ctx hfixed
  obtain rfl : ⟨found, s.param.tokenGroup, s.param, s.ctx⟩ = selected := by
    simpa [heq] using hselect
  cases found with
  | some c =>
    obtain rfl : _ = again := by simpa [getChannelAgain] using hagain
    cases hchannel
    exact Or.inl ⟨hsome channel rfl, rfl⟩
  | none =>
    have hnil := hnone.mp rfl
    obtain ⟨-, hparam, hlast, hmem⟩ := getChannelAgain_fixed hfixed hnil hagain hchannel
    exact Or.inr ⟨hnil, hlast, hmem, hparam⟩

/-! ### The channels that were tried -/

/-- In a fixed group the excluded channels are those tried, and the counter counts them. -/
structure Tried (tokenGroup : String) (s : RelayState) : Prop where
  token : s.finished = false → s.param.tokenGroup = tokenGroup
  ready : s.finished = false → s.param.resetNextTry = false
  counter : s.finished = false → s.param.retry = s.attempts.length
  excluded : s.finished = false →
    ∀ id, id ∈ s.param.excludeChannelIds ↔ ∃ a ∈ s.attempts, a.channel.id = id

lemma tried_start (first : Channel × String × SelectContext) :
    Tried request.tokenGroup (relayStart setting request first) where
  token _ := rfl
  ready _ := rfl
  counter _ := rfl
  excluded _ _ := by simp [relayStart]

/-- After a turn the channel of its attempt is excluded too. -/
lemma Tried.turn (hfixed : request.tokenGroup ≠ "auto") (hs : Tried request.tokenGroup s)
    (h : Turn setting request s e t) :
    t.param.tokenGroup = request.tokenGroup ∧ t.param.resetNextTry = false ∧
      t.param.retry = s.attempts.length ∧
      ∀ id, id ∈ t.channel.id :: t.param.excludeChannelIds ↔
        id = t.channel.id ∨ ∃ a ∈ s.attempts, a.channel.id = id := by
  have htoken := hs.token h.running
  have hready := hs.ready h.running
  have hcounter := hs.counter h.running
  have hexcluded := hs.excluded h.running
  have hturn := h.channel
  rw [turnChannel] at hturn
  split_ifs at hturn with hretry
  · rcases getChannel_fixed htoken hfixed hturn with ⟨-, hparam⟩ | ⟨-, hlast, hmem, hparam⟩
    · rw [hparam]
      exact ⟨htoken, hready, hcounter, fun id => by rw [mem_cons, hexcluded]⟩
    · rw [hparam]
      refine ⟨htoken, hready, hcounter, fun id => ?_⟩
      rw [← hexcluded, withLastAllowed, mem_cons, ← hlast]
      by_cases hid : id = t.channel.id
      · simp [hid]
      · simp [hid]
  · cases hturn
    exact ⟨htoken, hready, hcounter, fun id => by rw [mem_cons, hexcluded]⟩

lemma Tried.step (hfixed : request.tokenGroup ≠ "auto") (hs : Tried request.tokenGroup s) :
    Tried request.tokenGroup (relayStep setting request s e) := by
  apply relayStep_cases
  case done => exact fun _ => hs
  case stop =>
    intro t _ _ _ hfinished
    exact ⟨by simp [hfinished], by simp [hfinished], by simp [hfinished], by simp [hfinished]⟩
  case last => exact fun t _ => ⟨nofun, nofun, nofun, nofun⟩
  case again =>
    intro t ht
    obtain ⟨htoken, hready, hcounter, hexcluded⟩ := hs.turn hfixed ht
    have hnext : (t.param.addFailedChannel t.channel.id).increaseRetry =
        { t.param.addFailedChannel t.channel.id with retry := t.param.retry + 1 } := by
      simp [increaseRetry, addFailedChannel, hready]
    simp only [hnext]
    refine ⟨fun _ => htoken, fun _ => hready, fun _ => ?_, fun _ id => ?_⟩
    · simp [hcounter]
    · rw [addFailedChannel, hexcluded]
      rw [or_comm]
      simp [RelayState.attempt, eq_comm]

/-! ### The order of priorities -/

section

variable (setting request)

section

variable (s : RelayState) (e : RelayEvent)

/-- The channels that an attempt could use, tried or not: of those that `Distribute` looks at for
the first attempt, and of those that meet the parameters in force for a retry. -/
def eligibleAt : List Channel :=
  eligible e.view
    (if s.param.retry = 0 then distributeParam request
      else s.param.inForce e.view request.tokenGroup)
    request.tokenGroup

/-- If the turn makes an attempt, every eligible channel of a higher priority was tried before. -/
def RespectsPriority : Prop :=
  ∀ t, Turn setting request s e t → ∀ d ∈ eligibleAt request s e,
    t.channel.getPriority < d.getPriority → ∃ a ∈ s.attempts, a.channel.id = d.id

/-- If the turn makes an attempt, the first channel has the highest priority, and a retry has only
channels of one priority left to choose from. -/
def OneLevel : Prop :=
  ∀ t, Turn setting request s e t →
    if s.param.retry = 0 then ∀ d ∈ eligibleAt request s e, d.getPriority ≤ s.channel.getPriority
    else ∀ c ∈ untried request s e, ∀ d ∈ untried request s e, c.getPriority = d.getPriority

end

variable {setting request}

lemma excludeChannelIds_inForce (view : ChannelView) (param : RetryParam) (group : String) :
    (param.inForce view group).excludeChannelIds = param.excludeChannelIds := by
  rw [inForce]
  split_ifs <;> rfl

lemma mem_untried_iff (hs : Tried request.tokenGroup s) (hrunning : s.finished = false)
    (hretry : s.param.retry ≠ 0) {d : Channel} :
    d ∈ untried request s e ↔
      d ∈ eligibleAt request s e ∧ ¬ ∃ a ∈ s.attempts, a.channel.id = d.id := by
  rw [untried, mem_selectable_iff, excludeChannelIds_inForce, hs.excluded hrunning, eligibleAt,
    if_neg hretry]

/-- A retry leaves no eligible channel of a higher priority behind just in case the channels to
choose from have one priority. -/
lemma respects_retry_iff (hfixed : request.tokenGroup ≠ "auto") (hs : Tried request.tokenGroup s)
    (ht : Turn setting request s e t) (hretry : s.param.retry ≠ 0) :
    (∀ d ∈ eligibleAt request s e, t.channel.getPriority < d.getPriority →
        ∃ a ∈ s.attempts, a.channel.id = d.id) ↔
      ∀ c ∈ untried request s e, ∀ d ∈ untried request s e, c.getPriority = d.getPriority := by
  have huntried : (∀ d ∈ eligibleAt request s e, t.channel.getPriority < d.getPriority →
      ∃ a ∈ s.attempts, a.channel.id = d.id) ↔
        ∀ d ∈ untried request s e, d.getPriority ≤ t.channel.getPriority := by
    constructor
    · intro h d hd
      obtain ⟨hel, hnot⟩ := (mem_untried_iff hs ht.running hretry).mp hd
      exact not_lt.mp fun hlt => hnot (h d hel hlt)
    · intro h d hel hlt
      by_contra hnot
      exact not_lt.mpr (h d ((mem_untried_iff hs ht.running hretry).mpr ⟨hel, hnot⟩)) hlt
  rw [huntried]
  have hturn := ht.channel
  rw [turnChannel, if_pos (Nat.pos_of_ne_zero hretry)] at hturn
  rcases getChannel_fixed (hs.token ht.running) hfixed hturn with ⟨hchannel, -⟩ | ⟨hnil, -⟩
  · have hmax := levelAt_isMax_iff (mem_targetChannels.mp hchannel).2
    simpa [hretry] using hmax
  · simp [hnil]

lemma respectsPriority_iff (hfixed : request.tokenGroup ≠ "auto")
    (hs : Tried request.tokenGroup s) :
    RespectsPriority setting request s e ↔ OneLevel setting request s e := by
  refine forall_congr' fun t => forall_congr' fun ht => ?_
  by_cases hretry : s.param.retry = 0
  · have hturn := ht.channel
    rw [turnChannel, if_neg (by simp [hretry])] at hturn
    cases hturn
    have hnone : s.attempts = [] := by
      rw [← length_eq_zero_iff, ← hs.counter ht.running, hretry]
    simp [hretry, hnone]
  · rw [if_neg hretry]
    exact respects_retry_iff hfixed hs ht hretry

/-- In a fixed group, all attempts keep the order of priorities just in case the first channel has
the highest priority and every retry finds channels of one priority only. -/
theorem respectsPriority_along_iff (setting : RelaySetting) (request : RelayRequest)
    (hfixed : request.tokenGroup ≠ "auto") (first : Channel × String × SelectContext)
    (es : List RelayEvent) :
    Along (relayStep setting request) (RespectsPriority setting request)
        (relayStart setting request first) es ↔
      Along (relayStep setting request) (OneLevel setting request)
        (relayStart setting request first) es :=
  along_congr (I := Tried request.tokenGroup) (fun _ _ hs => hs.step hfixed) (tried_start first) es
    fun _ _ hs => respectsPriority_iff hfixed hs

def fixedRequest : RelayRequest where
  userGroup := "g"
  tokenGroup := "g"
  modelName := "m"
  path := "/v1/chat/completions"

def threeRetries : SelectContext where
  retryTimes := 3
  autoGroups := []
  usableGroups := ["g"]
  crossGroupRetry := false

def channelOfPriority (id priority : ℤ) : Channel :=
  { id := id, models := "m", group := "g", priority := some priority }

/-- One channel of high priority and one of low priority are tried in their order. -/
def highAndLow : ChannelView where
  channels :=
    { rows := [channelOfPriority 1 10, channelOfPriority 3 5]
      next := 4
      nodup := by decide
      fresh := by decide }

def threeLevels : ChannelView where
  channels :=
    { rows := [channelOfPriority 1 10, channelOfPriority 2 8, channelOfPriority 3 5]
      next := 4
      nodup := by decide
      fresh := by decide }

/-- A request whose first channel is the one of high priority. -/
def highFirst : RelayState :=
  relayStart retryAll fixedRequest (channelOfPriority 1 10, "g", threeRetries)

/-- With one channel of each priority the order is kept. -/
theorem respectsPriority_along_highAndLow :
    Along (relayStep retryAll fixedRequest) (RespectsPriority retryAll fixedRequest) highFirst
      [.internalError highAndLow, .internalError highAndLow] := by
  refine (respectsPriority_along_iff retryAll fixedRequest (by decide)
    (channelOfPriority 1 10, "g", threeRetries) _).mpr ⟨fun t _ => ?_, fun t _ => ?_, trivial⟩
  · decide +kernel
  · decide +kernel

/-- The request after its first channel has failed. -/
def highFailed : RelayState :=
  relayStep retryAll fixedRequest highFirst (.internalError threeLevels)

/-- The channel of the highest level is drawn and fails. It is no longer among the levels that are
left, so the level of number 1 is now the lowest: the second attempt passes over the one between. -/
theorem not_respectsPriority_threeLevels :
    (distribute fixedRequest threeLevels threeRetries (.drawn 0)).map
        (fun first => (first.1.id, first.2)) = some (1, "g", threeRetries) ∧
      ¬ Along (relayStep retryAll fixedRequest) (RespectsPriority retryAll fixedRequest) highFirst
        [.internalError threeLevels, .internalError threeLevels] := by
  refine ⟨by decide +kernel, ?_⟩
  rintro ⟨-, hrespects, -⟩
  have hturn : (turnChannel retryAll fixedRequest (.internalError threeLevels)
      highFailed).toOption.map (·.channel.getPriority) = some 5 := by decide +kernel
  have heligible : (2, 8) ∈ (eligibleAt fixedRequest highFailed (.internalError threeLevels)).map
      (fun c => (c.id, c.getPriority)) := by decide +kernel
  have htried : ∀ a ∈ highFailed.attempts, a.channel.id = 1 := by decide +kernel
  obtain ⟨t, ht, hfive⟩ := Option.map_eq_some_iff.mp hturn
  have hchannel := Except.toOption_eq_some.mp ht
  obtain ⟨d, hd, hentry⟩ := mem_map.mp heligible
  obtain ⟨hid, hpriority⟩ := Prod.mk.inj hentry
  obtain ⟨a, ha, haid⟩ := hrespects t ⟨by decide +kernel, by decide +kernel, hchannel, rfl⟩ d hd
    (by rw [hfive, hpriority]; decide)
  have hone := htried a ha
  rw [haid, hid] at hone
  exact absurd hone (by decide)

end

end XinghaiApi
