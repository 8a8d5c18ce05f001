import XinghaiApi.Controller.RelayPriority

/-!
# Retries over automatic groups

A request of the group `auto` is meant to go through the automatic groups of the user in their
order, from the highest priority of each, without trying a channel twice. The selection keeps the
order. What breaks the rest is the way a group is left when its retries are used up: the counter is
set to 0 for the next turn, so that turn selects nothing and tries the last channel again, and the
turn after it begins the next group with the counter at 1.
-/

namespace XinghaiApi

open Machine Selection Text RetryParam List

variable {setting : RelaySetting} {request : RelayRequest} {s t : RelayState} {e : RelayEvent}

/-! ### What the attempts should do -/

variable {groups : List String}

/-- The attempts go through the groups in the order of the list, with the last one at place `k`. -/
inductive InListOrder (groups : List String) : List Attempt → ℕ → Prop
  | nil : InListOrder groups [] 0
  | snoc {attempts : List Attempt} {a : Attempt} {k k' : ℕ} (h : InListOrder groups attempts k)
      (hk : k ≤ k') (ha : groups[k']? = some a.group) : InListOrder groups (attempts ++ [a]) k'

section

variable (request : RelayRequest) (s : RelayState)

/-- The parameters that a turn selects with; those of the first one are made by `Distribute`. -/
def turnParam : RetryParam :=
  if s.attempts = [] then distributeParam request else s.param

/-- The eligible channels of a group that were not tried before. -/
def untriedIn (e : RelayEvent) (group : String) : List Channel :=
  (eligible e.view (turnParam request s) group).filter fun c =>
    ∀ a ∈ s.attempts, a.channel.id ≠ c.id

/-- The groups from place `k` on have no channel to try. -/
def NothingLeft (e : RelayEvent) (k : ℕ) : Prop :=
  ∀ j group, k ≤ j → s.ctx.getUserAutoGroup[j]? = some group → untriedIn request s e group = []

end

/-- The channel is one of those with the highest priority, if there are any. -/
def HighestOf (channels : List Channel) (c : Channel) : Prop :=
  channels ≠ [] → c ∈ channels ∧ ∀ d ∈ channels, d.getPriority ≤ c.getPriority

/-- If the turn makes an attempt, the attempts are in the order of the groups; the first one in a
group uses a channel of the highest priority there; and a channel is not tried again while its group
or a later one has another. -/
def FollowsGroups (setting : RelaySetting) (request : RelayRequest) (s : RelayState)
    (e : RelayEvent) : Prop :=
  ∀ t, Turn setting request s e t →
    ∃ k, InListOrder s.ctx.getUserAutoGroup (s.attempts ++ [t.attempt]) k ∧
      ((∀ a ∈ s.attempts, a.group ≠ t.group) →
        HighestOf (untriedIn request s e t.group) t.channel) ∧
      ((∃ a ∈ s.attempts, a.channel.id = t.channel.id) → NothingLeft request s e k)

def RelayState.groupIndex (s : RelayState) : ℕ := s.ctx.autoGroupIndex.getD 0

/-- What the later attempts rely on. A turn that selects nothing, as the group of the last attempt
was left, comes when nothing is left to try. A turn that selects finds something in the automatic
groups, and if it is the first one in the group it goes on with, all channels there have the same
priority. -/
def LeavesNothing (setting : RelaySetting) (request : RelayRequest) (s : RelayState)
    (e : RelayEvent) : Prop :=
  s.attempts ≠ [] → ∀ t, Turn setting request s e t →
    if s.param.retry = 0 then NothingLeft request s e (s.groupIndex - 1)
    else ¬ NothingLeft request s e s.groupIndex ∧
      ∀ group, s.ctx.getUserAutoGroup[s.groupIndex]? = some group →
        (∀ a ∈ s.attempts, a.group ≠ group) →
        ∀ c ∈ untriedIn request s e group, ∀ d ∈ untriedIn request s e group,
          c.getPriority = d.getPriority

/-! ### Selections that find a channel -/

section

variable {view : ChannelView} {rand : ℕ} {param : RetryParam} {ctx : SelectContext}

/-- A walk finds a channel if one of its groups has one. -/
lemma selectAutoGroup_ne_none {start i : ℕ}
    (h : ∃ group ∈ groups, selectable view param group ≠ []) :
    (selectAutoGroup (satisfiedChannel view rand) start i param ctx groups).channel ≠ none := by
  induction groups generalizing i param ctx with
  | nil => simp at h
  | cons group groups ih =>
    simp only [selectAutoGroup]
    rcases satisfiedChannel_cases view rand param group (if start < i then 0 else param.retry) with
      ⟨hnil, heq⟩ | ⟨channel, -, heq⟩
    · simp only [heq]
      apply ih
      obtain ⟨group', hmem, hne⟩ := h
      rcases mem_cons.mp hmem with rfl | hmem
      · exact absurd hnil hne
      · exact ⟨group', hmem, hne⟩
    · simp only [heq]
      show (if _ then _ else _ : Selected).channel ≠ none
      split_ifs <;> simp

lemma select_auto_of_left (rand : ℕ) (hauto : param.tokenGroup = "auto")
    (h : ∃ group ∈ ctx.getUserAutoGroup.drop (ctx.autoGroupIndex.getD 0),
      selectable view param group ≠ []) :
    ∃ selected,
      cacheGetRandomSatisfiedChannel (satisfiedChannel view rand) param ctx = .ok selected ∧
      selected.channel ≠ none ∧
      Walk view (ctx.autoGroupIndex.getD 0) param ctx
        (ctx.getUserAutoGroup.drop (ctx.autoGroupIndex.getD 0)) selected := by
  let start := ctx.autoGroupIndex.getD 0
  let pick := satisfiedChannel view rand
  let walked := selectAutoGroup pick start start param ctx (ctx.getUserAutoGroup.drop start)
  have hfound : walked.channel ≠ none := selectAutoGroup_ne_none h
  have hgroups : ctx.autoGroups ≠ [] := by
    intro hnil
    obtain ⟨group, hmem, -⟩ := h
    simp [SelectContext.getUserAutoGroup, hnil] at hmem
  refine ⟨walked, ?_, hfound,
    walk_selectAutoGroup start start param ctx _ fun h => absurd h (lt_irrefl _)⟩
  obtain ⟨c, hc⟩ := Option.ne_none_iff_exists'.mp hfound
  have hc' : (selectAutoGroup (satisfiedChannel view rand) (ctx.autoGroupIndex.getD 0)
    (ctx.autoGroupIndex.getD 0) param ctx
    (ctx.getUserAutoGroup.drop (ctx.autoGroupIndex.getD 0))).channel = some c := hc
  rw [cacheGetRandomSatisfiedChannel, if_pos hauto, if_neg hgroups]
  simp only [hc']
  rfl

end

/-! ### The place of the attempts -/

variable {k : ℕ}

/-- Between two turns the attempts are in the order of the groups, and the context goes on with the
group of the last one or a later one; where the last one has left its group it goes on with the
next one. -/
structure AtGroup (s : RelayState) : Prop where
  token : s.param.tokenGroup = "auto"
  ready : s.param.resetNextTry = false
  excluded : ∀ id, id ∈ s.param.excludeChannelIds ↔ ∃ a ∈ s.attempts, a.channel.id = id
  last : ∃ a ∈ s.attempts, a.group = s.group
  place : ∃ k, InListOrder s.ctx.getUserAutoGroup s.attempts k ∧ k ≤ s.groupIndex ∧
    (s.param.retry = 0 → s.groupIndex = k + 1 ∧ s.ctx.getUserAutoGroup[k]? = some s.group)

lemma AtGroup.attempts_ne_nil (h : AtGroup s) : s.attempts ≠ [] := by
  obtain ⟨a, ha, -⟩ := h.last
  exact ne_nil_of_mem ha

lemma AtGroup.mem_untriedIn_iff (h : AtGroup s) {group : String} {c : Channel} :
    c ∈ untriedIn request s e group ↔ c ∈ selectable e.view s.param group := by
  simp only [untriedIn, turnParam, h.attempts_ne_nil, if_false, mem_filter,
    mem_selectable_iff, h.excluded, decide_eq_true_eq, not_exists, not_and]

/-- What a turn that selects comes to: the group at offset `k` of the index. -/
structure SelectsAt (s : RelayState) (e : RelayEvent) (t : RelayState) (k : ℕ) : Prop where
  group : s.ctx.getUserAutoGroup[s.groupIndex + k]? = some t.group
  channel : t.channel ∈ targetChannels (selectable e.view s.param t.group) (walkRetry s.param k)
  groups : t.ctx.getUserAutoGroup = s.ctx.getUserAutoGroup
  token : t.param.tokenGroup = s.param.tokenGroup
  excluded : t.param.excludeChannelIds = s.param.excludeChannelIds
  /-- the next turn goes on with this group, or begins the next one without a selection -/
  next : (t.groupIndex = s.groupIndex + k ∧ t.param.resetNextTry = s.param.resetNextTry) ∨
    t.groupIndex = s.groupIndex + k + 1 ∧ t.param.resetNextTry = true ∧ t.param.retry = 0

lemma selectsAt_of_getChannel (hauto : s.param.tokenGroup = "auto")
    (hleft : ∃ group ∈ s.ctx.getUserAutoGroup.drop s.groupIndex,
      selectable e.view s.param group ≠ [])
    (h : getChannel setting request e s = .ok t) : ∃ k, SelectsAt s e t k := by
  obtain ⟨selected, again, channel, hselect, hagain, hchannel, rfl⟩ := getChannel_eq_ok h
  obtain ⟨walked, heq, hfound, hwalk⟩ := select_auto_of_left e.rand hauto hleft
  obtain rfl : walked = selected := Except.ok.inj (heq.symm.trans hselect)
  have hsame : again = walked := by
    rcases getChannelAgain_eq_ok hagain with rfl | ⟨hnone, -, -⟩
    · rfl
    · exact absurd hnone hfound
  subst hsame
  cases hwalk with
  | none => exact absurd rfl hfound
  | exhausted => exact absurd rfl hfound
  | @stay k group c hgroup hc =>
    obtain rfl : c = channel := Option.some.inj hchannel
    exact ⟨k, by simpa [RelayState.groupIndex] using hgroup, hc, rfl, rfl, rfl, Or.inl ⟨rfl, rfl⟩⟩
  | @leave k group c hgroup hc =>
    obtain rfl : c = channel := Option.some.inj hchannel
    exact ⟨k, by simpa [RelayState.groupIndex] using hgroup, hc, rfl, rfl, rfl,
      Or.inr ⟨rfl, rfl, rfl⟩⟩

/-- After an attempt at place `k` the next turn stands there, or behind it. -/
lemma atGroup_next (htoken : t.param.tokenGroup = "auto")
    (hexcluded : ∀ id, id ∈ t.param.excludeChannelIds ↔ ∃ a ∈ s.attempts, a.channel.id = id)
    (horder : InListOrder t.ctx.getUserAutoGroup (s.attempts ++ [t.attempt]) k)
    (hgroup : t.ctx.getUserAutoGroup[k]? = some t.group)
    (hnext : (k ≤ t.groupIndex ∧ t.param.resetNextTry = false) ∨
      t.groupIndex = k + 1 ∧ t.param.resetNextTry = true ∧ t.param.retry = 0) :
    AtGroup { t with
      attempts := s.attempts ++ [t.attempt]
      param := (t.param.addFailedChannel t.channel.id).increaseRetry } := by
  have hids : ∀ id, id ∈ t.channel.id :: t.param.excludeChannelIds ↔
      ∃ a ∈ s.attempts ++ [t.attempt], a.channel.id = id := by
    intro id
    rw [mem_cons, hexcluded]
    rw [or_comm]
    simp [RelayState.attempt, eq_comm]
  have hlast : ∃ a ∈ s.attempts ++ [t.attempt], a.group = t.group :=
    ⟨t.attempt, by simp, rfl⟩
  rcases hnext with ⟨hindex, hreset⟩ | ⟨hindex, hreset, hretry⟩
  · have hparam : (t.param.addFailedChannel t.channel.id).increaseRetry =
        { t.param.addFailedChannel t.channel.id with retry := t.param.retry + 1 } := by
      simp [increaseRetry, addFailedChannel, hreset]
    rw [hparam]
    exact ⟨htoken, hreset, hids, hlast, k, horder, hindex, by simp⟩
  · have hparam : (t.param.addFailedChannel t.channel.id).increaseRetry =
        { t.param.addFailedChannel t.channel.id with resetNextTry := false } := by
      simp [increaseRetry, addFailedChannel, hreset]
    rw [hparam]
    refine ⟨htoken, rfl, hids, hlast, k, horder, ?_, fun _ => ⟨hindex, hgroup⟩⟩
    show k ≤ t.groupIndex
    omega

/-! ### One turn -/

/-- What a turn comes to between the first one and the last: the attempt is at a place `k` of the
list from where the next turn goes on, and it follows the groups. -/
structure FollowsAt (request : RelayRequest) (s : RelayState) (e : RelayEvent) (t : RelayState)
    (k : ℕ) : Prop where
  order : InListOrder s.ctx.getUserAutoGroup (s.attempts ++ [t.attempt]) k
  highest : (∀ a ∈ s.attempts, a.group ≠ t.group) →
    HighestOf (untriedIn request s e t.group) t.channel
  fresh : (∃ a ∈ s.attempts, a.channel.id = t.channel.id) → NothingLeft request s e k
  next : AtGroup { t with
    attempts := s.attempts ++ [t.attempt]
    param := (t.param.addFailedChannel t.channel.id).increaseRetry }

/-- A turn without a selection tries the channel of the last one again. -/
lemma AtGroup.again (h : AtGroup s) (hretry : s.param.retry = 0)
    (hnothing : NothingLeft request s e (s.groupIndex - 1)) : ∃ k, FollowsAt request s e s k := by
  obtain ⟨k, horder, hle, hplace⟩ := h.place
  obtain ⟨hindex, hgroup⟩ := hplace hretry
  have horder' : InListOrder s.ctx.getUserAutoGroup (s.attempts ++ [s.attempt]) k :=
    horder.snoc le_rfl hgroup
  refine ⟨k, horder', ?_, fun _ => ?_, ?_⟩
  · intro hfirst
    obtain ⟨a, ha, hsame⟩ := h.last
    exact absurd hsame (hfirst a ha)
  · rwa [hindex, Nat.add_sub_cancel] at hnothing
  · exact atGroup_next h.token h.excluded horder' hgroup (Or.inl ⟨hle, h.ready⟩)

lemma exists_left_of_not_nothingLeft (h : AtGroup s)
    (hleft : ¬ NothingLeft request s e s.groupIndex) :
    ∃ group ∈ s.ctx.getUserAutoGroup.drop s.groupIndex, selectable e.view s.param group ≠ [] := by
  simp only [NothingLeft, not_forall] at hleft
  obtain ⟨j, group, hj, hgroup, hne⟩ := hleft
  refine ⟨group, ?_, fun hnil => hne ?_⟩
  · apply mem_of_getElem?
    rw [List.getElem?_drop, Nat.add_sub_cancel' hj]
    exact hgroup
  · rw [eq_nil_iff_forall_not_mem]
    intro c hc
    rw [h.mem_untriedIn_iff, hnil] at hc
    cases hc

/-- A turn with a selection tries a channel that was not tried, of the highest priority unless the
selection begins in its first group with the counter of another one. -/
lemma AtGroup.select (h : AtGroup s)
    (hlevel : ∀ group, s.ctx.getUserAutoGroup[s.groupIndex]? = some group →
      (∀ a ∈ s.attempts, a.group ≠ group) →
      ∀ c ∈ untriedIn request s e group, ∀ d ∈ untriedIn request s e group,
        c.getPriority = d.getPriority) (hselects : SelectsAt s e t k) :
    FollowsAt request s e t (s.groupIndex + k) := by
  obtain ⟨place, horder, hle, -⟩ := h.place
  have horder' : InListOrder s.ctx.getUserAutoGroup (s.attempts ++ [t.attempt])
      (s.groupIndex + k) := horder.snoc (by omega) hselects.group
  obtain ⟨hmem, hlevelAt⟩ := mem_targetChannels.mp hselects.channel
  have huntried : t.channel ∈ untriedIn request s e t.group := h.mem_untriedIn_iff.mpr hmem
  refine ⟨horder', fun hfirst _ => ⟨huntried, fun d hd => ?_⟩, ?_, ?_⟩
  · cases k with
    | zero => exact (hlevel t.group hselects.group hfirst d hd _ huntried).le
    | succ k =>
      exact le_of_levelAt_zero hlevelAt _ (mem_map_of_mem (h.mem_untriedIn_iff.mp hd))
  · rintro ⟨a, ha, hid⟩
    have hnew : ∀ a ∈ s.attempts, a.channel.id ≠ t.channel.id := by
      simpa using (mem_filter.mp huntried).2
    exact absurd hid (hnew a ha)
  · rw [← hselects.groups] at horder'
    have hgroup := hselects.group
    rw [← hselects.groups] at hgroup
    refine atGroup_next (hselects.token.trans h.token) ?_ horder' hgroup ?_
    · rw [hselects.excluded]
      exact h.excluded
    · rw [← h.ready]
      exact hselects.next.imp_left fun hstay => ⟨hstay.1.ge, hstay.2⟩

lemma AtGroup.turn (h : AtGroup s) (hok : LeavesNothing setting request s e)
    (ht : Turn setting request s e t) : ∃ k, FollowsAt request s e t k := by
  have hcondition := hok h.attempts_ne_nil t ht
  have hturn := ht.channel
  rw [turnChannel] at hturn
  by_cases hretry : s.param.retry = 0
  · rw [if_pos hretry] at hcondition
    rw [if_neg (by omega)] at hturn
    cases hturn
    exact h.again hretry hcondition
  · rw [if_neg hretry] at hcondition
    rw [if_pos (by omega)] at hturn
    obtain ⟨hleft, hlevel⟩ := hcondition
    obtain ⟨k, hselects⟩ := selectsAt_of_getChannel h.token
      (exists_left_of_not_nothingLeft h hleft) hturn
    exact ⟨_, h.select hlevel hselects⟩

/-! ### Whole runs -/

variable {ctx : SelectContext}

/-- The state is between two turns, or the loop has ended. -/
def Walking (s : RelayState) : Prop := s.finished = false → AtGroup s

lemma Walking.followsGroups (h : Walking s) (hok : LeavesNothing setting request s e) :
    FollowsGroups setting request s e := by
  intro t ht
  obtain ⟨k, hfollows⟩ := (h ht.running).turn hok ht
  exact ⟨k, hfollows.order, hfollows.highest, hfollows.fresh⟩

lemma walking_relayStep (hturn : ∀ t, Turn setting request s e t → ∃ k, FollowsAt request s e t k)
    (hdone : s.finished = true → Walking s) : Walking (relayStep setting request s e) := by
  apply relayStep_cases
  case done => exact hdone
  case stop =>
    intro t _ _ _ hfinished hrunning
    rw [hfinished] at hrunning
    contradiction
  case last => exact fun t _ => nofun
  case again =>
    intro t ht _
    obtain ⟨k, hfollows⟩ := hturn t ht
    exact hfollows.next

lemma Walking.step (h : Walking s) (hok : LeavesNothing setting request s e) :
    Walking (relayStep setting request s e) :=
  walking_relayStep (fun _ ht => (h ht.running).turn hok ht) fun _ => h

/-- A first channel that is drawn is one of the highest priority in its group. -/
lemma drawn_walk (hauto : request.tokenGroup = "auto") {view : ChannelView} {rand : ℕ}
    {selected : Selected} {c : Channel}
    (hselect : cacheGetRandomSatisfiedChannel (satisfiedChannel view rand)
      (distributeParam request) ctx = .ok selected) (hc : selected.channel = some c) :
    ∃ k, selected.ctx.getUserAutoGroup[k]? = some selected.selectGroup ∧
      c ∈ targetChannels (selectable view (distributeParam request) selected.selectGroup) 0 ∧
      k ≤ selected.ctx.autoGroupIndex.getD 0 := by
  have hauto' : (distributeParam request).tokenGroup = "auto" := hauto
  have hzero : ∀ k, walkRetry (distributeParam request) k = 0 := by
    simp [walkRetry, distributeParam]
  obtain ⟨walked, hwalk, ⟨-, rfl⟩ | ⟨hnone, channel, rfl, hchannel⟩⟩ :=
    walk_of_select hauto' hselect
  · cases hwalk with
    | none => cases hc
    | exhausted => cases hc
    | @stay k group d hgroup hd =>
      obtain rfl : d = c := Option.some.inj hc
      rw [hzero] at hd
      rw [List.getElem?_drop] at hgroup
      exact ⟨_, hgroup, hd, le_rfl⟩
    | @leave k group d hgroup hd =>
      obtain rfl : d = c := Option.some.inj hc
      rw [hzero] at hd
      rw [List.getElem?_drop] at hgroup
      exact ⟨_, hgroup, hd, Nat.le_succ _⟩
  · -- without API types there is no other format to fall back to
    obtain ⟨hallow, -⟩ := hchannel c hc
    cases hwalk with
    | stay => cases hnone
    | leave => cases hnone
    | none => simp [distributeParam, allowCrossFormatFallback] at hallow
    | exhausted => simp [distributeParam, allowCrossFormatFallback] at hallow

/-- The first turn, with a channel that was drawn in what the server looks like at that turn. -/
lemma followsAt_first (hauto : request.tokenGroup = "auto") {rand : ℕ}
    {first : Channel × String × SelectContext}
    (hdrawn : distribute request e.view ctx (.drawn rand) = some first)
    (ht : Turn setting request (relayStart setting request first) e t) :
    ∃ k, FollowsAt request (relayStart setting request first) e t k := by
  have hturn := ht.channel
  obtain rfl : relayStart setting request first = t := by
    simpa [turnChannel, relayStart] using hturn
  simp only [distribute] at hdrawn
  cases hselect : cacheGetRandomSatisfiedChannel (satisfiedChannel e.view rand)
      (distributeParam request) ctx with
  | error err => simp [hselect] at hdrawn
  | ok selected =>
    simp only [hselect, Option.map_eq_some_iff] at hdrawn
    obtain ⟨c, hc, rfl⟩ := hdrawn
    obtain ⟨k, hgroup, hchannel, hindex⟩ := drawn_walk hauto hselect hc
    obtain ⟨hmem, hlevel⟩ := mem_targetChannels.mp hchannel
    have horder : InListOrder selected.ctx.getUserAutoGroup
        ([] ++ [(relayStart setting request (c, selected.selectGroup, selected.ctx)).attempt]) k :=
      InListOrder.nil.snoc (Nat.zero_le k) hgroup
    have huntried : ∀ d, d ∈ untriedIn request
        (relayStart setting request (c, selected.selectGroup, selected.ctx)) e
          selected.selectGroup ↔
        d ∈ selectable e.view (distributeParam request) selected.selectGroup := by
      intro d
      simp [untriedIn, turnParam, relayStart, eligible, distributeParam]
    refine ⟨k, horder, fun _ _ => ⟨(huntried c).mpr hmem, fun d hd => ?_⟩, ?_, ?_⟩
    · exact le_of_levelAt_zero hlevel _ (mem_map_of_mem ((huntried d).mp hd))
    · rintro ⟨a, ha, -⟩
      cases ha
    · exact atGroup_next hauto (by simp [relayStart]) horder hgroup (Or.inl ⟨hindex, rfl⟩)

/-- The attempts of a request whose first channel was drawn go through the automatic groups as they
should, in every run whose turns find what they rely on. -/
theorem followsGroups_along (setting : RelaySetting) (request : RelayRequest)
    (hauto : request.tokenGroup = "auto") {e : RelayEvent} {ctx : SelectContext} {rand : ℕ}
    {first : Channel × String × SelectContext}
    (hdrawn : distribute request e.view ctx (.drawn rand) = some first) (es : List RelayEvent)
    (h : Along (relayStep setting request) (LeavesNothing setting request)
      (relayStart setting request first) (e :: es)) :
    Along (relayStep setting request) (FollowsGroups setting request)
      (relayStart setting request first) (e :: es) := by
  obtain ⟨-, htail⟩ := h
  constructor
  · intro t ht
    obtain ⟨k, hfollows⟩ := followsAt_first hauto hdrawn ht
    exact ⟨k, hfollows.order, hfollows.highest, hfollows.fresh⟩
  · refine Along.imp (I := Walking) (fun _ _ hs hok => hs.step hok) ?_ htail
      fun _ _ hs hok => hs.followsGroups hok
    exact walking_relayStep (fun t ht => followsAt_first hauto hdrawn ht) nofun

/-! ### Two groups -/

/-- A request may use the groups `a` and `b`, with one retry in each. -/
def groupsAB : SelectContext where
  retryTimes := 1
  autoGroups := ["a", "b"]
  usableGroups := ["a", "b"]
  crossGroupRetry := true

def groupChannel (id : ℤ) (group : String) (priority : ℤ) : Channel :=
  { id := id, models := "m", group := group, priority := some priority }

/-- One channel in each group. -/
def oneInEach : ChannelView where
  channels :=
    { rows := [groupChannel 1 "a" 0, groupChannel 3 "b" 0]
      next := 4
      nodup := by decide
      fresh := by decide }

/-- Two channels in the first group, and one of each of two priorities in the second. -/
def twoInEach : ChannelView where
  channels :=
    { rows := [groupChannel 1 "a" 0, groupChannel 2 "a" 0, groupChannel 3 "b" 10,
        groupChannel 4 "b" 5]
      next := 5
      nodup := by decide
      fresh := by decide }

/-- A request whose first channel is the first one of the first group. -/
def firstOfA : Channel × String × SelectContext :=
  (groupChannel 1 "a" 0, "a", { groupsAB with autoGroup := some "a", autoGroupIndex := some 0 })

def startOfA : RelayState := relayStart retryAll autoRequest firstOfA

/-- The second group is tried when the first one has no other channel. -/
theorem followsGroups_along_oneInEach :
    distribute autoRequest oneInEach groupsAB (.drawn 0) = some firstOfA ∧
      Along (relayStep retryAll autoRequest) (FollowsGroups retryAll autoRequest) startOfA
        [.internalError oneInEach, .internalError oneInEach] := by
  have hdrawn : distribute autoRequest (RelayEvent.internalError oneInEach).view groupsAB
      (.drawn 0) = some firstOfA := rfl
  refine ⟨hdrawn, followsGroups_along retryAll autoRequest rfl hdrawn _
    ⟨fun h => absurd rfl h, fun _ t _ => ?_, trivial⟩⟩
  rw [if_neg (by decide +kernel)]
  refine ⟨fun hnothing => ?_, fun group hgroup hfirst => ?_⟩
  · have hempty := congrArg List.length (hnothing 1 "b" (by decide +kernel) (by decide +kernel))
    exact absurd hempty (by decide +kernel)
  · obtain rfl : "a" = group := Option.some.inj hgroup
    have hbefore : ∃ a ∈ (relayStep retryAll autoRequest startOfA
        (.internalError oneInEach)).attempts, a.group = "a" := by decide +kernel
    obtain ⟨a, ha, hsame⟩ := hbefore
    exact absurd hsame (hfirst a ha)

lemma InListOrder.last {attempts : List Attempt} {a : Attempt}
    (h : InListOrder groups (attempts ++ [a]) k) : groups[k]? = some a.group := by
  generalize hall : attempts ++ [a] = all at h
  cases h with
  | nil => simp at hall
  | snoc _ _ ha =>
    obtain ⟨-, hlast⟩ := append_inj' hall rfl
    cases hlast
    exact ha

/-- The second channel of the first group is tried twice, although the second group is untouched,
and there the channel of low priority is the first one. A first channel by affinity can even be of
the second group, before the first one is tried. -/
theorem not_followsGroups_twoInEach :
    distribute autoRequest twoInEach groupsAB (.drawn 0) = some firstOfA ∧
      (run (relayStep retryAll autoRequest) startOfA
          (List.replicate 4 (.internalError twoInEach))).attempts.map
            (fun a => (a.channel.id, a.group)) = [(1, "a"), (2, "a"), (2, "a"), (4, "b")] ∧
      ¬ Along (relayStep retryAll autoRequest) (FollowsGroups retryAll autoRequest) startOfA
        (List.replicate 4 (.internalError twoInEach)) ∧
      ∃ first, distribute autoRequest twoInEach groupsAB (.affinity (groupChannel 3 "b" 10)) =
          some first ∧
        (run (relayStep retryAll autoRequest) (relayStart retryAll autoRequest first)
          (List.replicate 2 (.internalError twoInEach))).attempts.map (·.group) = ["b", "a"] := by
  refine ⟨rfl, by decide +kernel, ?_, ?_⟩
  · rintro ⟨-, -, hthird, -⟩
    let third := run (relayStep retryAll autoRequest) startOfA
      (List.replicate 2 (.internalError twoInEach))
    obtain ⟨k, horder, -, hfresh⟩ := hthird third ⟨by decide +kernel, by decide +kernel, rfl, rfl⟩
    have hplace : (["a", "b"] : List String)[k]? = some "a" := horder.last
    have hk : k ≤ 1 := by
      have := (List.getElem?_eq_some_iff.mp hplace).1
      simpa using Nat.le_of_lt_succ this
    have hempty := congrArg List.length (hfresh (by decide +kernel) 1 "b" hk (by decide +kernel))
    exact absurd hempty (by decide +kernel)
  · exact ⟨(groupChannel 3 "b" 10, "b", { groupsAB with autoGroup := some "b" }), rfl,
      by decide +kernel⟩

end XinghaiApi
