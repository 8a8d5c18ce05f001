import XinghaiApi.Controller.Relay

/-!
# The price of a request that changes its group

A retry may go on in another automatic group. The ratio in the relay info follows the group until it
has been 0 once, and the snapshot of tiered billing keeps the ratio of the first group.
-/

namespace XinghaiApi

open Machine

/-! ### What the ratio comes from -/

variable {first : Channel × String × SelectContext}

section

variable (setting : RelaySetting) (request : RelayRequest)

/-- The ratio that `HandleGroupRatio` gives for the user of a request in a group. -/
def ratioIn (group : String) : ℚ :=
  (handleGroupRatio setting.ratios none request.userGroup group).1.groupRatio

/-- Some attempt was made while the using group had the ratio 0. -/
def WasFree (attempts : List Attempt) : Prop :=
  ∃ b ∈ attempts, ratioIn setting request b.usingGroup = 0

instance (attempts : List Attempt) : Decidable (WasFree setting request attempts) :=
  inferInstanceAs (Decidable (∃ b ∈ attempts, ratioIn setting request b.usingGroup = 0))

/-- The ratio of a group, after the attempts that were made. -/
def carriedRatio (attempts : List Attempt) (usingGroup : String) : ℚ :=
  if WasFree setting request attempts then 0 else ratioIn setting request usingGroup

/-- The condition under which settlement uses the ratio of the group that served. -/
def PriceFollows (attempts : List Attempt) (a : Attempt) : Prop :=
  if request.billingMode = .tieredExpr then
    ∀ b, attempts.head? = some b →
      ratioIn setting request b.usingGroup = ratioIn setting request a.group
  else if WasFree setting request attempts then ratioIn setting request a.group = 0
  else ratioIn setting request a.usingGroup = ratioIn setting request a.group

/-- The same condition by the groups that served: in tiered billing the first one and the last one
have the same ratio, and otherwise a group with the ratio 0 is followed by such groups only. -/
def GroupsKeepPrice (attempts : List Attempt) (a : Attempt) : Prop :=
  if request.billingMode = .tieredExpr then
    ∀ b, attempts.head? = some b → ratioIn setting request b.group = ratioIn setting request a.group
  else
    (∃ b ∈ attempts, ratioIn setting request b.group = 0) → ratioIn setting request a.group = 0

variable {setting request}

section

variable (attempts : List Attempt) (a : Attempt)

lemma wasFree_append :
    WasFree setting request (attempts ++ [a]) ↔
      WasFree setting request attempts ∨ ratioIn setting request a.usingGroup = 0 := by
  simp [WasFree, or_and_right, exists_or]

lemma head?_append_attempt : (attempts ++ [a]).head? = some (attempts.head?.getD a) := by
  cases attempts with
  | nil => rfl
  | cons b attempts => rfl

lemma carriedRatio_append :
    carriedRatio setting request (attempts ++ [a]) a.usingGroup =
      carriedRatio setting request attempts a.usingGroup := by
  by_cases hfree : WasFree setting request attempts
  · simp [carriedRatio, wasFree_append, hfree]
  · by_cases hzero : ratioIn setting request a.usingGroup = 0
    · simp [carriedRatio, hzero]
    · simp [carriedRatio, wasFree_append, hzero]

end

/-- A ratio of 0 stays, and any other one follows the using group. -/
lemma ratio_updateUsingGroup {s : RelayState}
    (hs : s.groupRatioInfo.groupRatio = ratioIn setting request s.usingGroup)
    (hpaid : s.groupRatioInfo.groupRatio ≠ 0) (ctx : SelectContext) (selectGroup : String) :
    (updateUsingGroup setting request s ctx selectGroup).groupRatioInfo.groupRatio =
      ratioIn setting request (updateUsingGroup setting request s ctx selectGroup).usingGroup := by
  rw [updateUsingGroup]
  split_ifs
  · rfl
  · exact hs

lemma ratio_updateUsingGroup_of_eq_zero {s : RelayState}
    (hfree : s.groupRatioInfo.groupRatio = 0) (ctx : SelectContext) (selectGroup : String) :
    (updateUsingGroup setting request s ctx selectGroup).groupRatioInfo.groupRatio = 0 := by
  rw [updateUsingGroup]
  simp only [hfree, ne_eq, not_true_eq_false, if_false]
  split_ifs
  · exact hfree
  · exact hfree

end

/-! ### The groups of automatic selection -/

variable {attempts : List Attempt}

section

variable {setting : RelaySetting} {request : RelayRequest} {view : ChannelView} {rand : ℕ}
  {param : RetryParam} {ctx : SelectContext} {selected : Selected}

/-- What a selection for the group `auto` comes to: the walk has put the group into the context, or
it has found nothing and the group is `auto` itself. -/
inductive SelectsAuto (param : RetryParam) (ctx : SelectContext) (selected : Selected) : Prop
  | walked (hchannel : selected.channel ≠ none)
      (hgroup : selected.ctx.autoGroup = some selected.selectGroup)
      (hleft : ctx.getUserAutoGroup.drop (ctx.autoGroupIndex.getD 0) ≠ [])
  | behind (hgroup : selected.selectGroup = "auto")
      (hsame : 0 < selected.param.retry → selected.ctx = ctx ∧
        ctx.getUserAutoGroup.drop (ctx.autoGroupIndex.getD 0) = [])

lemma selectsAuto_of_select (hauto : param.tokenGroup = "auto")
    (h : cacheGetRandomSatisfiedChannel (satisfiedChannel view rand) param ctx = .ok selected) :
    SelectsAuto param ctx selected ∧ selected.param.tokenGroup = "auto" := by
  obtain ⟨walked, hwalk, ⟨hfound, rfl⟩ | ⟨hmissed, channel, rfl, -⟩⟩ := walk_of_select hauto h
  · have hleft : ∀ {k : ℕ} {group : String},
        (ctx.getUserAutoGroup.drop (ctx.autoGroupIndex.getD 0))[k]? = some group →
        ctx.getUserAutoGroup.drop (ctx.autoGroupIndex.getD 0) ≠ [] := by
      intro k group hget hnil
      simp [hnil] at hget
    cases hwalk with
    | stay hgroup => exact ⟨.walked hfound rfl (hleft hgroup), hauto⟩
    | leave hgroup => exact ⟨.walked hfound rfl (hleft hgroup), hauto⟩
    | none => exact absurd rfl hfound
    | exhausted => exact absurd rfl hfound
  · cases hwalk with
    | stay => cases hmissed
    | leave => cases hmissed
    | none hnil => exact ⟨.behind hauto fun _ => ⟨rfl, hnil⟩, hauto⟩
    | exhausted => exact ⟨.behind hauto fun h => absurd h (lt_irrefl 0), hauto⟩

/-- Where the channel that failed last is allowed again, the group stays `auto`. -/
lemma getChannelAgain_auto {again : Selected} (htoken : selected.param.tokenGroup = "auto")
    (hselects : SelectsAuto param ctx selected)
    (h : getChannelAgain (satisfiedChannel view rand) selected = .ok again) :
    again.param.tokenGroup = "auto" ∧ (again = selected ∨ again.selectGroup = "auto") := by
  rcases getChannelAgain_eq_ok h with rfl | ⟨hnone, hretry, hselect⟩
  · exact ⟨htoken, Or.inl rfl⟩
  · obtain ⟨hagain, htoken'⟩ := selectsAuto_of_select (by exact htoken) hselect
    refine ⟨htoken', Or.inr ?_⟩
    cases hselects with
    | walked hchannel => exact absurd hnone hchannel
    | behind hgroup hsame =>
      obtain ⟨hctx, hnil⟩ := hsame hretry
      cases hagain with
      | behind hgroup' => exact hgroup'
      | walked _ _ hleft =>
        rw [hctx] at hleft
        exact absurd hnil hleft

def Named (group : String) : Prop := group ≠ "" ∧ group ≠ "auto"

instance (group : String) : Decidable (Named group) :=
  inferInstanceAs (Decidable (group ≠ "" ∧ group ≠ "auto"))

/-- As long as the ratio is not 0, the using group is the group of the channel. -/
lemma usingGroup_of_getChannel {e : RelayEvent} {s t : RelayState}
    (hauto : s.param.tokenGroup = "auto") (h : getChannel setting request e s = .ok t) :
    t.param.tokenGroup = "auto" ∧
      (s.groupRatioInfo.groupRatio ≠ 0 → Named t.group → t.usingGroup = t.group) := by
  obtain ⟨selected, again, channel, hselect, hagain, hchannel, rfl⟩ := getChannel_eq_ok h
  obtain ⟨hselects, htoken⟩ := selectsAuto_of_select hauto hselect
  obtain ⟨htoken', rfl | hagain'⟩ := getChannelAgain_auto htoken hselects hagain
  · refine ⟨htoken, ?_⟩
    rintro hpaid ⟨hempty, hname⟩
    cases hselects with
    | behind hgroup => exact absurd hgroup hname
    | walked _ hgroup =>
      show (updateUsingGroup setting request s again.ctx again.selectGroup).usingGroup =
        again.selectGroup
      rw [updateUsingGroup]
      split_ifs with hnew
      · simp [handleGroupRatio, hgroup]
      · by_contra hne
        exact hnew ⟨hempty, Ne.symm hne⟩
  · exact ⟨htoken', fun _ hnamed => absurd hagain' hnamed.2⟩

variable (setting) in
lemma usingGroup_relayStart {choice : FirstChoice} (hauto : request.tokenGroup = "auto")
    (hctx : ctx.autoGroup = none) (hfirst : distribute request view ctx choice = some first)
    (hnamed : Named first.2.1) : (relayStart setting request first).usingGroup = first.2.1 := by
  show first.2.2.autoGroup.getD request.tokenGroup = first.2.1
  cases choice with
  | specific channel =>
    simp only [distribute] at hfirst
    split_ifs at hfirst
    cases hfirst
    simp [hctx]
  | affinity preferred =>
    simp only [distribute, hauto, if_true] at hfirst
    split_ifs at hfirst
    obtain ⟨g, -, rfl⟩ := Option.map_eq_some_iff.mp hfirst
    simp
  | drawn rand =>
    cases hselect : cacheGetRandomSatisfiedChannel (satisfiedChannel view rand)
        (distributeParam request) ctx with
    | error err => simp [distribute, hselect] at hfirst
    | ok selected =>
      simp only [distribute, hselect] at hfirst
      obtain ⟨c, -, rfl⟩ := Option.map_eq_some_iff.mp hfirst
      obtain ⟨hselects, -⟩ := selectsAuto_of_select (by exact hauto) hselect
      cases hselects with
      | walked _ hgroup => simp [hgroup]
      | behind hgroup => exact absurd hgroup hnamed.2

end

/-! ### Prices along a run -/

section

variable {setting : RelaySetting} {request : RelayRequest} {start s t : RelayState} {e : RelayEvent}

/-- How the price of a running request comes from its attempts and from the state before them. -/
structure Priced (setting : RelaySetting) (request : RelayRequest) (start s : RelayState) :
    Prop where
  token : s.param.tokenGroup = "auto"
  ratio : s.groupRatioInfo.groupRatio = carriedRatio setting request s.attempts s.usingGroup
  snapshot : s.snapshotRatio = start.snapshotRatio
  origin : (s.attempts.head?.getD s.attempt).usingGroup = start.usingGroup ∧
    (s.attempts.head?.getD s.attempt).group = start.group
  group : ¬ WasFree setting request s.attempts → Named s.group → s.usingGroup = s.group

/-- Selecting a channel keeps the price, as the group before has been used in an attempt. -/
lemma Priced.turn (hs : Priced setting request start s)
    (hseen : 0 < s.param.retry → ∃ b ∈ s.attempts, b.usingGroup = s.usingGroup)
    (h : turnChannel setting request e s = .ok t) : Priced setting request start t := by
  obtain ⟨hattempts, -⟩ := attempts_turnChannel h
  rw [turnChannel] at h
  split_ifs at h with hretry
  · obtain ⟨b, hb, husing⟩ := hseen hretry
    obtain ⟨htoken, hgroup⟩ := usingGroup_of_getChannel hs.token h
    obtain ⟨selected, again, channel, -, -, -, rfl⟩ := getChannel_eq_ok h
    obtain ⟨usingGroup, info, hupdate⟩ :=
      updateUsingGroup_eq setting request s selected.ctx selected.selectGroup
    have hhead : ∀ x y : Attempt, s.attempts.head?.getD x = s.attempts.head?.getD y := by
      intro x y
      cases hs' : s.attempts with
      | nil => simp [hs'] at hb
      | cons a attempts => rfl
    -- without a free attempt the ratio is not 0, since it is that of an attempt
    have hpaid : ¬ WasFree setting request s.attempts →
        s.groupRatioInfo.groupRatio = ratioIn setting request s.usingGroup ∧
          s.groupRatioInfo.groupRatio ≠ 0 := by
      intro hfree
      have hratio := hs.ratio
      rw [carriedRatio, if_neg hfree] at hratio
      exact ⟨hratio, fun hzero => hfree ⟨b, hb, husing ▸ hratio ▸ hzero⟩⟩
    refine ⟨htoken, ?_, by rw [hupdate]; exact hs.snapshot, ?_, ?_⟩
    · rw [hattempts]
      by_cases hfree : WasFree setting request s.attempts
      · have hzero := hs.ratio
        rw [carriedRatio, if_pos hfree] at hzero ⊢
        exact ratio_updateUsingGroup_of_eq_zero hzero selected.ctx selected.selectGroup
      · rw [carriedRatio, if_neg hfree]
        exact ratio_updateUsingGroup (hpaid hfree).1 (hpaid hfree).2 selected.ctx
          selected.selectGroup
    · rw [hattempts, hhead _ s.attempt]
      exact hs.origin
    · rw [hattempts]
      exact fun hfree => hgroup (hpaid hfree).2
  · cases h
    exact hs

/-- How the last one of a list of attempts is settled. -/
structure Settled (setting : RelaySetting) (request : RelayRequest) (start : RelayState)
    (attempts : List Attempt) : Prop where
  last : ∀ a, attempts.getLast? = some a →
    a.settlementRatio =
      start.snapshotRatio.getD (carriedRatio setting request attempts a.usingGroup)
  head : ∀ b, attempts.head? = some b → b.usingGroup = start.usingGroup ∧ b.group = start.group
  free : (∀ b ∈ attempts, Named b.group) →
    (WasFree setting request attempts ↔ ∃ b ∈ attempts, ratioIn setting request b.group = 0)
  group : ∀ a, attempts.getLast? = some a → ¬ WasFree setting request attempts →
    Named a.group → a.usingGroup = a.group

/-- An attempt is settled by the price of its turn. -/
lemma Settled.append (h : Settled setting request start attempts)
    (ht : Priced setting request start t) (hattempts : t.attempts = attempts) :
    Settled setting request start (attempts ++ [t.attempt]) := by
  subst hattempts
  have hlast : ∀ a, (t.attempts ++ [t.attempt]).getLast? = some a → a = t.attempt := by
    simp
  have hpaid : ¬ WasFree setting request (t.attempts ++ [t.attempt]) →
      ¬ WasFree setting request t.attempts :=
    fun h hfree => h ((wasFree_append _ _).mpr (Or.inl hfree))
  refine ⟨?_, ?_, ?_, ?_⟩
  · intro a ha
    obtain rfl := hlast a ha
    rw [carriedRatio_append]
    show t.snapshotRatio.getD t.groupRatioInfo.groupRatio = _
    rw [ht.snapshot, ht.ratio]
    rfl
  · intro b hb
    rw [head?_append_attempt, Option.some.injEq] at hb
    exact hb ▸ ht.origin
  · intro hnamed
    have hbefore := h.free fun b hb => hnamed b (List.mem_append_left _ hb)
    have hnow := hnamed t.attempt (List.mem_append_right _ (List.mem_singleton_self _))
    by_cases hfree : WasFree setting request t.attempts
    · obtain ⟨b, hb, hzero⟩ := hbefore.mp hfree
      exact iff_of_true ((wasFree_append _ _).mpr (Or.inl hfree))
        ⟨b, List.mem_append_left _ hb, hzero⟩
    · have husing : t.attempt.usingGroup = t.attempt.group := ht.group hfree hnow
      rw [wasFree_append, hbefore, husing]
      simp [or_and_right, exists_or]
  · intro a ha hfree hnamed
    obtain rfl := hlast a ha
    exact ht.group (hpaid hfree) hnamed

/-- The invariant of the loop. -/
structure PriceHistory (setting : RelaySetting) (request : RelayRequest) (start s : RelayState) :
    Prop where
  settled : Settled setting request start s.attempts
  priced : s.finished = false → Priced setting request start s
  seen : s.finished = false → 0 < s.param.retry → ∃ b ∈ s.attempts, b.usingGroup = s.usingGroup

lemma PriceHistory.step (hs : PriceHistory setting request start s) (e : RelayEvent) :
    PriceHistory setting request start (relayStep setting request s e) := by
  have hturn : ∀ t, Turn setting request s e t → Priced setting request start t ∧
      t.attempts = s.attempts ∧ Settled setting request start (s.attempts ++ [t.attempt]) := by
    intro t ht
    have hpriced := (hs.priced ht.running).turn (hs.seen ht.running) ht.channel
    obtain ⟨hattempts, -⟩ := attempts_turnChannel ht.channel
    exact ⟨hpriced, hattempts, hs.settled.append hpriced hattempts⟩
  apply relayStep_cases
  case done => exact fun _ => hs
  case stop =>
    intro t _ _ hattempts hfinished
    exact ⟨hattempts ▸ hs.settled, by simp [hfinished], by simp [hfinished]⟩
  case last =>
    intro t ht
    obtain ⟨-, -, hsettled⟩ := hturn t ht
    exact ⟨hsettled, by simp, by simp⟩
  case again =>
    intro t ht
    obtain ⟨hpriced, hattempts, hsettled⟩ := hturn t ht
    refine ⟨hsettled, fun _ => ⟨?_, ?_, hpriced.snapshot, ?_, ?_⟩, fun _ _ => ?_⟩
    · exact (nextParam_eq t).1.trans hpriced.token
    · show t.groupRatioInfo.groupRatio = carriedRatio _ _ _ t.attempt.usingGroup
      rw [carriedRatio_append, ← hattempts]
      exact hpriced.ratio
    · rw [head?_append_attempt, ← hattempts]
      exact hpriced.origin
    · intro hfree
      rw [wasFree_append, not_or, ← hattempts] at hfree
      exact hpriced.group hfree.1
    · exact ⟨t.attempt, List.mem_append_right _ (List.mem_singleton_self _), rfl⟩

/-- The first channel is priced by `HandleGroupRatio`. -/
lemma priceHistory_relayStart (hauto : request.tokenGroup = "auto")
    (hgroup : Named first.2.1 → (relayStart setting request first).usingGroup = first.2.1) :
    PriceHistory setting request (relayStart setting request first)
      (relayStart setting request first) where
  settled := ⟨by simp [relayStart], by simp [relayStart],
    fun _ => by simp [relayStart, WasFree], by simp [relayStart]⟩
  priced _ :=
    { token := hauto
      ratio := by
        rfl
      snapshot := rfl
      origin := ⟨rfl, rfl⟩
      group := fun _ => hgroup }
  seen _ h := absurd h (lt_irrefl 0)

end

/-! ### The price of the last attempt -/

section

variable {setting : RelaySetting} {request : RelayRequest} {view : ChannelView}
  {ctx : SelectContext} {choice : FirstChoice} {first : Channel × String × SelectContext}

section

variable (h : Settled setting request (relayStart setting request first) attempts)

include h

lemma settlementRatio_eq_ratioIn_iff {a : Attempt} (ha : attempts.getLast? = some a) :
    a.settlementRatio = ratioIn setting request a.group ↔
      PriceFollows setting request attempts a := by
  have hratio := h.last a ha
  by_cases hmode : request.billingMode = .tieredExpr
  · obtain ⟨b, hb⟩ : ∃ b, attempts.head? = some b := by
      cases attempts with
      | nil => cases ha
      | cons b attempts => exact ⟨b, rfl⟩
    have hfirst : ratioIn setting request b.usingGroup =
        (relayStart setting request first).groupRatioInfo.groupRatio := by
      rw [(h.head b hb).1]
      rfl
    have hsnapshot : (relayStart setting request first).snapshotRatio =
        some (relayStart setting request first).groupRatioInfo.groupRatio := by
      simp [relayStart, hmode]
    rw [hsnapshot, ← hfirst] at hratio
    simp [PriceFollows, hmode, hb, hratio]
  · have hsnapshot : (relayStart setting request first).snapshotRatio = none := by
      simp [relayStart, hmode]
    rw [hsnapshot, Option.getD_none, carriedRatio] at hratio
    rw [PriceFollows]
    split_ifs at hratio ⊢
    · rw [hratio, eq_comm]
    · rw [hratio]

/-- Where all groups have names of their own, the groups that served decide. -/
lemma priceFollows_iff_groupsKeepPrice {a : Attempt} (ha : attempts.getLast? = some a)
    (hgroup : Named first.2.1 → (relayStart setting request first).usingGroup = first.2.1)
    (hnamed : ∀ b ∈ attempts, Named b.group) :
    PriceFollows setting request attempts a ↔ GroupsKeepPrice setting request attempts a := by
  rw [PriceFollows, GroupsKeepPrice]
  split_ifs with hmode hfree
  · refine forall_congr' fun b => imp_congr_right fun hb => ?_
    obtain ⟨husing, hfirst⟩ := h.head b hb
    have hname := hnamed b (List.mem_of_mem_head? hb)
    rw [hfirst] at hname
    rw [husing, hgroup hname, hfirst]
    rfl
  · exact ⟨fun hzero _ => hzero, fun hkeep => hkeep ((h.free hnamed).mp hfree)⟩
  · have hlast : a.usingGroup = a.group :=
      h.group a ha hfree (hnamed a (List.mem_of_getLast? ha))
    rw [hlast]
    exact iff_of_true rfl fun hzero => absurd ((h.free hnamed).mpr hzero) hfree

end

/-- In a request with automatic selection, the last attempt is settled by the ratio of its group
under the condition `PriceFollows` only. The channel of another format that a group called `auto`
has is priced by the automatic group that was selected before it. Without such groups, this means
that in tiered billing the first group has the same ratio, and otherwise that no attempt was made in
a group with the ratio 0, unless the last group has the ratio 0 as well. -/
theorem settlementRatio_follows_iff (hauto : request.tokenGroup = "auto")
    (hctx : ctx.autoGroup = none) (hfirst : distribute request view ctx choice = some first)
    (es : List RelayEvent) (a : Attempt)
    (ha : (run (relayStep setting request)
      (relayStart setting request first) es).attempts.getLast? = some a) :
    (a.settlementRatio = ratioIn setting request a.group ↔ PriceFollows setting request
        (run (relayStep setting request) (relayStart setting request first) es).attempts a) ∧
      ((∀ b ∈ (run (relayStep setting request) (relayStart setting request first) es).attempts,
          b.group ≠ "" ∧ b.group ≠ "auto") →
        (a.settlementRatio = ratioIn setting request a.group ↔ GroupsKeepPrice setting request
          (run (relayStep setting request) (relayStart setting request first) es).attempts a)) := by
  have hgroup := usingGroup_relayStart setting hauto hctx hfirst
  have hrun := run_invariant (fun s e hs => hs.step e) (priceHistory_relayStart hauto hgroup) es
  have hfollows := settlementRatio_eq_ratioIn_iff hrun.settled ha
  refine ⟨hfollows, fun hnamed => hfollows.trans ?_⟩
  exact priceFollows_iff_groupsKeepPrice hrun.settled ha hgroup hnamed

end

/-! ### A request that goes on in a second group -/

def twoGroups : SelectContext where
  retryTimes := 1
  autoGroups := ["default", "vip"]
  usableGroups := ["default", "vip"]
  crossGroupRetry := true

/-- One channel in each group. -/
def defaultAndVip : ChannelView where
  channels :=
    { rows := [defaultChannel, { id := 2, models := "m", group := "vip" }]
      next := 3
      nodup := by decide
      fresh := by decide }

def groupRatios (default vip : ℚ) : RelaySetting where
  shouldRetryByStatusCode _ := true
  ratios :=
    { groupRatio := fun group => if group = "vip" then some vip else some default
      groupGroupRatio := fun _ _ => none }

/-- The first attempt fails in the group `default`, the second one succeeds in the group `vip`. -/
def failsOver (setting : RelaySetting) (request : RelayRequest)
    (first : Channel × String × SelectContext) : List Attempt :=
  (run (relayStep setting request) (relayStart setting request first)
    [.internalError defaultAndVip, { view := defaultAndVip }]).attempts

/-- The first channel of the request. -/
lemma exists_distribute_autoRequest :
    (distribute autoRequest defaultAndVip twoGroups (.drawn 0)).isSome := by
  decide +kernel

lemma exists_getLast_failsOver :
    (failsOver (groupRatios 1 2) autoRequest
      ((distribute autoRequest defaultAndVip twoGroups (.drawn 0)).get
        exists_distribute_autoRequest)).getLast?.isSome := by
  decide +kernel

/-- With the ratios 1 and 2 the request is settled by the ratio 2. -/
theorem settlementRatio_follows_failsOver :
    ∃ first a, distribute autoRequest defaultAndVip twoGroups (.drawn 0) = some first ∧
      (failsOver (groupRatios 1 2) autoRequest first).getLast? = some a ∧ a.group = "vip" ∧
      a.settlementRatio = ratioIn (groupRatios 1 2) autoRequest a.group := by
  have hfirst := (Option.some_get exists_distribute_autoRequest).symm
  have hlast := (Option.some_get exists_getLast_failsOver).symm
  refine ⟨_, _, hfirst, hlast, by decide +kernel, ?_⟩
  have hiff := settlementRatio_follows_iff rfl rfl hfirst _ _ hlast
  refine (hiff.2 (by decide +kernel)).mpr ?_
  rw [GroupsKeepPrice, if_neg (by decide)]
  exact fun hzero => absurd hzero (by decide +kernel)

/-- After a group with the ratio 0 the ratio stays 0, and tiered billing keeps the ratio of the
first group. -/
theorem not_settlementRatio_follows :
    ∃ first, distribute autoRequest defaultAndVip twoGroups (.drawn 0) = some first ∧
      ((failsOver (groupRatios 0 2) autoRequest first).map fun a =>
          (a.group, a.settlementRatio, ratioIn (groupRatios 0 2) autoRequest a.group)) =
        [("default", 0, 0), ("vip", 0, 2)] ∧
      ((failsOver (groupRatios 1 2) { autoRequest with billingMode := .tieredExpr } first).map
          fun a => (a.group, a.settlementRatio, ratioIn (groupRatios 1 2) autoRequest a.group)) =
        [("default", 1, 1), ("vip", 1, 2)] :=
  ⟨_, (Option.some_get exists_distribute_autoRequest).symm, by decide +kernel, by decide +kernel⟩

end XinghaiApi
