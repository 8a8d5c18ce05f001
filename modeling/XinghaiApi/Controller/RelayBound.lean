import Mathlib.Tactic.Ring
import XinghaiApi.Controller.Relay

/-!
# How often a request is attempted

The retry counter is set back when an automatic group is left, so the loop is not bounded by it
alone. What bounds it is a budget: the groups that are left, and the turns that are left in the
current one.
-/

namespace XinghaiApi

open Machine Selection Text List

/-! ### Moves of the loop -/

/-- The number of automatic groups that a request can walk over. -/
def autoGroupCount (tokenGroup : String) (ctx : SelectContext) : ℕ :=
  if tokenGroup = "auto" then ctx.getUserAutoGroup.length else 0

/-- The automatic groups from the index of the context on. -/
def groupsLeft (param : RetryParam) (ctx : SelectContext) : ℕ :=
  autoGroupCount param.tokenGroup ctx - ctx.autoGroupIndex.getD 0

/-- How one attempt moves the groups that are left and the retry counter. A request may be served
`beyond` the automatic groups: in a fixed group, or in a group that is called `auto`. -/
inductive Move (beyond : Prop) : ℕ → ℕ → ℕ → ℕ → Prop
  | first (m : ℕ) : Move beyond m 0 m 1
  | stay {m r : ℕ} (hm : 0 < m) (hr : 0 < r) : Move beyond m r m (r + 1)
  | next {m m' r : ℕ} (hm : m' < m) (hr : 0 < r) : Move beyond m r m' 1
  | leave {m m' r : ℕ} (hm : m' < m) (hr : 0 < r) : Move beyond m r m' 0
  | same {r : ℕ} (h : beyond) (hr : 0 < r) : Move beyond 0 r 0 (r + 1)
  | behind {m r : ℕ} (h : beyond) (hm : 0 < m) (hr : 0 < r) : Move beyond m r 0 1

/-- A request can be served beyond the automatic groups. -/
def Beyond (view : ChannelView) (param : RetryParam) : Prop :=
  param.tokenGroup ≠ "auto" ∨ ∃ c ∈ view.channels, "auto" ∈ split ',' c.group

lemma mem_group_of_mem_selectable {view : ChannelView} {param : RetryParam} {group : String}
    {c : Channel} (h : c ∈ selectable view param group) :
    c ∈ view.channels ∧ group ∈ split ',' c.group := by
  have hpath := (mem_candidates.mp h).1
  rw [pathChannels] at hpath
  split_ifs at hpath
  · exact ⟨(mem_servable.mp hpath).1.1, (mem_servable.mp hpath).1.2.2.1⟩
  · exact ⟨(mem_servable.mp hpath).1.1, (mem_servable.mp hpath).1.2.2.1⟩

section

variable {view : ChannelView} {rand : ℕ} {param : RetryParam} {ctx : SelectContext}
  {selected : Selected}

/-- What a selection does to the counter: one that finds a channel makes a move, and one that does
not has changed nothing or set the counter back. -/
structure Counts (view : ChannelView) (param : RetryParam) (ctx : SelectContext)
    (selected : Selected) : Prop where
  retryTimes : selected.ctx.retryTimes = ctx.retryTimes
  tokenGroup : selected.param.tokenGroup = param.tokenGroup
  found : selected.channel ≠ none →
    Move (Beyond view param) (groupsLeft param ctx) param.retry
      (groupsLeft selected.param selected.ctx) selected.param.increaseRetry.retry
  missed : selected.channel = none → 0 < selected.param.retry →
    selected.param = param ∧ selected.ctx = ctx
  ready : selected.param.increaseRetry.resetNextTry = false

lemma increaseRetry_of_false (h : param.resetNextTry = false) :
    param.increaseRetry = { param with retry := param.retry + 1 } := by
  simp [RetryParam.increaseRetry, h]

/-- The groups that are left when a walk has come to offset `k`. -/
lemma groupsLeft_walk (hauto : param.tokenGroup = "auto") {k : ℕ} (autoGroup : Option String) :
    groupsLeft param { ctx with
        autoGroup := autoGroup, autoGroupIndex := some (ctx.autoGroupIndex.getD 0 + k) } =
      groupsLeft param ctx - k := by
  simp only [groupsLeft, autoGroupCount, hauto, if_true, Option.getD_some,
    SelectContext.getUserAutoGroup]
  omega

lemma length_drop_eq_groupsLeft (hauto : param.tokenGroup = "auto") :
    (ctx.getUserAutoGroup.drop (ctx.autoGroupIndex.getD 0)).length = groupsLeft param ctx := by
  simp [groupsLeft, autoGroupCount, hauto]

lemma counts_fixed (hfixed : param.tokenGroup ≠ "auto") (hreset : param.resetNextTry = false)
    (hretry : 0 < param.retry) (channel : Option Channel) :
    Counts view param ctx ⟨channel, param.tokenGroup, param, ctx⟩ where
  retryTimes := rfl
  tokenGroup := rfl
  found _ := by
    have hzero : groupsLeft param ctx = 0 := by simp [groupsLeft, autoGroupCount, hfixed]
    rw [increaseRetry_of_false hreset, hzero]
    exact .same (Or.inl hfixed) hretry
  missed _ _ := ⟨rfl, rfl⟩
  ready := by rw [increaseRetry_of_false hreset]; exact hreset

/-- A walk that finds a channel stays in the group, goes on to a later one or leaves it. -/
lemma counts_of_walk (hauto : param.tokenGroup = "auto") (hreset : param.resetNextTry = false)
    (hretry : 0 < param.retry)
    (hwalk : Walk view (ctx.autoGroupIndex.getD 0) param ctx
      (ctx.getUserAutoGroup.drop (ctx.autoGroupIndex.getD 0)) selected)
    (hfound : selected.channel ≠ none) : Counts view param ctx selected := by
  cases hwalk with
  | none => exact absurd rfl hfound
  | exhausted => exact absurd rfl hfound
  | @stay k group channel hgroup =>
    have hk : k < groupsLeft param ctx :=
      length_drop_eq_groupsLeft hauto ▸ (List.getElem?_eq_some_iff.mp hgroup).1
    refine ⟨rfl, rfl, fun _ => ?_, fun h => absurd h hfound, ?_⟩
    · show Move _ (groupsLeft param ctx) param.retry (groupsLeft param _) _
      rw [groupsLeft_walk hauto, increaseRetry_of_false (by exact hreset)]
      cases k with
      | zero => exact .stay hk hretry
      | succ k => exact .next (by omega) hretry
    · rw [increaseRetry_of_false (by exact hreset)]
      exact hreset
  | @leave k group channel hgroup =>
    have hk : k < groupsLeft param ctx :=
      length_drop_eq_groupsLeft hauto ▸ (List.getElem?_eq_some_iff.mp hgroup).1
    refine ⟨rfl, rfl, fun _ => ?_, fun h => absurd h hfound, rfl⟩
    show Move _ (groupsLeft param ctx) param.retry (groupsLeft param _) 0
    rw [Nat.add_assoc, groupsLeft_walk hauto]
    exact .leave (by omega) hretry

/-- Behind a walk that finds no channel, only a group that is called `auto` has one. -/
lemma counts_behind_walk (hauto : param.tokenGroup = "auto") (hreset : param.resetNextTry = false)
    (hretry : 0 < param.retry)
    (hwalk : Walk view (ctx.autoGroupIndex.getD 0) param ctx
      (ctx.getUserAutoGroup.drop (ctx.autoGroupIndex.getD 0)) selected)
    (hmissed : selected.channel = none) (channel : Option Channel)
    (hbeyond : channel ≠ none → Beyond view param) :
    Counts view param ctx { selected with channel := channel } := by
  cases hwalk with
  | stay => cases hmissed
  | leave => cases hmissed
  | none hgroups =>
    have hzero : groupsLeft param ctx = 0 := by
      rw [← length_drop_eq_groupsLeft hauto, hgroups, length_nil]
    refine ⟨rfl, rfl, fun h => ?_, fun _ _ => ⟨rfl, rfl⟩, ?_⟩
    · rw [increaseRetry_of_false hreset, hzero]
      exact .same (hbeyond h) hretry
    · rw [increaseRetry_of_false hreset]
      exact hreset
  | exhausted hgroups =>
    have hpos : 0 < groupsLeft param ctx := by
      rw [← length_drop_eq_groupsLeft hauto]
      exact length_pos_of_ne_nil hgroups
    refine ⟨rfl, rfl, fun h => ?_, fun _ h => absurd h (lt_irrefl 0), ?_⟩
    · show Move _ (groupsLeft param ctx) param.retry (groupsLeft param _) _
      rw [length_drop_eq_groupsLeft hauto, groupsLeft_walk hauto,
        increaseRetry_of_false (by exact hreset), Nat.sub_self]
      exact .behind (hbeyond h) hpos hretry
    · rw [increaseRetry_of_false (by exact hreset)]
      exact hreset

lemma counts_of_select (hreset : param.resetNextTry = false) (hretry : 0 < param.retry)
    (h : cacheGetRandomSatisfiedChannel (satisfiedChannel view rand) param ctx = .ok selected) :
    Counts view param ctx selected := by
  by_cases hauto : param.tokenGroup = "auto"
  · obtain ⟨walked, hwalk, ⟨hfound, rfl⟩ | ⟨hmissed, channel, rfl, hchannel⟩⟩ :=
      walk_of_select hauto h
    · exact counts_of_walk hauto hreset hretry hwalk hfound
    · refine counts_behind_walk hauto hreset hretry hwalk hmissed channel ?_
      intro hne
      obtain ⟨c, hc⟩ := Option.ne_none_iff_exists'.mp hne
      have hgroup : walked.selectGroup = "auto" := by
        cases hwalk with
        | none => exact hauto
        | exhausted => exact hauto
        | stay => cases hmissed
        | leave => cases hmissed
      have hmem := mem_group_of_mem_selectable (hchannel c hc).2
      rw [hgroup] at hmem
      exact Or.inr ⟨c, hmem⟩
  · obtain ⟨channel, heq, -⟩ :=
      cacheGetSatisfied_fixed view rand ctx hauto
    obtain rfl : ⟨channel, param.tokenGroup, param, ctx⟩ = selected := by simpa [heq] using h
    exact counts_fixed hauto hreset hretry channel

/-- Allowing the channel that failed last does not change the counter. -/
lemma counts_again {again : Selected} (hreset : param.resetNextTry = false)
    (hcounts : Counts view param ctx selected)
    (h : getChannelAgain (satisfiedChannel view rand) selected = .ok again)
    (hfound : again.channel ≠ none) :
    Counts view param ctx again := by
  rcases getChannelAgain_eq_ok h with rfl | ⟨hnone, hretry, hselect⟩
  · exact hcounts
  · obtain ⟨hparam, hctx⟩ := hcounts.missed hnone hretry
    rw [hparam] at hretry
    rw [hparam, hctx] at hselect
    have hagain := counts_of_select (by exact hreset) (by exact hretry) hselect
    exact ⟨hagain.retryTimes, hagain.tokenGroup, hagain.found, fun hn => absurd hn hfound,
      hagain.ready⟩

end

/-! ### Budgets -/

section

variable {setting : RelaySetting} {request : RelayRequest} {s t : RelayState} {e : RelayEvent}
  {n m r m' r' : ℕ}

/-- An attempt that fails makes a move. -/
lemma move_of_turn (hreset : s.param.resetNextTry = false) (h : Turn setting request s e t) :
    Move (Beyond e.view s.param) (groupsLeft s.param s.ctx) s.param.retry
        (groupsLeft t.nextParam t.ctx) t.nextParam.retry ∧
      t.nextParam.resetNextTry = false ∧ t.nextParam.tokenGroup = s.param.tokenGroup ∧
      t.ctx.retryTimes = s.ctx.retryTimes := by
  obtain ⟨htoken, hnext, hready⟩ := nextParam_eq t
  have hleft : groupsLeft t.nextParam t.ctx = groupsLeft t.param t.ctx := by
    rw [groupsLeft, groupsLeft, htoken]
  rw [hleft, hnext, hready, htoken]
  have hturn := h.channel
  rw [turnChannel] at hturn
  split_ifs at hturn with hretry
  · obtain ⟨selected, again, channel, hselect, hagain, hchannel, rfl⟩ := getChannel_eq_ok hturn
    have hcounts := counts_again hreset (counts_of_select hreset hretry hselect) hagain
      (by simp [hchannel])
    exact ⟨hcounts.found (by simp [hchannel]), hcounts.ready, hcounts.tokenGroup,
      hcounts.retryTimes⟩
  · cases hturn
    have hzero : s.param.retry = 0 := by omega
    rw [increaseRetry_of_false hreset, hzero]
    exact ⟨.first _, hreset, rfl, rfl⟩

/-- What is left of `n` turns a group, with one more group beyond the automatic ones. -/
def budget (n m r : ℕ) : ℕ := m * n + (n - r)

/-- What is left of `n` turns a group, if the automatic groups are all there is. -/
def autoBudget (n m r : ℕ) : ℕ :=
  if r = 0 then m * n + 1 else if m = 0 then 0 else (m - 1) * n + (n + 1 - r)

lemma budget_move {beyond : Prop} (hr : r < n) (h : Move beyond m r m' r') :
    budget n m' r' + 1 ≤ budget n m r := by
  -- leaving a group gives up all its turns
  have hgroup : ∀ m' < m, m' * n + n ≤ m * n := fun m' hm =>
    (Nat.succ_mul m' n).symm.le.trans (Nat.mul_le_mul_right n hm)
  simp only [budget]
  cases h with
  | first => omega
  | stay => omega
  | next hm =>
    have := hgroup m' hm
    omega
  | leave hm =>
    have := hgroup m' hm
    omega
  | same => omega
  | behind _ hm =>
    have := hgroup 0 hm
    omega

lemma autoBudget_move {beyond : Prop} (hbeyond : ¬ beyond) (hr : r < n)
    (h : Move beyond m r m' r') : autoBudget n m' r' + 1 ≤ autoBudget n m r := by
  have hgroup : ∀ m' < m, m' * n ≤ (m - 1) * n := fun m' hm =>
    Nat.mul_le_mul_right n (Nat.le_sub_one_of_lt hm)
  have hlast : ∀ k, 0 < k → (k - 1) * n + n = k * n := fun k hk => by
    rw [← Nat.succ_mul, Nat.succ_eq_add_one, Nat.sub_add_cancel hk]
  cases h with
  | first =>
    rcases Nat.eq_zero_or_pos m with rfl | hm
    · simp [autoBudget]
    · have := hlast m hm
      simp only [autoBudget, if_true, if_neg one_ne_zero, if_neg hm.ne']
      omega
  | stay hm hr0 =>
    simp only [autoBudget, if_neg hm.ne', if_neg hr0.ne', if_neg (Nat.succ_ne_zero r)]
    omega
  | next hm hr0 =>
    have := hgroup m' hm
    simp only [autoBudget, if_neg (Nat.ne_of_gt (Nat.zero_lt_of_lt hm)), if_neg hr0.ne',
      if_neg one_ne_zero]
    split_ifs with hzero
    · omega
    · have := hlast m' (Nat.pos_of_ne_zero hzero)
      omega
  | leave hm hr0 =>
    have := hgroup m' hm
    simp only [autoBudget, if_neg (Nat.ne_of_gt (Nat.zero_lt_of_lt hm)), if_neg hr0.ne', if_true]
    omega
  | same h => exact absurd h hbeyond
  | behind h => exact absurd h hbeyond

/-- The attempts that were made and those that are left are at most `bound`. -/
structure InBudget (left : ℕ → ℕ → ℕ) (tokenGroup : String) (retryTimes : ℤ) (bound : ℕ)
    (s : RelayState) : Prop where
  total : s.attempts.length +
    (if s.finished then 0 else left (groupsLeft s.param s.ctx) s.param.retry) ≤ bound
  ready : s.finished = false → s.param.resetNextTry = false
  token : s.finished = false → s.param.tokenGroup = tokenGroup
  times : s.finished = false → s.ctx.retryTimes = retryTimes

/-- What goes down with every move bounds the attempts. -/
lemma InBudget.step {left : ℕ → ℕ → ℕ} {tokenGroup : String} {retryTimes : ℤ} {bound : ℕ}
    (hleft : ∀ m r m' r' : ℕ, (r : ℤ) ≤ retryTimes →
      Move (tokenGroup ≠ "auto" ∨ ∃ c ∈ e.view.channels, "auto" ∈ split ',' c.group) m r m' r' →
        left m' r' + 1 ≤ left m r)
    (hs : InBudget left tokenGroup retryTimes bound s) :
    InBudget left tokenGroup retryTimes bound (relayStep setting request s e) := by
  have hspend : ∀ t, Turn setting request s e t →
      s.attempts.length + 1 + left (groupsLeft t.nextParam t.ctx) t.nextParam.retry ≤ bound ∧
        t.nextParam.resetNextTry = false ∧ t.nextParam.tokenGroup = tokenGroup ∧
        t.ctx.retryTimes = retryTimes := by
    intro t ht
    obtain ⟨hmove, hready, htoken, htimes⟩ := move_of_turn (hs.ready ht.running) ht
    have htotal := hs.total
    simp only [ht.running, Bool.false_eq_true, if_false] at htotal
    rw [Beyond, hs.token ht.running] at hmove
    have hwithin := hs.times ht.running ▸ ht.within
    have hspent := hleft _ _ _ _ hwithin hmove
    exact ⟨by omega, hready, htoken.trans (hs.token ht.running), htimes.trans (hs.times ht.running)⟩
  apply relayStep_cases
  case done => exact fun _ => hs
  case stop =>
    intro t _ _ hattempts hfinished
    refine ⟨?_, by simp [hfinished], by simp [hfinished], by simp [hfinished]⟩
    have htotal := hs.total
    simp only [hattempts, hfinished, if_true]
    omega
  case last =>
    intro t ht
    refine ⟨?_, by simp, by simp, by simp⟩
    obtain ⟨htotal, -⟩ := hspend t ht
    simp only [length_append, length_singleton, if_true]
    omega
  case again =>
    intro t ht
    obtain ⟨htotal, hready, htoken, htimes⟩ := hspend t ht
    refine ⟨?_, fun _ => hready, fun _ => htoken, fun _ => htimes⟩
    have hrunning : t.finished = false := (attempts_turnChannel ht.channel).2.trans ht.running
    simp only [length_append, length_singleton, hrunning, Bool.false_eq_true, if_false]
    exact htotal

/-- A turn ends the loop or makes an attempt. -/
lemma finished_or_attempt (s : RelayState) (e : RelayEvent) :
    (relayStep setting request s e).finished = true ∨
      (relayStep setting request s e).attempts.length = s.attempts.length + 1 := by
  apply relayStep_cases
    (P := fun t => t.finished = true ∨ t.attempts.length = s.attempts.length + 1)
  case done => exact fun h => Or.inl h
  case stop => exact fun t _ _ _ hfinished => Or.inl hfinished
  case last => exact fun t _ => Or.inl rfl
  case again => exact fun t _ => Or.inr (by simp)

variable (setting request) in
/-- The loop has ended, or every event so far was an attempt. -/
lemma finished_or_attempts (s : RelayState) (es : List RelayEvent) :
    (run (relayStep setting request) s es).finished = true ∨
      (run (relayStep setting request) s es).attempts.length = s.attempts.length + es.length := by
  induction es using List.reverseRecOn with
  | nil => exact Or.inr rfl
  | append_singleton es e ih =>
    rw [run_append, run_cons, run_nil]
    rcases ih with hfinished | hlength
    · left
      rw [relayStep, if_pos hfinished]
      exact hfinished
    · apply (finished_or_attempt _ e).imp_right
      intro h
      rw [h, hlength, length_append, length_singleton, Nat.add_assoc]

end

/-! ### The bound -/

section

variable (setting : RelaySetting) (request : RelayRequest)
  (first : Channel × String × SelectContext) (es : List RelayEvent)

/-- The turns that a counter from 0 to `RetryTimes` allows. -/
def turns (ctx : SelectContext) : ℕ := (ctx.retryTimes + 1).toNat

/-- Every budget that goes down with the moves of a run bounds its attempts. -/
lemma attempts_le_of_budget (left : ℕ → ℕ → ℕ) (es : List RelayEvent)
    (hleft : ∀ e ∈ es, ∀ m r m' r' : ℕ, (r : ℤ) ≤ first.2.2.retryTimes →
      Move (request.tokenGroup ≠ "auto" ∨ ∃ c ∈ e.view.channels, "auto" ∈ split ',' c.group)
        m r m' r' → left m' r' + 1 ≤ left m r) :
    (run (relayStep setting request) (relayStart setting request first) es).attempts.length ≤
      left (autoGroupCount request.tokenGroup first.2.2 - first.2.2.autoGroupIndex.getD 0) 0 := by
  have hstart : InBudget left request.tokenGroup first.2.2.retryTimes
      (left (autoGroupCount request.tokenGroup first.2.2 - first.2.2.autoGroupIndex.getD 0) 0)
      (relayStart setting request first) := by
    refine ⟨?_, fun _ => rfl, fun _ => rfl, fun _ => rfl⟩
    simp [relayStart, groupsLeft]
  have halong : Along (relayStep setting request) (fun _ e => e ∈ es)
      (relayStart setting request first) es := along_of_forall fun _ he _ => he
  have hrun := halong.invariant (fun s e hs he => InBudget.step (hleft e he) hs) hstart
  exact (Nat.le_add_right _ _).trans hrun.total

lemma attempts_le_budget :
    (run (relayStep setting request) (relayStart setting request first) es).attempts.length ≤
      (autoGroupCount request.tokenGroup first.2.2 + 1) * turns first.2.2 := by
  have hbudget := attempts_le_of_budget setting request first (budget (turns first.2.2)) es
    fun e _ m r m' r' hr hmove => budget_move (by rw [turns]; omega) hmove
  refine hbudget.trans ?_
  rw [budget, Nat.succ_mul]
  exact Nat.add_le_add_right (Nat.mul_le_mul_right _ (Nat.sub_le _ _)) _

/-- In the automatic groups alone, the last attempt in a group is made twice. -/
lemma attempts_le_autoBudget (hgroup : request.tokenGroup = "auto")
    (hauto : ∀ e ∈ es, ∀ c ∈ e.view.channels, "auto" ∉ split ',' c.group) :
    (run (relayStep setting request) (relayStart setting request first) es).attempts.length ≤
      autoGroupCount request.tokenGroup first.2.2 * turns first.2.2 + 1 := by
  have hbudget := attempts_le_of_budget setting request first (autoBudget (turns first.2.2)) es
    fun e he m r m' r' hr hmove => autoBudget_move
      (by rintro (hfixed | ⟨c, hc, hlist⟩); exacts [hfixed hgroup, hauto e he c hc hlist])
      (by rw [turns]; omega) hmove
  refine hbudget.trans ?_
  exact Nat.add_le_add_right (Nat.mul_le_mul_right _ (Nat.sub_le _ _)) _

/-- The loop ends, after at most `RetryTimes + 1` attempts for each automatic group and for one
group more. This group more is the one that is called `auto`; where no channel lists it, there are
at most `RetryTimes + 2` attempts for each automatic group. -/
theorem relay_attempts_bounded (es : List RelayEvent) :
    (run (relayStep setting request) (relayStart setting request first) es).attempts.length ≤
        (autoGroupCount request.tokenGroup first.2.2 + 1) * (first.2.2.retryTimes + 1).toNat ∧
      ((autoGroupCount request.tokenGroup first.2.2 + 1) * (first.2.2.retryTimes + 1).toNat <
          es.length →
        (run (relayStep setting request) (relayStart setting request first) es).finished = true) ∧
      ((∀ e ∈ es, ∀ c ∈ e.view.channels, "auto" ∉ split ',' c.group) →
        (run (relayStep setting request) (relayStart setting request first) es).attempts.length ≤
          max (autoGroupCount request.tokenGroup first.2.2) 1 *
            (first.2.2.retryTimes + 2).toNat) := by
  have hbudget := attempts_le_budget setting request first es
  rw [turns] at hbudget
  refine ⟨hbudget, ?_, ?_⟩
  · intro hlong
    rcases finished_or_attempts setting request (relayStart setting request first) es with h | h
    · exact h
    · omega
  · intro hauto
    by_cases hgroup : request.tokenGroup = "auto"
    · have hwalks := attempts_le_autoBudget setting request first es hgroup hauto
      rcases Nat.eq_zero_or_pos (first.2.2.retryTimes + 1).toNat with hzero | hpos
      · rw [hzero] at hbudget
        exact hbudget.trans (Nat.zero_le _)
      · have htwo : (first.2.2.retryTimes + 2).toNat = (first.2.2.retryTimes + 1).toNat + 1 := by
          omega
        rw [htwo]
        refine hwalks.trans (Nat.add_le_add (Nat.mul_le_mul_right _ (le_max_left _ _)) ?_)
        exact le_max_right _ _
    · have hcount : autoGroupCount request.tokenGroup first.2.2 = 0 := by
        simp [autoGroupCount, hgroup]
      rw [hcount, Nat.one_mul] at hbudget
      rw [hcount, Nat.max_eq_right zero_le_one]
      omega

/-! ### Requests with one automatic group and one retry -/

def oneRetry : SelectContext where
  retryTimes := 1
  autoGroups := ["default"]
  usableGroups := ["default"]
  crossGroupRetry := true

def oneChannel : ChannelView where
  channels :=
    { rows := [defaultChannel]
      next := 2
      nodup := by decide
      fresh := by decide }

/-- With one channel the loop has ended after five turns, of which at most three are attempts. -/
theorem relay_attempts_bounded_one_channel :
    (run (relayStep retryAll autoRequest)
        (relayStart retryAll autoRequest (defaultChannel, "default", oneRetry))
        (List.replicate 5 (.internalError oneChannel))).finished = true ∧
      (run (relayStep retryAll autoRequest)
        (relayStart retryAll autoRequest (defaultChannel, "default", oneRetry))
        (List.replicate 5 (.internalError oneChannel))).attempts.length ≤ 3 := by
  have hbounded := relay_attempts_bounded retryAll autoRequest
    (defaultChannel, "default", oneRetry) (List.replicate 5 (.internalError oneChannel))
  refine ⟨hbounded.2.1 (by decide +kernel), hbounded.2.2 ?_⟩
  intro e he c hc
  rw [eq_of_mem_replicate he] at hc
  have hc : c = defaultChannel := mem_singleton.mp hc
  subst hc
  decide +kernel

/-- Two channels of an automatic group, and a channel of another format in a group called `auto`. -/
def channelsWithAuto : ChannelView where
  channels :=
    { rows := [{ id := 1, models := "m", group := "default" },
        { id := 2, models := "m", group := "default" },
        { id := 3, type := 14, models := "m", group := "auto" }]
      next := 4
      nodup := by decide
      fresh := by decide }
  apiType := fun t => if t = 14 then .anthropic else .openAI

/-- Three attempts are allowed for the only automatic group, and four are made. The channel
that is tried twice is the one with which the group was left. -/
theorem relay_attempts_beyond_auto :
    (distribute autoRequest channelsWithAuto oneRetry (.drawn 0)).map
        (fun first =>
          (max (autoGroupCount autoRequest.tokenGroup first.2.2) 1 *
              (first.2.2.retryTimes + 2).toNat,
            (run (relayStep retryAll autoRequest)
              (relayStart retryAll autoRequest first)
              (List.replicate 4 (.internalError channelsWithAuto))).attempts.map (·.channel.id))) =
      some (3, [1, 2, 2, 3]) := by
  decide +kernel

end

end XinghaiApi
