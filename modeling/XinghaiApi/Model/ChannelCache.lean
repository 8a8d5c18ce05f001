import Mathlib.Tactic.Ring
import XinghaiApi.Model.Channel

/-!
# The channel cache

`InitChannelCache` keeps, for each group and model, the ids of the enabled channels that list them.
A selection from the cache filters these ids first and takes the level of what is left, where the
database takes the level of all rows and filters then.
-/

namespace XinghaiApi

open Selection Text Channel Table List

/-! ### Model names -/

def handleThinkingBudgetModel (name family wildcard : String) : String :=
  if hasPrefix name family ∧ contains name "-thinking-" then wildcard else name

/-- The name under which the variants of a model are listed together. -/
def formatMatchingModelName (name : String) : String :=
  let name :=
    if hasPrefix name "gemini-2.5-flash-lite" then
      handleThinkingBudgetModel name "gemini-2.5-flash-lite" "gemini-2.5-flash-lite-thinking-*"
    else if hasPrefix name "gemini-2.5-flash" then
      handleThinkingBudgetModel name "gemini-2.5-flash" "gemini-2.5-flash-thinking-*"
    else if hasPrefix name "gemini-2.5-pro" then
      handleThinkingBudgetModel name "gemini-2.5-pro" "gemini-2.5-pro-thinking-*"
    else name
  let name := if hasPrefix name "gpt-4-gizmo" then "gpt-4-gizmo-*" else name
  if hasPrefix name "gpt-4o-gizmo" then "gpt-4o-gizmo-*" else name

/-! ### The cache -/

structure ChannelCache where
  group2model2channels : String → String → List ℤ
  channelsIDM : ℤ → Option Channel
  channel2advancedCustomConfig : ℤ → Option AdvancedCustomConfig

open ChannelCache

variable {c : Channel} {group model : String} {id : ℤ}

/-- The entries of a channel, in the order in which they are appended. A group or a model that is
listed twice gives an entry each time. -/
def Channel.cacheEntries (c : Channel) : List (String × String) :=
  if c.status = .enabled then
    (split ',' c.group).flatMap fun group =>
      ((split ',' c.models).filter (· ∉ c.getDisabledModelSet)).map fun model => (group, model)
  else []

lemma Channel.mem_cacheEntries : (group, model) ∈ c.cacheEntries ↔ c.Lists group model := by
  rw [cacheEntries, Lists]
  split_ifs with h
  · simp only [mem_flatMap, mem_map, mem_filter, Prod.mk.injEq, decide_eq_true_eq, h, true_and]
    constructor
    · rintro ⟨_, hgroup, _, ⟨hmodel, hon⟩, rfl, rfl⟩
      exact ⟨hgroup, hmodel, hon⟩
    · rintro ⟨hgroup, hmodel, hon⟩
      exact ⟨group, hgroup, model, ⟨hmodel, hon⟩, rfl, rfl⟩
  · simp [h]

/-- The ids of a group and a model, the channels with the highest priority first. -/
def cachedIds (channels : Table Channel) (group model : String) : List ℤ :=
  let entries := channels.rows.flatMap fun c =>
    (c.cacheEntries.filter (· = (group, model))).map fun _ => c
  (entries.insertionSort fun c d => c.getPriority ≥ d.getPriority).map Channel.id

def initChannelCache (channels : Table Channel) : ChannelCache where
  group2model2channels := cachedIds channels
  channelsIDM := channels.find
  channel2advancedCustomConfig id :=
    (channels.find id).bind fun c =>
      if c.type = channelTypeAdvancedCustom then c.advancedCustom else none

lemma mem_cachedIds {channels : Table Channel} :
    id ∈ cachedIds channels group model ↔ ∃ c ∈ listed channels group model, c.id = id := by
  simp only [cachedIds, mem_map, mem_insertionSort, mem_flatMap, mem_filter,
    decide_eq_true_eq, mem_listed]
  constructor
  · rintro ⟨_, ⟨c, hc, _, ⟨hentry, rfl⟩, rfl⟩, rfl⟩
    exact ⟨c, ⟨hc, Channel.mem_cacheEntries.mp hentry⟩, rfl⟩
  · rintro ⟨c, ⟨hc, hlists⟩, rfl⟩
    exact ⟨c, ⟨c, hc, _, ⟨Channel.mem_cacheEntries.mpr hlists, rfl⟩, rfl⟩, rfl⟩

/-! ### Drawing a channel -/

variable {target channels : List Channel}

/-- The channels of the level that the retry stands for. -/
def targetChannels (channels : List Channel) (retry : ℕ) : List Channel :=
  channels.filter fun c => levelAt (channels.map getPriority) retry = some c.getPriority

section

variable (target : List Channel)

/-- The factor and the adjustment of the weights. -/
def smoothing : ℕ × ℕ :=
  let sumWeight := (target.map getWeight).sum
  if sumWeight = 0 then (1, 100)
  else if sumWeight / target.length < 10 then (100, 0)
  else (1, 0)

def totalWeight : ℕ :=
  let sumWeight := (target.map getWeight).sum
  (if sumWeight = 0 then target.length * 100 else sumWeight) * (smoothing target).1

def smoothedWeight (c : Channel) : ℕ :=
  c.getWeight * (smoothing target).1 + (smoothing target).2

/-- `rand` is what the generator gives, before it is cut down to the total weight. The weights are
natural numbers here: `intDrawChannel` is the draw in machine integers. -/
def drawChannel (rand : ℕ) : Option Channel :=
  drawUntil (· < 0) (smoothedWeight target) target (rand % totalWeight target : ℕ)

/-- The sum of the weights as an `int`. -/
def intSumWeight : ℤ := Word.wrap64 (target.map getWeight).sum

def intSmoothing : ℕ × ℕ :=
  if intSumWeight target = 0 then (1, 100)
  else if (intSumWeight target).tdiv target.length < 10 then (100, 0)
  else (1, 0)

def intTotalWeight : ℤ :=
  let sumWeight : ℤ :=
    if intSumWeight target = 0 then target.length * 100 else intSumWeight target
  Word.wrap64 (sumWeight * (intSmoothing target).1)

/-- The generator panics unless its bound is positive. -/
def intDrawChannel (rand : ℕ) : Except String Channel :=
  if intTotalWeight target ≤ 0 then .error "invalid argument to Intn"
  else
    let weight := (rand % (intTotalWeight target).toNat : ℕ)
    match drawWord (· < 0) (fun c => c.getWeight * (intSmoothing target).1 +
        (intSmoothing target).2) target weight with
    | some c => .ok c
    | none   => .error "channel not found"

/-- Without a weight, the channels of a level are drawn alike. -/
def Weightless : Prop := ∀ c ∈ target, c.getWeight = 0

end

instance (target : List Channel) : Decidable (Weightless target) :=
  inferInstanceAs (Decidable (∀ c ∈ target, _))

lemma sum_getWeight_eq_zero : (target.map getWeight).sum = 0 ↔ Weightless target := by
  simp [Weightless, sum_eq_zero_iff]

lemma sum_getWeight_mul_add (l : List Channel) (factor adjustment : ℕ) :
    (l.map fun c => c.getWeight * factor + adjustment).sum =
      (l.map getWeight).sum * factor + l.length * adjustment := by
  induction l with
  | nil => simp
  | cons c l ih =>
    simp only [map_cons, sum_cons, ih, length_cons]
    ring

lemma sum_smoothedWeight (target : List Channel) :
    (target.map (smoothedWeight target)).sum = totalWeight target := by
  show (target.map fun c => c.getWeight * (smoothing target).1 + (smoothing target).2).sum = _
  rw [sum_getWeight_mul_add, totalWeight]
  by_cases hzero : (target.map getWeight).sum = 0
  · simp [smoothing, hzero]
  · by_cases hsmall : (target.map getWeight).sum / target.length < 10 <;>
      simp [smoothing, hzero, hsmall]

lemma smoothedWeight_pos : 0 < smoothedWeight target c ↔ 0 < c.getWeight ∨ Weightless target := by
  rw [← sum_getWeight_eq_zero]
  by_cases hzero : (target.map getWeight).sum = 0
  · simp [smoothedWeight, smoothing, hzero]
  · by_cases hsmall : (target.map getWeight).sum / target.length < 10 <;>
      simp [smoothedWeight, smoothing, hzero, hsmall]

/-- A channel without a weight is drawn only where none has one. -/
lemma exists_drawChannel_iff :
    (∃ rand, drawChannel target rand = some c) ↔
      c ∈ target ∧ (0 < c.getWeight ∨ Weightless target) := by
  simp only [drawChannel, ← sum_smoothedWeight, exists_draw_iff, smoothedWeight_pos]

lemma totalWeight_pos (hne : target ≠ []) : 0 < totalWeight target := by
  rw [← sum_smoothedWeight]
  by_cases hzero : Weightless target
  · obtain ⟨c, hc⟩ := exists_mem_of_ne_nil _ hne
    exact sum_weight_pos hc (smoothedWeight_pos.mpr (Or.inr hzero))
  · obtain ⟨c, hc, hw⟩ : ∃ c ∈ target, c.getWeight ≠ 0 := by simpa [Weightless] using hzero
    exact sum_weight_pos hc (smoothedWeight_pos.mpr (Or.inl (Nat.pos_of_ne_zero hw)))

lemma exists_drawChannel (hne : target ≠ []) (rand : ℕ) :
    ∃ c ∈ target, drawChannel target rand = some c := by
  apply exists_drawUntil_of_lt hne
  rw [sum_smoothedWeight]
  exact_mod_cast Nat.mod_lt rand (totalWeight_pos hne)

/-- Where the total weight fits into an `int`, nothing wraps. -/
lemma int_weights_eq (hfits : totalWeight target < 2 ^ 63) :
    intSmoothing target = smoothing target ∧ intTotalWeight target = totalWeight target := by
  have hle : (target.map getWeight).sum ≤ totalWeight target := by
    rw [← sum_smoothedWeight]
    apply sum_le_sum
    intro c _
    rw [smoothedWeight, smoothing]
    split_ifs <;> omega
  have hsum : intSumWeight target = (target.map getWeight).sum :=
    Word.wrap64_eq (by omega) (by exact_mod_cast lt_of_le_of_lt hle hfits)
  have hsmoothing : intSmoothing target = smoothing target := by
    simp only [intSmoothing, smoothing, hsum, Int.natCast_eq_zero, ← Int.ofNat_tdiv,
      Nat.cast_lt_ofNat]
  refine ⟨hsmoothing, ?_⟩
  have hfits' : (totalWeight target : ℤ) < 2 ^ 63 := by exact_mod_cast hfits
  rw [intTotalWeight, hsmoothing, hsum, ← Word.wrap64_eq (by omega) hfits', totalWeight]
  by_cases hzero : (target.map getWeight).sum = 0
  · simp [hzero]
  · have hzero' : ((target.map getWeight).sum : ℤ) ≠ 0 := by exact_mod_cast hzero
    rw [if_neg hzero, if_neg hzero', Nat.cast_mul]

lemma intDrawChannel_eq (hne : target ≠ []) (hfits : totalWeight target < 2 ^ 63) (rand : ℕ)
    (h : drawChannel target rand = some c) :
    intDrawChannel target rand = .ok c := by
  have hpos := totalWeight_pos hne
  have hlt := Nat.mod_lt rand hpos
  obtain ⟨hsmoothing, htotal⟩ := int_weights_eq hfits
  have hword := drawWord_eq (w := smoothedWeight target) (l := target)
    (r := (rand % totalWeight target : ℕ)) (· < 0)
    (by rw [sum_smoothedWeight]; omega) (by omega)
  rw [intDrawChannel, htotal, if_neg (by omega), hsmoothing, Int.toNat_natCast]
  change (match drawWord (· < 0) (smoothedWeight target) target _ with
    | some c => Except.ok c
    | none => _) = _
  rw [hword]
  rw [drawChannel] at h
  rw [h]

def channelsOfWeights (weights : List ℕ) : List Channel :=
  weights.map fun weight : ℕ =>
    { id := weight, weight := some weight, models := "m", group := "g" }

lemma mem_targetChannels {retry : ℕ} :
    c ∈ targetChannels channels retry ↔ c ∈ channels ∧
      levelAt (channels.map getPriority) retry = some c.getPriority := by
  simp [targetChannels]

lemma targetChannels_ne_nil (hne : channels ≠ []) (retry : ℕ) :
    targetChannels channels retry ≠ [] := by
  obtain ⟨p, hp⟩ := exists_levelAt (l := channels.map getPriority) (by simpa using hne) retry
  obtain ⟨c, hc, rfl⟩ := mem_map.mp (mem_of_levelAt hp)
  exact ne_nil_of_mem (mem_targetChannels.mpr ⟨hc, hp⟩)

/-! ### Selection from the cache -/

namespace ChannelCache

variable (cache : ChannelCache)

def filterChannelsByRequestPathAndModel (ids : List ℤ) (requestPath model : String) : List ℤ :=
  if requestPath = "" then ids
  else ids.filter fun id =>
    match cache.channelsIDM id with
    | none   => true
    | some c =>
      if c.type = channelTypeAdvancedCustom then
        match cache.channel2advancedCustomConfig id with
        | some config => config.supportsPathForModel requestPath model
        | none        => false
      else true

def filterChannelsByCondition (ids : List ℤ) (condition : Option (Channel → Bool)) : List ℤ :=
  match condition with
  | none   => ids
  | some p => ids.filter fun id => (cache.channelsIDM id).any p

/-- The ids of the model, or else of its matching name. -/
def pathIds (group model requestPath : String) : List ℤ :=
  let ids := cache.filterChannelsByRequestPathAndModel (cache.group2model2channels group model)
    requestPath model
  -- the path is matched with the name of the request also for the channels of the matching name
  if ids = [] then
    cache.filterChannelsByRequestPathAndModel
      (cache.group2model2channels group (formatMatchingModelName model)) requestPath model
  else ids

/-- The ids that are left to select from. -/
def candidateIds (group model requestPath : String) (condition : Option (Channel → Bool)) :
    List ℤ :=
  cache.filterChannelsByCondition (cache.pathIds group model requestPath) condition

def channel (id : ℤ) : Except String Channel :=
  match cache.channelsIDM id with
  | some c => .ok c
  | none   => .error s!"数据库一致性错误，渠道# {id} 不存在，请联系管理员修复"

def selectChannel (group model : String) (channels : List Channel) (retry rand : ℕ) :
    Except String (Option Channel) :=
  match channels with
  | []  => .ok none
  | [c] => .ok (some c)
  | _   =>
    let target := targetChannels channels retry
    if target = [] then
      let priority := (levelAt (channels.map getPriority) retry).getD 0
      .error s!"no channel found, group: {group}, model: {model}, priority: {priority}"
    else match drawChannel target rand with
      | some c => .ok (some c)
      | none   => .error "channel not found"

def getRandomSatisfiedChannelWithCondition (group model : String) (retry : ℕ)
    (requestPath : String) (condition : Option (Channel → Bool)) (rand : ℕ) :
    Except String (Option Channel) := do
  let channels ← (cache.candidateIds group model requestPath condition).mapM cache.channel
  selectChannel group model channels retry rand

end ChannelCache

/-- The channels that a selection can return: those of the level that have a weight, or all of the
level if none has one. -/
lemma exists_selectChannel_iff {retry : ℕ} :
    (∃ rand, selectChannel group model channels retry rand = .ok (some c)) ↔
      c ∈ targetChannels channels retry ∧
        (0 < c.getWeight ∨ Weightless (targetChannels channels retry)) := by
  match channels with
  | [] => simp [selectChannel, targetChannels]
  | [d] =>
    have htarget : targetChannels [d] retry = [d] := by
      have hne := targetChannels_ne_nil (cons_ne_nil d []) retry
      simpa [targetChannels] using hne
    simp only [selectChannel, htarget, mem_singleton, Weightless]
    constructor
    · rintro ⟨-, h⟩
      cases h
      exact ⟨rfl, by simpa using (Nat.eq_zero_or_pos _).symm⟩
    · rintro ⟨rfl, -⟩
      exact ⟨0, rfl⟩
  | d :: e :: l =>
    have hne := targetChannels_ne_nil (cons_ne_nil d (e :: l)) retry
    rw [← exists_drawChannel_iff]
    simp only [selectChannel, if_neg hne]
    constructor
    · rintro ⟨rand, h⟩
      obtain ⟨c', -, hc'⟩ := exists_drawChannel hne rand
      simp only [hc', Except.ok.injEq] at h
      exact ⟨rand, h ▸ hc'⟩
    · rintro ⟨rand, h⟩
      exact ⟨rand, by rw [h]⟩

/-- A selection among channels finds one of their level. -/
lemma selectChannel_eq_ok (group model : String) (hne : channels ≠ []) (retry rand : ℕ) :
    ∃ c ∈ targetChannels channels retry,
      selectChannel group model channels retry rand = .ok (some c) := by
  have htarget := targetChannels_ne_nil hne retry
  match channels with
  | [] => exact absurd rfl hne
  | [d] =>
    obtain ⟨c, hc⟩ := exists_mem_of_ne_nil _ htarget
    obtain rfl : c = d := mem_singleton.mp (mem_targetChannels.mp hc).1
    exact ⟨c, hc, rfl⟩
  | d :: e :: l =>
    obtain ⟨c, hc, hdraw⟩ := exists_drawChannel htarget rand
    refine ⟨c, hc, ?_⟩
    simp only [selectChannel, if_neg htarget, hdraw]

/-! ### The channels that a fresh cache can return -/

section

variable (channels : Table Channel) (group model requestPath : String)
  (condition : Option (Channel → Bool)) (retry : ℕ)

def servable (name : String) : List Channel :=
  (listed channels group name).filter (·.SupportsPath requestPath model)

/-- The channels of the model, or else of its matching name. -/
def pathChannels : List Channel :=
  if servable channels group model requestPath model = [] then
    servable channels group model requestPath (formatMatchingModelName model)
  else servable channels group model requestPath model

def candidates : List Channel :=
  (pathChannels channels group model requestPath).filter (·.Satisfies condition)

/-- The channels that `GetRandomSatisfiedChannelWithCondition` returns for some draw. -/
def cachedChannels : Set Channel :=
  { c | ∃ rand, (initChannelCache channels).getRandomSatisfiedChannelWithCondition group model retry
      requestPath condition rand = .ok (some c) }

variable {channels group model requestPath condition retry} {c : Channel}

lemma mem_servable {name : String} :
    c ∈ servable channels group model requestPath name ↔
      (c ∈ channels ∧ c.Lists group name) ∧ c.SupportsPath requestPath model := by
  simp [servable]

lemma mem_of_mem_pathChannels (h : c ∈ pathChannels channels group model requestPath) :
    c ∈ channels := by
  rw [pathChannels] at h
  split_ifs at h
  · exact (mem_servable.mp h).1.1
  · exact (mem_servable.mp h).1.1

lemma mem_candidates :
    c ∈ candidates channels group model requestPath condition ↔
      c ∈ pathChannels channels group model requestPath ∧ c.Satisfies condition := by
  simp [candidates]

/-- Where channels serve the request under its own name, these are the candidates. -/
lemma mem_candidates_of_ne_nil (h : servable channels group model requestPath model ≠ []) :
    c ∈ candidates channels group model requestPath condition ↔
      ((c ∈ channels ∧ c.Lists group model) ∧ c.SupportsPath requestPath model) ∧
        c.Satisfies condition := by
  rw [mem_candidates, pathChannels, if_neg h, mem_servable]

lemma mem_filterChannels {name : String} :
    id ∈ (initChannelCache channels).filterChannelsByRequestPathAndModel
        (cachedIds channels group name) requestPath model ↔
      ∃ c ∈ servable channels group model requestPath name, c.id = id := by
  have hkeep : ∀ c ∈ channels, ∀ ids : List ℤ,
      c.id ∈ (initChannelCache channels).filterChannelsByRequestPathAndModel ids requestPath model ↔
        c.id ∈ ids ∧ c.SupportsPath requestPath model := by
    intro c hc ids
    have hfind : channels.find c.id = some c := find_eq_some_iff.mpr ⟨hc, rfl⟩
    rw [filterChannelsByRequestPathAndModel]
    split_ifs with hpath
    · simp [Channel.SupportsPath, hpath]
    · by_cases htype : c.type = channelTypeAdvancedCustom
      · cases hconfig : c.advancedCustom <;>
          simp [initChannelCache, hfind, htype, hconfig, hpath, Channel.SupportsPath]
      · simp [initChannelCache, hfind, htype, Channel.SupportsPath]
  have hsub : ∀ ids : List ℤ,
      (initChannelCache channels).filterChannelsByRequestPathAndModel ids requestPath model ⊆
        ids := by
    intro ids
    rw [filterChannelsByRequestPathAndModel]
    split_ifs
    · exact List.Subset.refl ids
    · exact fun _ => mem_of_mem_filter
  constructor
  · intro h
    obtain ⟨c, hc, rfl⟩ := mem_cachedIds.mp (hsub _ h)
    obtain ⟨hmem, hlists⟩ := mem_listed.mp hc
    exact ⟨c, mem_servable.mpr ⟨⟨hmem, hlists⟩, ((hkeep c hmem _).mp h).2⟩, rfl⟩
  · rintro ⟨c, hc, rfl⟩
    obtain ⟨⟨hmem, hlists⟩, hpath⟩ := mem_servable.mp hc
    exact (hkeep c hmem _).mpr ⟨mem_cachedIds.mpr ⟨c, mem_listed.mpr ⟨hmem, hlists⟩, rfl⟩, hpath⟩

lemma mem_filterByCondition {ids : List ℤ} (hc : c ∈ channels) :
    c.id ∈ (initChannelCache channels).filterChannelsByCondition ids condition ↔
      c.id ∈ ids ∧ c.Satisfies condition := by
  have hfind : channels.find c.id = some c := find_eq_some_iff.mpr ⟨hc, rfl⟩
  cases condition with
  | none => simp [filterChannelsByCondition, Channel.Satisfies]
  | some p =>
    simp [filterChannelsByCondition, Channel.Satisfies, initChannelCache, hfind]

lemma filterByCondition_subset (cache : ChannelCache) (ids : List ℤ) :
    cache.filterChannelsByCondition ids condition ⊆ ids := by
  cases condition with
  | none => exact List.Subset.refl ids
  | some p => exact fun _ => mem_of_mem_filter

lemma mem_pathIds :
    id ∈ (initChannelCache channels).pathIds group model requestPath ↔
      ∃ c ∈ pathChannels channels group model requestPath, c.id = id := by
  have hnil : (initChannelCache channels).filterChannelsByRequestPathAndModel
        (cachedIds channels group model) requestPath model = [] ↔
      servable channels group model requestPath model = [] := by
    simp only [eq_nil_iff_forall_not_mem, mem_filterChannels]
    exact ⟨fun h c hc => h c.id ⟨c, hc, rfl⟩, fun h id ⟨c, hc, _⟩ => h c hc⟩
  have hids : (initChannelCache channels).pathIds group model requestPath =
      if servable channels group model requestPath model = [] then
        (initChannelCache channels).filterChannelsByRequestPathAndModel
          (cachedIds channels group (formatMatchingModelName model)) requestPath model
      else (initChannelCache channels).filterChannelsByRequestPathAndModel
        (cachedIds channels group model) requestPath model :=
    if_congr hnil rfl rfl
  rw [hids, pathChannels]
  split_ifs
  · exact mem_filterChannels
  · exact mem_filterChannels

lemma mem_candidateIds :
    id ∈ (initChannelCache channels).candidateIds group model requestPath condition ↔
      ∃ c ∈ candidates channels group model requestPath condition, c.id = id := by
  simp only [mem_candidates]
  constructor
  · intro h
    obtain ⟨c, hc, rfl⟩ := mem_pathIds.mp (filterByCondition_subset _ _ h)
    have hsat := (mem_filterByCondition (mem_of_mem_pathChannels hc)).mp h
    exact ⟨c, ⟨hc, hsat.2⟩, rfl⟩
  · rintro ⟨c, ⟨hc, hsat⟩, rfl⟩
    have hid := mem_pathIds.mpr ⟨c, hc, rfl⟩
    exact (mem_filterByCondition (mem_of_mem_pathChannels hc)).mpr ⟨hid, hsat⟩

lemma mapM_channel_eq_ok {ids : List ℤ} (h : ∀ id ∈ ids, ∃ c ∈ channels, c.id = id) :
    ids.mapM (initChannelCache channels).channel = .ok (ids.filterMap channels.find) := by
  induction ids with
  | nil => rfl
  | cons id ids ih =>
    obtain ⟨c, hc, rfl⟩ := h id mem_cons_self
    have hfind : channels.find c.id = some c := find_eq_some_iff.mpr ⟨hc, rfl⟩
    have hchannel : (initChannelCache channels).channel c.id = .ok c := by
      simp [channel, initChannelCache, hfind]
    rw [mapM_cons, hchannel, ih fun id hid => h id (mem_cons_of_mem _ hid),
      filterMap_cons_some hfind]
    rfl

/-- The channels that the ids stand for; one that is listed twice stands twice. -/
def cachedCandidates (channels : Table Channel) (group model requestPath : String)
    (condition : Option (Channel → Bool)) : List Channel :=
  ((initChannelCache channels).candidateIds group model requestPath condition).filterMap
    channels.find

lemma mem_cachedCandidates :
    c ∈ cachedCandidates channels group model requestPath condition ↔
      c ∈ candidates channels group model requestPath condition := by
  simp only [cachedCandidates, mem_filterMap, mem_candidateIds]
  constructor
  · rintro ⟨_, ⟨d, hd, rfl⟩, hfind⟩
    obtain ⟨hc, hid⟩ := find_eq_some_iff.mp hfind
    have hmem := mem_of_mem_pathChannels (mem_candidates.mp hd).1
    rwa [eq_of_key_eq hc hmem hid]
  · intro hc
    have hmem := mem_of_mem_pathChannels (mem_candidates.mp hc).1
    exact ⟨c.id, ⟨c, hc, rfl⟩, find_eq_some_iff.mpr ⟨hmem, rfl⟩⟩

/-- A selection from a fresh cache has no missing channel. -/
lemma getRandomSatisfied_eq (rand : ℕ) :
    (initChannelCache channels).getRandomSatisfiedChannelWithCondition group model retry requestPath
        condition rand =
      selectChannel group model
        (cachedCandidates channels group model requestPath condition) retry rand := by
  have hids : ∀ id ∈ (initChannelCache channels).candidateIds group model requestPath condition,
      ∃ c ∈ channels, c.id = id := by
    intro id hid
    obtain ⟨c, hc, rfl⟩ := mem_candidateIds.mp hid
    exact ⟨c, mem_of_mem_pathChannels (mem_candidates.mp hc).1, rfl⟩
  rw [getRandomSatisfiedChannelWithCondition, mapM_channel_eq_ok hids]
  rfl

/-- The channels of the level that the selection takes. -/
lemma mem_targetChannels_congr {l l' : List Channel} (h : ∀ c, c ∈ l ↔ c ∈ l') (c : Channel) :
    c ∈ targetChannels l retry ↔ c ∈ targetChannels l' retry := by
  have hlevel : levelAt (l.map getPriority) retry =
      levelAt (l'.map getPriority) retry := levelAt_congr (by simp [h]) retry
  rw [mem_targetChannels, mem_targetChannels, h, hlevel]

/-- The level is chosen after the path and the condition are looked at. -/
lemma mem_cachedChannels :
    c ∈ cachedChannels channels group model requestPath condition retry ↔
      c ∈ targetChannels (candidates channels group model requestPath condition) retry ∧
        (0 < c.getWeight ∨ Weightless
          (targetChannels (candidates channels group model requestPath condition) retry)) := by
  have htarget : ∀ c,
      c ∈ targetChannels (cachedCandidates channels group model requestPath condition) retry ↔
        c ∈ targetChannels (candidates channels group model requestPath condition) retry :=
    mem_targetChannels_congr fun _ => mem_cachedCandidates
  rw [cachedChannels, Set.mem_ofPred_eq]
  simp only [getRandomSatisfied_eq, exists_selectChannel_iff, Weightless, htarget]

/-! ### Cache and database -/

variable (channels group model requestPath condition retry) in
/-- What it takes for the two selections to agree where there are candidates. -/
structure SelectionAgrees : Prop where
  /-- some channel serves the request under the name of the model itself -/
  named : servable channels group model requestPath model ≠ []
  /-- leaving channels out does not move the level -/
  level : levelAt ((withAbility channels group model).map getPriority) retry =
    levelAt ((candidates channels group model requestPath condition).map getPriority) retry
  /-- on the level, the channels with a row are those that can be drawn -/
  drawn : ∀ c ∈ targetChannels (candidates channels group model requestPath condition) retry,
    c.HasAbility group model ↔ 0 < c.getWeight ∨
      Weightless (targetChannels (candidates channels group model requestPath condition) retry)

lemma servable_ne_nil_of_mem_databaseChannels
    (h : c ∈ databaseChannels channels group model retry requestPath condition) :
    servable channels group model requestPath model ≠ [] := by
  obtain ⟨hc, -, hpath, -⟩ := mem_databaseChannels.mp h
  exact ne_nil_of_mem (mem_servable.mpr ⟨mem_listed.mp (mem_withAbility.mp hc).1, hpath⟩)

/-- Where channels serve the request under its own name, the database returns the candidates with
a row that are on its level. -/
lemma mem_databaseChannels_of_ne_nil (hne : servable channels group model requestPath model ≠ []) :
    c ∈ databaseChannels channels group model retry requestPath condition ↔
      c ∈ candidates channels group model requestPath condition ∧ c.HasAbility group model ∧
        levelAt ((withAbility channels group model).map getPriority) retry =
          some c.getPriority := by
  rw [mem_databaseChannels, mem_candidates_of_ne_nil hne, mem_withAbility, mem_listed]
  constructor
  · rintro ⟨⟨hc, hhas⟩, hlevel, hpath, hsat⟩
    exact ⟨⟨⟨hc, hpath⟩, hsat⟩, hhas, hlevel⟩
  · rintro ⟨⟨⟨hc, hpath⟩, hsat⟩, hhas, hlevel⟩
    exact ⟨⟨hc, hhas⟩, hlevel, hpath, hsat⟩

lemma exists_mem_cachedChannels (retry : ℕ)
    (h : candidates channels group model requestPath condition ≠ []) :
    ∃ c, c ∈ cachedChannels channels group model requestPath condition retry := by
  obtain ⟨c, -, hc⟩ := exists_drawChannel (targetChannels_ne_nil h retry) 0
  exact ⟨c, mem_cachedChannels.mpr (exists_drawChannel_iff.mp ⟨0, hc⟩)⟩

lemma SelectionAgrees.of_eq (hne : candidates channels group model requestPath condition ≠ [])
    (heq : cachedChannels channels group model requestPath condition retry =
      databaseChannels channels group model retry requestPath condition) :
    SelectionAgrees channels group model requestPath condition retry := by
  obtain ⟨c, hc⟩ := exists_mem_cachedChannels retry hne
  have hnamed := servable_ne_nil_of_mem_databaseChannels (heq ▸ hc)
  have hlevel := (mem_targetChannels.mp (mem_cachedChannels.mp hc).1).2
  have hdb := ((mem_databaseChannels_of_ne_nil hnamed).mp (heq ▸ hc)).2.2
  refine ⟨hnamed, hdb.trans hlevel.symm, ?_⟩
  intro d hd
  obtain ⟨hcand, hd'⟩ := mem_targetChannels.mp hd
  constructor
  · intro hhas
    have hmem : d ∈ cachedChannels channels group model requestPath condition retry := by
      rw [heq, mem_databaseChannels_of_ne_nil hnamed]
      exact ⟨hcand, hhas, hdb.trans (hlevel.symm.trans hd')⟩
    exact (mem_cachedChannels.mp hmem).2
  · intro hdraw
    have hmem := heq ▸ mem_cachedChannels.mpr ⟨hd, hdraw⟩
    exact ((mem_databaseChannels_of_ne_nil hnamed).mp hmem).2.1

lemma SelectionAgrees.eq (h : SelectionAgrees channels group model requestPath condition retry) :
    cachedChannels channels group model requestPath condition retry =
      databaseChannels channels group model retry requestPath condition := by
  ext c
  rw [mem_cachedChannels, mem_databaseChannels_of_ne_nil h.named, h.level]
  constructor
  · rintro ⟨hc, hdraw⟩
    obtain ⟨hcand, hlevel⟩ := mem_targetChannels.mp hc
    exact ⟨hcand, (h.drawn c hc).mpr hdraw, hlevel⟩
  · rintro ⟨hcand, hhas, hlevel⟩
    have hc := mem_targetChannels.mpr ⟨hcand, hlevel⟩
    exact ⟨hc, (h.drawn c hc).mp hhas⟩

/-- The cache and the database can return the same channels just in case no channel is left to
select from, or the selections agree on the name, the level and the channels drawn from it. -/
theorem cachedChannels_eq_databaseChannels_iff (channels : Table Channel)
    (group model : String) (retry : ℕ) (requestPath : String)
    (condition : Option (Channel → Bool)) :
    cachedChannels channels group model requestPath condition retry =
        databaseChannels channels group model retry requestPath condition ↔
      candidates channels group model requestPath condition = [] ∨
        SelectionAgrees channels group model requestPath condition retry := by
  constructor
  · intro heq
    by_cases hnil : candidates channels group model requestPath condition = []
    · exact Or.inl hnil
    · exact Or.inr (SelectionAgrees.of_eq hnil heq)
  · rintro (hnil | h)
    · ext c
      rw [mem_cachedChannels, mem_targetChannels]
      constructor
      · rintro ⟨⟨hc, -⟩, -⟩
        simp [hnil] at hc
      · intro hc
        have hnamed := servable_ne_nil_of_mem_databaseChannels hc
        have hcand := ((mem_databaseChannels_of_ne_nil hnamed).mp hc).1
        simp [hnil] at hcand
    · exact h.eq

/-- A channel of high priority and one of low priority. -/
def twoLevels : Table Channel where
  rows := [{ id := 1, models := "m", group := "g", priority := some 10 },
    { id := 2, models := "m", group := "g", priority := some 5 }]
  next := 3
  nodup := by decide
  fresh := by decide

/-- With the first channel excluded the cache can return the second one, and the database looks for
it on the level of the first and returns none. -/
theorem cachedChannels_ne_databaseChannels :
    (∃ c, c ∈ cachedChannels twoLevels "g" "m" "/v1/chat/completions" (some (·.id ≠ 1)) 0) ∧
      databaseChannels twoLevels "g" "m" 0 "/v1/chat/completions" (some (·.id ≠ 1)) = ∅ := by
  constructor
  · exact exists_mem_cachedChannels 0 (by decide +kernel)
  · apply Set.eq_empty_of_forall_notMem
    intro c hc
    obtain ⟨hmem, hlevel, -, hsat⟩ := mem_databaseChannels.mp hc
    have hten : levelAt ((withAbility twoLevels "g" "m").map getPriority) 0 = some 10 := by
      decide +kernel
    have hrows := (mem_listed.mp (mem_withAbility.mp hmem).1).1
    simp only [mem_def, twoLevels, mem_cons, not_mem_nil, or_false] at hrows
    rcases hrows with rfl | rfl
    · simp [Channel.Satisfies] at hsat
    · simp [hten, getPriority] at hlevel

end

end XinghaiApi
