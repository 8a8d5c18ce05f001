import XinghaiApi.Lib.Selection
import XinghaiApi.Lib.Table
import XinghaiApi.Lib.Text

/-!
# Channels and abilities

A channel lists its groups and its models as texts with commas. `AddAbilities` writes one row for
each group and model, and without the memory cache a channel is drawn from these rows.
-/

namespace XinghaiApi

open Selection Text List

inductive ChannelStatus where
  | unknown
  | enabled
  | manuallyDisabled
  | autoDisabled
deriving DecidableEq

/-- The routes of an advanced custom channel, by the request paths and models they match. -/
structure AdvancedCustomConfig where
  supportsPathForModel : String → String → Bool

def channelTypeAdvancedCustom : ℤ := 58

/-- The keys of a channel with several, by their index. A key without a status is enabled. -/
structure ChannelInfo where
  isMultiKey : Bool := false
  multiKeySize : ℕ := 0
  multiKeyStatusList : ℕ → Option ChannelStatus := fun _ => none
  multiKeyDisabledReason : ℕ → Option String := fun _ => none
  multiKeyDisabledTime : ℕ → Option ℤ := fun _ => none

/-- Why and when the status of a channel was set. -/
structure OtherInfo where
  statusReason : Option String := none
  statusTime : Option ℤ := none
deriving DecidableEq

structure Channel where
  id : ℤ
  type : ℤ := 1
  key : String := ""
  status : ChannelStatus := .enabled
  backupChannelId : Option ℤ := none
  weight : Option ℕ := none
  models : String
  group : String
  usedQuota : ℤ := 0
  quotaLimit : ℤ := 0
  disabledModels : String := ""
  priority : Option ℤ := none
  otherInfo : OtherInfo := {}
  tag : Option String := none
  channelInfo : ChannelInfo := {}
  advancedCustom : Option AdvancedCustomConfig := none

open Channel

instance : Row Channel where
  key := id
  withKey k c := { c with id := k }
  key_withKey _ _ := rfl
  withKey_key _ := rfl

namespace Channel

def getPriority (c : Channel) : ℤ := c.priority.getD 0

def getWeight (c : Channel) : ℕ := c.weight.getD 0

/-- `GetDisabledModelSet` as a list. -/
def getDisabledModelSet (c : Channel) : List String :=
  if c.disabledModels = "" then []
  else ((split ',' (trimSep ',' c.disabledModels)).map trimSpace).filter (· ≠ "")

/-- The channel is enabled, in the group, and has the model switched on. -/
def Lists (c : Channel) (group model : String) : Prop :=
  c.status = .enabled ∧ group ∈ split ',' c.group ∧ model ∈ split ',' c.models ∧
    model ∉ c.getDisabledModelSet

instance (c : Channel) (group model : String) : Decidable (c.Lists group model) :=
  inferInstanceAs (Decidable (_ ∧ _ ∧ _ ∧ _))

/-- Only advanced custom channels look at the request path, and only if there is one. -/
def SupportsPath (c : Channel) (requestPath model : String) : Prop :=
  requestPath = "" ∨ c.type ≠ channelTypeAdvancedCustom ∨
    ∃ config ∈ c.advancedCustom, config.supportsPathForModel requestPath model = true

instance (c : Channel) (requestPath model : String) :
    Decidable (c.SupportsPath requestPath model) :=
  inferInstanceAs (Decidable (_ ∨ _ ∨ _))

/-- A caller may pass no condition. -/
def Satisfies (condition : Option (Channel → Bool)) (c : Channel) : Prop :=
  ∀ p ∈ condition, p c = true

instance (condition : Option (Channel → Bool)) (c : Channel) : Decidable (c.Satisfies condition) :=
  inferInstanceAs (Decidable (∀ p ∈ condition, p c = true))

end Channel

/-! ### Abilities -/

structure Ability where
  group : String
  model : String
  channelId : ℤ
  enabled : Bool
  priority : ℤ
  weight : ℕ
  tag : Option String
deriving DecidableEq

def Ability.primaryKey (a : Ability) : String × String × ℤ := (a.group, a.model, a.channelId)

namespace Channel

variable {a : Ability} {c : Channel} {group model : String}

/-- The groups and models of a channel, in the order in which `AddAbilities` meets them. -/
def abilityPairs (c : Channel) : List (String × String) :=
  (split ',' c.models).flatMap fun model => (split ',' c.group).map fun group => (group, model)

/-- The text by which `AddAbilities` tells the pairs apart. -/
def abilityKey (pair : String × String) : String := pair.1 ++ "|" ++ pair.2

/-- The row of a pair. A missing priority is stored as the default of the column. -/
def ability (c : Channel) (pair : String × String) : Ability where
  group     := pair.1
  model     := pair.2
  channelId := c.id
  enabled   := c.status = .enabled ∧ pair.2 ∉ c.getDisabledModelSet
  priority  := c.priority.getD 0
  weight    := c.getWeight
  tag       := c.tag

/-- The rows that `AddAbilities` creates. -/
def addAbilities (c : Channel) : List Ability :=
  (keepFirst abilityKey [] c.abilityPairs).map c.ability

/-- The row of a pair is written: the pair is the first one with its key. -/
def HasAbility (c : Channel) (group model : String) : Prop :=
  c.abilityPairs.find? (abilityKey · = abilityKey (group, model)) = some (group, model)

instance (c : Channel) (group model : String) : Decidable (c.HasAbility group model) :=
  inferInstanceAs (Decidable (_ = _))

lemma mem_abilityPairs :
    (group, model) ∈ c.abilityPairs ↔ group ∈ split ',' c.group ∧ model ∈ split ',' c.models := by
  simp only [abilityPairs, mem_flatMap, mem_map, Prod.mk.injEq]
  constructor
  · rintro ⟨_, hmodel, _, hgroup, rfl, rfl⟩
    exact ⟨hgroup, hmodel⟩
  · rintro ⟨hgroup, hmodel⟩
    exact ⟨model, hmodel, group, hgroup, rfl, rfl⟩

lemma mem_addAbilities :
    a ∈ c.addAbilities ↔
      ∃ group model, c.HasAbility group model ∧ c.ability (group, model) = a := by
  simp [addAbilities, mem_keepFirst, HasAbility]

lemma HasAbility.mem_abilityPairs (h : c.HasAbility group model) :
    (group, model) ∈ c.abilityPairs :=
  mem_of_find?_eq_some h

end Channel

/-- The rows of a table of channels; a row whose primary key is taken is not inserted. -/
def abilitiesOf (channels : Table Channel) : List Ability :=
  keepFirst Ability.primaryKey [] (channels.rows.flatMap addAbilities)

lemma mem_abilitiesOf {a : Ability} {channels : Table Channel} :
    a ∈ abilitiesOf channels ↔ ∃ c ∈ channels, a ∈ c.addAbilities := by
  have hinj : ∀ b ∈ channels.rows.flatMap addAbilities,
      a ∈ channels.rows.flatMap addAbilities → b.primaryKey = a.primaryKey → b = a := by
    intro b hb ha hkey
    obtain ⟨c, hc, hb⟩ := mem_flatMap.mp hb
    obtain ⟨c', hc', ha⟩ := mem_flatMap.mp ha
    obtain ⟨group, model, -, rfl⟩ := mem_addAbilities.mp hb
    obtain ⟨group', model', -, rfl⟩ := mem_addAbilities.mp ha
    obtain ⟨rfl, rfl, hid⟩ : group = group' ∧ model = model' ∧ c.id = c'.id := by
      simpa [Ability.primaryKey, ability] using hkey
    rw [Table.eq_of_key_eq hc hc' hid]
  by_cases ha : a ∈ channels.rows.flatMap addAbilities
  · rw [abilitiesOf, mem_keepFirst_of_inj fun b hb => hinj b hb ha]
    exact mem_flatMap
  · constructor
    · intro hmem
      exact absurd (mem_of_find?_eq_some (mem_keepFirst.mp hmem).2) ha
    · intro hmem
      exact absurd (mem_flatMap.mpr hmem) ha

/-! ### Selection from the database -/

variable {retry : ℕ}

structure ChannelDB where
  channels : Table Channel
  abilities : List Ability

namespace ChannelDB

variable (db : ChannelDB)

/-- The database of channels whose abilities were written by `AddAbilities`. -/
def ofChannels (channels : Table Channel) : ChannelDB where
  channels  := channels
  abilities := abilitiesOf channels

def enabledAbilities (group model : String) : List Ability :=
  db.abilities.filter fun a => a.group = group ∧ a.model = model ∧ a.enabled

def getPriority (group model : String) (retry : ℕ) : Except String ℤ :=
  match levelAt ((db.enabledAbilities group model).map Ability.priority) retry with
  | none   => .error "数据库一致性被破坏"
  | some p => .ok p

/-- The rows of the query; without a retry the priority is the largest one. -/
def getChannelQuery (group model : String) (retry : ℕ) : Except String (List Ability) :=
  let rows := db.enabledAbilities group model
  if retry = 0 then
    .ok (rows.filter fun a => (rows.map Ability.priority).max? = some a.priority)
  else do
    let priority ← db.getPriority group model retry
    .ok (rows.filter (·.priority = priority))

def first (id : ℤ) : Except String Channel :=
  match db.channels.find id with
  | some c => .ok c
  | none   => .error "record not found"

def filterAbilitiesByRequestPath (abilities : List Ability) (requestPath : String) : List Ability :=
  if requestPath = "" then abilities
  else abilities.filter fun a =>
    match db.channels.find a.channelId with
    | none   => true
    | some c =>
      if c.type = channelTypeAdvancedCustom then
        match c.advancedCustom with
        | some config => config.supportsPathForModel requestPath a.model
        | none        => false
      else true

/-- The loop that keeps the abilities whose channel satisfies the condition. -/
def filterAbilitiesByCondition (condition : Option (Channel → Bool)) :
    List Ability → Except String (List Ability)
  | []             => .ok []
  | a :: abilities => do
    let candidate ← db.first a.channelId
    let filtered ← filterAbilitiesByCondition condition abilities
    .ok (if candidate.Satisfies condition then a :: filtered else filtered)

def drawWeight (a : Ability) : ℕ := a.weight + 10

/-- `rand` is what the generator gives, before it is cut down to the sum of the weights. The sum is
the one in natural numbers: `intDrawAbility` is the draw in machine integers. -/
def drawAbility (abilities : List Ability) (rand : ℕ) : Except String (Option Channel) :=
  if abilities = [] then .ok none
  else do
    let weightSum := (abilities.map drawWeight).sum
    let drawn := drawUntil (· ≤ 0) drawWeight abilities (rand % weightSum : ℕ)
    let channel ← db.first ((drawn.map Ability.channelId).getD 0)
    .ok (some channel)

/-- The bound of `GetRandomInt`: a `uint` sum, as an `int`. -/
def intWeightSum (abilities : List Ability) : ℤ := Word.wrap64 (abilities.map drawWeight).sum

/-- The generator panics unless its bound is positive. -/
def intDrawAbility (abilities : List Ability) (rand : ℕ) : Except String (Option Channel) :=
  if abilities = [] then .ok none
  else if intWeightSum abilities ≤ 0 then .error "invalid argument to Intn"
  else do
    let weight := (rand % (intWeightSum abilities).toNat : ℕ)
    let drawn := drawWord (· ≤ 0) drawWeight abilities weight
    let channel ← db.first ((drawn.map Ability.channelId).getD 0)
    .ok (some channel)

def getChannelWithCondition (group model : String) (retry : ℕ) (requestPath : String)
    (condition : Option (Channel → Bool)) (rand : ℕ) : Except String (Option Channel) := do
  let rows ← db.getChannelQuery group model retry
  let sorted := rows.insertionSort fun a b => a.weight ≥ b.weight
  let abilities ← db.filterAbilitiesByCondition condition
    (db.filterAbilitiesByRequestPath sorted requestPath)
  db.drawAbility abilities rand

/-! ### What the steps of the selection come to -/

variable {db} {c : Channel} {group model requestPath : String} {a : Ability}
  {abilities : List Ability}

lemma first_eq_ok {id : ℤ} : db.first id = .ok c ↔ c ∈ db.channels ∧ c.id = id := by
  rw [first]
  have hfind := Table.find_eq_some_iff (t := db.channels) (k := id) (r := c)
  cases h : db.channels.find id with
  | none => simpa [h, Row.key] using hfind
  | some c' => simpa [h, Row.key] using hfind

/-- With and without a retry, the query takes the rows of one level. -/
lemma getChannelQuery_eq {p : ℤ}
    (hp : levelAt ((db.enabledAbilities group model).map Ability.priority) retry = some p) :
    db.getChannelQuery group model retry =
      .ok ((db.enabledAbilities group model).filter (·.priority = p)) := by
  rw [getChannelQuery]
  split_ifs with hretry
  · subst hretry
    simp only [max?_eq_levelAt_zero, hp, Option.some.injEq, eq_comm]
  · simp only [getPriority, hp]
    rfl

lemma mem_filterAbilities (hc : db.first a.channelId = .ok c) :
    a ∈ db.filterAbilitiesByRequestPath abilities requestPath ↔
      a ∈ abilities ∧ c.SupportsPath requestPath a.model := by
  have hfind : db.channels.find a.channelId = some c :=
    Table.find_eq_some_iff.mpr (first_eq_ok.mp hc)
  rw [filterAbilitiesByRequestPath]
  split_ifs with hpath
  · simp [SupportsPath, hpath]
  · by_cases htype : c.type = channelTypeAdvancedCustom
    · cases hconfig : c.advancedCustom <;>
        simp [hfind, hconfig, hpath, SupportsPath]
    · simp [hfind, htype, SupportsPath]

lemma mem_of_mem_filterAbilities
    (h : a ∈ db.filterAbilitiesByRequestPath abilities requestPath) : a ∈ abilities := by
  rw [filterAbilitiesByRequestPath] at h
  split_ifs at h
  · exact h
  · exact mem_of_mem_filter h

lemma filterAbilitiesBy_eq_ok (condition : Option (Channel → Bool))
    (h : ∀ a ∈ abilities, ∃ c, db.first a.channelId = .ok c) :
    ∃ filtered, db.filterAbilitiesByCondition condition abilities = .ok filtered ∧
      ∀ a c, db.first a.channelId = .ok c →
        (a ∈ filtered ↔ a ∈ abilities ∧ c.Satisfies condition) := by
  induction abilities with
  | nil => exact ⟨[], rfl, by simp⟩
  | cons b abilities ih =>
    obtain ⟨filtered, heq, hmem⟩ := ih fun a ha => h a (mem_cons_of_mem b ha)
    obtain ⟨cb, hcb⟩ := h b mem_cons_self
    refine ⟨if cb.Satisfies condition then b :: filtered else filtered, ?_, ?_⟩
    · simp only [filterAbilitiesByCondition, hcb, heq]
      rfl
    · intro a c hc
      by_cases hab : a = b
      · subst hab
        obtain rfl : c = cb := Except.ok.inj (hc.symm.trans hcb)
        split_ifs with hsat <;> simp [hmem a c hc, hsat]
      · split_ifs <;> simp [hmem a c hc, hab]

lemma exists_drawAbility_iff :
    (∃ rand, db.drawAbility abilities rand = .ok (some c)) ↔
      ∃ a ∈ abilities, db.first a.channelId = .ok c := by
  by_cases hnil : abilities = []
  · simp [drawAbility, hnil]
  have hdrawn : ∀ rand a, drawUntil (· ≤ 0) drawWeight abilities
      (rand % (abilities.map drawWeight).sum : ℕ) = some a →
        (db.drawAbility abilities rand = .ok (some c) ↔ db.first a.channelId = .ok c) := by
    intro rand a ha
    simp only [drawAbility, if_neg hnil, ha, Option.map_some, Option.getD_some]
    cases db.first a.channelId <;> simp [bind, Except.bind]
  constructor
  · rintro ⟨rand, h⟩
    obtain ⟨b, hb⟩ := exists_mem_of_ne_nil _ hnil
    have hlt := Nat.mod_lt rand (sum_weight_pos (w := drawWeight) hb (by simp [drawWeight]))
    obtain ⟨a, ha, hdraw⟩ := exists_drawUntil_of_lt (w := drawWeight)
      (r := (rand % (abilities.map drawWeight).sum : ℕ) - 1) hnil (by omega)
    rw [← drawUntil_nonpos] at hdraw
    exact ⟨a, ha, (hdrawn rand a hdraw).mp h⟩
  · rintro ⟨a, ha, hc⟩
    obtain ⟨rand, hdraw⟩ := (exists_draw_nonpos_iff (w := drawWeight) (by simp [drawWeight])).mpr ha
    exact ⟨rand, (hdrawn rand a hdraw).mpr hc⟩

/-- Of several abilities, the first is drawn by one number more than its weight, and the last by one
number less. -/
lemma card_drawAbility {i : ℕ} (ha : abilities[i]? = some a) :
    ((Finset.range (abilities.map drawWeight).sum).filter fun rand : ℕ =>
        drawIndex (· ≤ 0) drawWeight abilities rand = some i).card +
          (if i + 1 = abilities.length then 1 else 0) =
      a.weight + 10 + if i = 0 then 1 else 0 := by
  have hstop : (fun x : ℤ => decide (x ≤ 0)) = fun x => decide (x < ((1 : ℕ) : ℤ)) := by
    funext x
    simp only [decide_eq_decide]
    omega
  have hsum := sum_take_add_drop (w := drawWeight) ha
  have hrest : ((abilities.drop (i + 1)).map drawWeight).sum = 0 ↔ i + 1 = abilities.length := by
    have hlt := (List.getElem?_eq_some_iff.mp ha).1
    rw [sum_eq_zero_iff]
    refine ⟨fun h => ?_, fun h => by simp [h]⟩
    by_contra hne
    have hnext := h (drawWeight abilities[i + 1])
      (mem_map_of_mem (mem_drop_iff_getElem.mpr ⟨0, by omega, rfl⟩))
    simp [drawWeight] at hnext
  have hfirst : i = 0 → ((abilities.take i).map drawWeight).sum = 0 := by
    rintro rfl
    rfl
  simp only [hstop, card_drawIndex ha]
  have hweight : drawWeight a = a.weight + 10 := rfl
  split_ifs <;> omega

lemma intWeightSum_eq (hfits : (abilities.map drawWeight).sum < 2 ^ 63) :
    intWeightSum abilities = (abilities.map drawWeight).sum :=
  Word.wrap64_eq (by omega) (by exact_mod_cast hfits)

/-- Where the weights fit into an `int`, the machine draws as natural numbers do. -/
lemma intDrawAbility_eq (hne : abilities ≠ []) (hfits : (abilities.map drawWeight).sum < 2 ^ 63)
    (rand : ℕ) : db.intDrawAbility abilities rand = db.drawAbility abilities rand := by
  obtain ⟨b, hb⟩ := exists_mem_of_ne_nil _ hne
  have hpos := sum_weight_pos (w := drawWeight) hb (by simp [drawWeight])
  have hlt := Nat.mod_lt rand hpos
  have hword := drawWord_eq (w := drawWeight) (l := abilities)
    (r := (rand % (abilities.map drawWeight).sum : ℕ)) (· ≤ 0) (by omega) (by omega)
  rw [intDrawAbility, drawAbility, if_neg hne, if_neg hne, intWeightSum_eq hfits,
    if_neg (by omega), Int.toNat_natCast]
  simp only [hword]

/-- Where the weights fit into an `int`, every number draws an ability, and all abilities have their
shares of the numbers just in case there is only one. -/
theorem drawAbility_shares_iff (hne : abilities ≠ [])
    (hfits : (abilities.map drawWeight).sum < 2 ^ 63) :
    (∀ rand < (intWeightSum abilities).toNat, ∃ i a, abilities[i]? = some a ∧
      drawIndex (· ≤ 0) drawWeight abilities rand = some i ∧
      db.intDrawAbility abilities rand = (db.first a.channelId).map some) ∧
    ((∀ i a, abilities[i]? = some a →
        ((Finset.range (intWeightSum abilities).toNat).filter fun rand : ℕ =>
          drawIndex (· ≤ 0) drawWeight abilities rand = some i).card = a.weight + 10) ↔
      abilities.length = 1) := by
  have hpos := length_pos_iff.mpr hne
  rw [intWeightSum_eq hfits, Int.toNat_natCast]
  refine ⟨fun rand hrand => ?_, fun h => ?_, fun h i a ha => ?_⟩
  · obtain ⟨a, -, hdraw⟩ := exists_drawUntil_of_lt (w := drawWeight) (r := (rand : ℤ) - 1) hne
      (by omega)
    rw [← drawUntil_nonpos] at hdraw
    obtain ⟨i, hi, ha⟩ := Option.bind_eq_some_iff.mp ((drawUntil_eq_bind _ _ _).symm.trans hdraw)
    refine ⟨i, a, ha, hi, ?_⟩
    rw [intDrawAbility_eq hne hfits]
    simp only [drawAbility, if_neg hne, Nat.mod_eq_of_lt hrand, hdraw, Option.map_some,
      Option.getD_some]
    cases db.first a.channelId <;> rfl
  · have hcard := card_drawAbility (List.getElem?_eq_getElem hpos)
    rw [h 0 _ (List.getElem?_eq_getElem hpos)] at hcard
    split_ifs at hcard <;> omega
  · simpa [h] using card_drawAbility ha

def twoAbilities : List Ability :=
  [⟨"g", "m", 1, true, 0, 0, none⟩, ⟨"g", "m", 2, true, 0, 0, none⟩]

theorem drawAbility_shares_single :
    ((Finset.range 10).filter fun rand : ℕ =>
      drawIndex (· ≤ 0) drawWeight (twoAbilities.take 1) rand = some 0).card = 10 :=
  (@drawAbility_shares_iff ⟨.empty, []⟩ (twoAbilities.take 1) (by decide) (by decide)).2.mpr rfl 0
    _ rfl

/-- Of 20 numbers, 11 draw the first ability and 9 the second. -/
theorem drawAbility_uneven :
    intWeightSum twoAbilities = 20 ∧
      ((Finset.range 20).filter fun rand : ℕ =>
        drawIndex (· ≤ 0) drawWeight twoAbilities rand = some 0).card = 11 ∧
      ((Finset.range 20).filter fun rand : ℕ =>
        drawIndex (· ≤ 0) drawWeight twoAbilities rand = some 1).card = 9 := by
  decide

/-- The channels that can be drawn from the rows of a level. -/
lemma exists_getChannelWithCondition_iff {p : ℤ} (requestPath : String)
    (condition : Option (Channel → Bool)) (c : Channel)
    (hp : levelAt ((db.enabledAbilities group model).map Ability.priority) retry = some p)
    (hfirst : ∀ a ∈ db.enabledAbilities group model, ∃ c, db.first a.channelId = .ok c) :
    (∃ rand,
        db.getChannelWithCondition group model retry requestPath condition rand = .ok (some c)) ↔
      ∃ a ∈ db.enabledAbilities group model, a.priority = p ∧ db.first a.channelId = .ok c ∧
        c.SupportsPath requestPath a.model ∧ c.Satisfies condition := by
  let rows := (db.enabledAbilities group model).filter (·.priority = p)
  let served := db.filterAbilitiesByRequestPath
    (rows.insertionSort fun a b => a.weight ≥ b.weight) requestPath
  have hserved : ∀ a c, db.first a.channelId = .ok c → (a ∈ served ↔
      (a ∈ db.enabledAbilities group model ∧ a.priority = p) ∧
        c.SupportsPath requestPath a.model) := by
    intro a c hc
    simp [served, rows, mem_filterAbilities hc]
  have hsub : ∀ a ∈ served, ∃ c, db.first a.channelId = .ok c := by
    intro a ha
    have hrow : a ∈ rows := by
      simpa using mem_of_mem_filterAbilities ha
    exact hfirst a (mem_of_mem_filter hrow)
  obtain ⟨abilities, heq, hmem⟩ := filterAbilitiesBy_eq_ok condition hsub
  have hdrawn : ∀ rand : ℕ,
      db.getChannelWithCondition group model retry requestPath condition rand =
        db.drawAbility abilities rand := by
    intro rand
    simp only [getChannelWithCondition, getChannelQuery_eq hp]
    show (db.filterAbilitiesByCondition condition served >>= _) = _
    rw [heq]
    rfl
  simp only [hdrawn, exists_drawAbility_iff]
  constructor
  · rintro ⟨a, ha, hc⟩
    obtain ⟨hserve, hsat⟩ := (hmem a c hc).mp ha
    obtain ⟨⟨hrow, hlevel⟩, hpath⟩ := (hserved a c hc).mp hserve
    exact ⟨a, hrow, hlevel, hc, hpath, hsat⟩
  · rintro ⟨a, hrow, hlevel, hc, hpath, hsat⟩
    exact ⟨a, (hmem a c hc).mpr ⟨(hserved a c hc).mpr ⟨⟨hrow, hlevel⟩, hpath⟩, hsat⟩, hc⟩

/-- Without rows nothing is returned. -/
lemma getChannelWithCondition_of_nil (retry : ℕ) (requestPath : String)
    (condition : Option (Channel → Bool)) (rand : ℕ) (c : Channel)
    (hrows : db.enabledAbilities group model = []) :
    db.getChannelWithCondition group model retry requestPath condition rand ≠ .ok (some c) := by
  intro h
  by_cases hretry : retry = 0
  · have hquery : db.getChannelQuery group model retry = .ok [] := by
      simp [getChannelQuery, hretry, hrows]
    simp [getChannelWithCondition, hquery, bind, Except.bind, filterAbilitiesByRequestPath,
      filterAbilitiesByCondition, drawAbility] at h
  · have hquery : db.getChannelQuery group model retry = .error "数据库一致性被破坏" := by
      simp [getChannelQuery, hretry, hrows, getPriority, bind, Except.bind]
    simp [getChannelWithCondition, hquery, bind, Except.bind] at h

end ChannelDB

/-! ### The channels that the database can return -/

section

variable (channels : Table Channel) (group model : String)

def listed : List Channel := channels.rows.filter (·.Lists group model)

/-- The listed channels whose row for the group and the model was written. -/
def withAbility : List Channel := (listed channels group model).filter (·.HasAbility group model)

/-- The channels that `GetChannelWithCondition` returns for some draw. -/
def databaseChannels (retry : ℕ) (requestPath : String) (condition : Option (Channel → Bool)) :
    Set Channel :=
  { c | ∃ rand, (ChannelDB.ofChannels channels).getChannelWithCondition group model retry
      requestPath condition rand = .ok (some c) }

variable {channels group model} {c : Channel}

@[simp] lemma mem_listed :
    c ∈ listed channels group model ↔ c ∈ channels ∧ c.Lists group model := by
  simp [listed, Table.mem_def]

@[simp] lemma mem_withAbility :
    c ∈ withAbility channels group model ↔
      c ∈ listed channels group model ∧ c.HasAbility group model := by
  simp [withAbility]

lemma mem_enabledAbilities :
    a ∈ (ChannelDB.ofChannels channels).enabledAbilities group model ↔
      ∃ c ∈ withAbility channels group model, c.ability (group, model) = a := by
  simp only [ChannelDB.enabledAbilities, ChannelDB.ofChannels, mem_filter, mem_abilitiesOf,
    mem_addAbilities, decide_eq_true_eq, mem_withAbility, mem_listed]
  constructor
  · rintro ⟨⟨c, hc, group', model', hhas, rfl⟩, rfl, rfl, henabled⟩
    obtain ⟨hstatus, hmodel⟩ : c.status = .enabled ∧ model' ∉ c.getDisabledModelSet := by
      simpa [ability] using henabled
    obtain ⟨hgroup, hmem⟩ := mem_abilityPairs.mp hhas.mem_abilityPairs
    exact ⟨c, ⟨⟨hc, hstatus, hgroup, hmem, hmodel⟩, hhas⟩, rfl⟩
  · rintro ⟨c, ⟨⟨hc, hstatus, -, -, hmodel⟩, hhas⟩, rfl⟩
    exact ⟨⟨c, hc, group, model, hhas, rfl⟩, rfl, rfl, by simp [ability, hstatus, hmodel]⟩

/-- The level that the query takes is one of the channels with a row. -/
lemma levelAt_enabledAbilities (retry : ℕ) :
    levelAt (((ChannelDB.ofChannels channels).enabledAbilities group model).map Ability.priority)
        retry =
      levelAt ((withAbility channels group model).map getPriority) retry := by
  apply levelAt_congr
  intro p
  simp only [mem_map, mem_enabledAbilities]
  constructor
  · rintro ⟨_, ⟨c, hc, rfl⟩, rfl⟩
    exact ⟨c, hc, rfl⟩
  · rintro ⟨c, hc, rfl⟩
    exact ⟨_, ⟨c, hc, rfl⟩, rfl⟩

/-- The level is chosen before the path and the condition are looked at. -/
lemma mem_databaseChannels {requestPath : String} {condition : Option (Channel → Bool)} :
    c ∈ databaseChannels channels group model retry requestPath condition ↔
      c ∈ withAbility channels group model ∧
        levelAt ((withAbility channels group model).map getPriority) retry = some c.getPriority ∧
        c.SupportsPath requestPath model ∧ c.Satisfies condition := by
  have hfirst : ∀ c ∈ withAbility channels group model,
      (ChannelDB.ofChannels channels).first (c.ability (group, model)).channelId = .ok c := by
    intro c hc
    exact ChannelDB.first_eq_ok.mpr ⟨(mem_listed.mp (mem_withAbility.mp hc).1).1, rfl⟩
  rw [databaseChannels, Set.mem_ofPred_eq]
  cases hlevel : levelAt ((withAbility channels group model).map getPriority) retry with
  | none =>
    have hnil : withAbility channels group model = [] := by
      simpa using levelAt_eq_none.mp hlevel
    have hrows : (ChannelDB.ofChannels channels).enabledAbilities group model = [] := by
      simp [eq_nil_iff_forall_not_mem, mem_enabledAbilities, hnil]
    simp [ChannelDB.getChannelWithCondition_of_nil retry requestPath condition _ c hrows]
  | some p =>
    rw [ChannelDB.exists_getChannelWithCondition_iff requestPath condition c
      ((levelAt_enabledAbilities retry).trans hlevel)]
    · simp only [mem_enabledAbilities]
      constructor
      · rintro ⟨_, ⟨d, hd, rfl⟩, hp, hc, hpath, hsat⟩
        obtain rfl : c = d := Except.ok.inj (hc.symm.trans (hfirst d hd))
        exact ⟨hd, congrArg some hp.symm, hpath, hsat⟩
      · rintro ⟨hc, hp, hpath, hsat⟩
        exact ⟨_, ⟨c, hc, rfl⟩, (Option.some.inj hp).symm, hfirst c hc, hpath, hsat⟩
    · intro a ha
      obtain ⟨c, hc, rfl⟩ := mem_enabledAbilities.mp ha
      exact ⟨c, hfirst c hc⟩

end

end XinghaiApi
