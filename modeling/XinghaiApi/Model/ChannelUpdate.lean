import XinghaiApi.Lib.Keyed
import XinghaiApi.Model.ChannelCacheUpdate

/-!
# Operations on channels

What inserts a channel, edits it, switches it, one of its keys or one of its models on and off,
alone or with all channels of a tag. Each operation writes the row of the channel, then the rows of
its abilities, and where the memory cache is on also the cache.
-/

namespace XinghaiApi

open Machine Selection Text

/-! ### Keys -/

section

-- how the JSON library reads an array of raw messages
variable (unmarshal : String → Option (List String))

def Channel.getKeys (c : Channel) : List String :=
  let lines := split '\n' (trimSep '\n' c.key)
  if c.key = "" then []
  else if hasPrefix (trimSpace c.key) "[" then (unmarshal (trimSpace c.key)).getD lines
  else lines

/-- The keys that `Update` counts; other than in `GetKeys`, an empty array is read as lines. -/
def countedKeys (key : String) : List String :=
  if key = "" then []
  else
    let arr := if hasPrefix (trimSpace key) "[" then (unmarshal (trimSpace key)).getD [] else []
    if arr = [] then split '\n' (trimSep '\n' key) else arr

def hasEnabledMultiKey (keys : List String) (statusList : ℕ → Option ChannelStatus) : Bool :=
  (List.range keys.length).any fun i => (statusList i).getD .enabled = .enabled

def ChannelInfo.setKeyStatus (now : ℤ) (keyIndex : ℕ) (status : ChannelStatus) (reason : String)
    (info : ChannelInfo) : ChannelInfo :=
  if status = .enabled then
    { info with multiKeyStatusList := Function.update info.multiKeyStatusList keyIndex none }
  else
    { info with
      multiKeyStatusList := Function.update info.multiKeyStatusList keyIndex (some status)
      multiKeyDisabledReason := Function.update info.multiKeyDisabledReason keyIndex (some reason)
      multiKeyDisabledTime := Function.update info.multiKeyDisabledTime keyIndex (some now) }

def Channel.setStatus (now : ℤ) (status : ChannelStatus) (reason : String) (c : Channel) :
    Channel :=
  { c with
    status := status
    otherInfo := { statusReason := some reason, statusTime := some now } }

/-- Set the status of a key; the channel follows when no key is left or when the key is enabled. -/
def Channel.setKeyStatus (now : ℤ) (keyIndex : ℕ) (status : ChannelStatus) (reason : String)
    (c : Channel) : Channel :=
  let info := c.channelInfo.setKeyStatus now keyIndex status reason
  let c' := { c with channelInfo := info }
  if ¬hasEnabledMultiKey (c.getKeys unmarshal) info.multiKeyStatusList then
    c'.setStatus now .autoDisabled "All keys are disabled"
  else if status = .enabled then c'.withStatus .enabled
  else c'

def Channel.handlerMultiKeyUpdate (now : ℤ) (usingKey : String) (status : ChannelStatus)
    (reason : String) (c : Channel) : Channel :=
  if c.getKeys unmarshal = [] then c.withStatus status
  else
    match (c.getKeys unmarshal).findIdx? (· = usingKey) with
    | none          => if usingKey ≠ "" then c else c.setStatus now status reason
    | some keyIndex => c.setKeyStatus unmarshal now keyIndex status reason

end

/-! ### Abilities -/

/-- The columns that `UpdateAbilityByTag` writes. A weight of zero counts as not given. -/
def Ability.edit (newTag : Option String) (priority : Option ℤ) (weight : Option ℕ) (a : Ability) :
    Ability :=
  { a with
    tag := newTag.or a.tag
    priority := priority.getD a.priority
    weight := if weight.getD 0 = 0 then a.weight else weight.getD 0 }

abbrev Abilities := Keyed Ability.primaryKey

namespace Abilities

/-- Delete the rows of the channel and write them anew. -/
def updateAbilities (c : Channel) (abilities : Abilities) : Abilities :=
  (abilities.deleteWhere (·.channelId = c.id)).insertAll c.addAbilities

def updateEnabled (p : Ability → Bool) (enabled : Bool) (abilities : Abilities) : Abilities :=
  abilities.updateWhere p (fun a => { a with enabled := enabled }) fun _ => rfl

def updateAbilityStatus (channelId : ℤ) (status : Bool) (abilities : Abilities) : Abilities :=
  abilities.updateEnabled (·.channelId = channelId) status

def updateAbilityStatusByTag (tag : String) (status : Bool) (abilities : Abilities) : Abilities :=
  abilities.updateEnabled (·.tag = some tag) status

def updateAbilityByTag (tag : String) (newTag : Option String) (priority : Option ℤ)
    (weight : Option ℕ) (abilities : Abilities) : Abilities :=
  abilities.updateWhere (·.tag = some tag) (Ability.edit newTag priority weight) fun _ => rfl

end Abilities

/-! ### Models -/

namespace Channel

def getModels (c : Channel) : List String :=
  if c.models = "" then [] else split ',' (trimSep ',' c.models)

/-- `GetDisabledModelSet` as a map. -/
def disabledModelSet (c : Channel) : ModelSet :=
  c.getDisabledModelSet.foldl (fun set model => set.insert model true) ∅

def toggledSet (model : String) (disabled : Bool) (c : Channel) : ModelSet :=
  if disabled then c.disabledModelSet.insert model true else c.disabledModelSet.erase model

end Channel

/-! ### The store -/

/-- The tables of channels and abilities, and the memory cache where it is on. -/
structure ChannelStore where
  channels : Table Channel
  abilities : Abilities
  memoryCache : Option MemoryCache

namespace ChannelStore

def initChannelCache (s : ChannelStore) : ChannelStore :=
  { s with memoryCache := s.memoryCache.map fun _ =>
      MemoryCache.initChannelCache { channels := s.channels, abilities := s.abilities.rows } }

/-- Save all columns but the key; a channel without an id is refused. -/
def saveWithoutKey (c : Channel) (s : ChannelStore) : Option ChannelStore :=
  if c.id = 0 then none
  else some { s with channels := s.channels.modify c.id fun old => { c with key := old.key } }

/-! ### Insertion and update of a whole channel -/

/-- A channel as the database creates it, with the defaults of its columns. -/
def created (c : Channel) : Channel :=
  { c with
    status := if c.status = .unknown then .enabled else c.status
    weight := some c.getWeight
    priority := some c.getPriority }

/-- The database gives the channel its id. -/
def insert (c : Channel) (s : ChannelStore) : ChannelStore :=
  { s with
    channels := s.channels.insert (created c)
    abilities := s.abilities.insertAll (Row.withKey s.channels.next (created c)).addAbilities }

/-- The argument of `Update`. The columns with a zero value are not written, so they are `none`; the
disabled models and the quota limit are written also where they are zero. -/
structure Patch where
  id : ℤ
  type : Option ℤ := none
  key : Option String := none
  status : Option ChannelStatus := none
  backupChannelId : Option ℤ := none
  weight : Option ℕ := none
  models : Option String := none
  group : Option String := none
  usedQuota : Option ℤ := none
  quotaLimit : ℤ := 0
  disabledModels : String := ""
  priority : Option ℤ := none
  otherInfo : Option OtherInfo := none
  tag : Option String := none
  channelInfo : Option ChannelInfo := none

namespace Patch

variable (unmarshal : String → Option (List String))

/-- The info with its number of keys counted again and without the statuses beyond it. -/
def countKeys (key : String) (info : ChannelInfo) : ChannelInfo :=
  if info.isMultiKey then
    let size := (countedKeys unmarshal key).length
    { info with
      multiKeySize := size
      multiKeyStatusList := fun i => if i < size then info.multiKeyStatusList i else none }
  else info

/-- The row after the update. -/
def apply (patch : Patch) (c : Channel) : Channel :=
  { c with
    type := patch.type.getD c.type
    key := patch.key.getD c.key
    status := patch.status.getD c.status
    backupChannelId := patch.backupChannelId.or c.backupChannelId
    weight := patch.weight.or c.weight
    models := patch.models.getD c.models
    group := patch.group.getD c.group
    usedQuota := patch.usedQuota.getD c.usedQuota
    quotaLimit := patch.quotaLimit
    disabledModels := patch.disabledModels
    priority := patch.priority.or c.priority
    otherInfo := patch.otherInfo.getD c.otherInfo
    tag := patch.tag.or c.tag
    channelInfo := (patch.channelInfo.map
      (countKeys unmarshal (patch.key.getD c.key))).getD c.channelInfo }

/-- The argument itself, for a channel that the table does not have. -/
def toChannel (patch : Patch) : Channel :=
  patch.apply unmarshal
    { id := patch.id, type := 0, status := .unknown, models := "", group := "" }

end Patch

section

variable (unmarshal : String → Option (List String))

/-- Without an id there is no row to update. What the table has under the id is read back before the
abilities are written, and where it has nothing they are written for the argument. -/
def update (patch : Patch) (s : ChannelStore) : ChannelStore :=
  if patch.id = 0 then s
  else
    let channels := s.channels.modify patch.id (patch.apply unmarshal)
    let channel := (channels.find patch.id).getD (patch.toChannel unmarshal)
    { s with
      channels := channels
      abilities := s.abilities.updateAbilities channel }

/-! ### Status of a channel and of its keys -/

/-- The backup channel that takes over from a channel, if it is there and not enabled. -/
def backupOf (channel : Channel) (s : ChannelStore) : Option Channel := do
  let backupId ← channel.backupChannelId
  if backupId ≤ 0 ∨ backupId = channel.id then none
  else
    let backup ← s.channels.find backupId
    if backup.status = .enabled then none else some backup

def activateBackupChannel (now : ℤ) (channel : Channel) (s : ChannelStore) : ChannelStore :=
  match s.backupOf channel with
  | none        => s
  | some backup =>
    let enabled := backup.setStatus now .enabled s!"Activated as backup for channel #{channel.id}"
    match s.saveWithoutKey enabled with
    | none   => s
    | some s =>
      { s with abilities := s.abilities.updateAbilityStatus backup.id true }.initChannelCache

/-- The part of `UpdateChannelStatus` on the cache; `none` where it returns. -/
def cacheStatus (now id : ℤ) (usingKey : String) (status : ChannelStatus) (reason : String)
    (cache : MemoryCache) : Option MemoryCache :=
  match cache.channelsIDM.find id with
  | none   => none
  | some c =>
    if c.channelInfo.isMultiKey then
      let c' := c.handlerMultiKeyUpdate unmarshal now usingKey status reason
      let cache := { cache with channelsIDM := cache.channelsIDM.save c' }
      some (if c.status ≠ c'.status then cache.cacheUpdateChannelStatus id c'.status else cache)
    else if c.status = status then none
    else some (cache.cacheUpdateChannelStatus id status)

/-- The channel with the status that `UpdateChannelStatus` gives it. -/
def switched (now : ℤ) (usingKey : String) (status : ChannelStatus) (reason : String)
    (c : Channel) : Channel :=
  if c.channelInfo.isMultiKey then c.handlerMultiKeyUpdate unmarshal now usingKey status reason
  else c.setStatus now status reason

/-- The deferred update of the abilities: models that are disabled stay so when the channel is
enabled. -/
def deferAbilities (status : ChannelStatus) (c : Channel) (s : ChannelStore) : ChannelStore :=
  { s with abilities :=
      if status = .enabled then s.abilities.updateAbilities c
      else s.abilities.updateAbilityStatus c.id false }

section

variable (now id : ℤ) (usingKey : String) (status : ChannelStatus) (reason : String)
  (s : ChannelStore)

/-- The part of `UpdateChannelStatus` on the database, with what it returns. -/
def storeStatus : ChannelStore × Bool :=
  match s.channels.find id with
  | none         => (s, false)
  | some channel =>
    if channel.status = status then (s, false)
    else
      let updated := switched unmarshal now usingKey status reason channel
      let finish (s : ChannelStore) :=
        if channel.channelInfo.isMultiKey ∧ channel.status = updated.status then s
        else s.deferAbilities status updated
      match s.saveWithoutKey updated with
      | none   => (finish s, false)
      | some s =>
        let s := if status ≠ .enabled ∧ updated.status ≠ .enabled then
          s.activateBackupChannel now updated else s
        (finish s, true)

def updateChannelStatus : ChannelStore × Bool :=
  match s.memoryCache with
  | none       => s.storeStatus unmarshal now id usingKey status reason
  | some cache =>
    match cacheStatus unmarshal now id usingKey status reason cache with
    | none       => (s, false)
    | some cache =>
      { s with memoryCache := some cache }.storeStatus unmarshal now id usingKey status reason

end

def keyAt (keyIndex : ℤ) (c : Channel) : Option String :=
  if c.channelInfo.isMultiKey ∧ 0 ≤ keyIndex then (c.getKeys unmarshal)[keyIndex.toNat]? else none

section

variable (now id keyIndex : ℤ) (status : ChannelStatus) (reason : String)

/-- The part of `UpdateMultiKeyStatus` on the cache; `none` where it returns. -/
def cacheKeyStatus (cache : MemoryCache) : Option MemoryCache := do
  let c ← cache.channelsIDM.find id
  let key ← keyAt unmarshal keyIndex c
  let c' := c.handlerMultiKeyUpdate unmarshal now key status reason
  let cache := { cache with channelsIDM := cache.channelsIDM.save c' }
  some (if c.status ≠ c'.status then cache.cacheUpdateChannelStatus id c'.status else cache)

/-- The part of `UpdateMultiKeyStatus` on the database. The deferred update switches all abilities
of the channel. -/
def storeKeyStatus (s : ChannelStore) : ChannelStore × Bool :=
  match s.channels.find id with
  | none         => (s, false)
  | some channel =>
    match keyAt unmarshal keyIndex channel with
    | none     => (s, false)
    | some key =>
      let updated := channel.handlerMultiKeyUpdate unmarshal now key status reason
      let finish (s : ChannelStore) : ChannelStore :=
        if channel.status = updated.status then s
        else { s with abilities := s.abilities.updateAbilityStatus id (status = .enabled) }
      match s.saveWithoutKey updated with
      | none   => (finish s, false)
      | some s =>
        let s := if channel.status ≠ updated.status ∧ updated.status ≠ .enabled then
          s.activateBackupChannel now updated else s
        (finish s, true)

def updateMultiKeyStatus (s : ChannelStore) : ChannelStore × Bool :=
  match s.memoryCache with
  | none       => s.storeKeyStatus unmarshal now id keyIndex status reason
  | some cache =>
    match cacheKeyStatus unmarshal now id keyIndex status reason cache with
    | none       => (s, false)
    | some cache =>
      { s with memoryCache := some cache }.storeKeyStatus unmarshal now id keyIndex status reason

end

end

/-! ### One model of a channel -/

def toggleChannelModelDisabled (id : ℤ) (model : String) (disabled : Bool) (s : ChannelStore) :
    Except String (ChannelStore × Channel) :=
  match s.channels.find id with
  | none         => .error "record not found"
  | some channel =>
    let model := trimSpace model
    if model = "" then .error "model name cannot be empty"
    else if model ∉ channel.getModels then .error "model is not in the channel's model list"
    else if channel.disabledModelSet.Disables model ↔ disabled = true then .ok (s, channel)
    else
      let set := channel.toggledSet model disabled
      let channel := channel.withDisabledModels set
      match s.saveWithoutKey channel with
      | none   => .error "channel ID is 0"
      | some s =>
        let enabled := decide (channel.status = .enabled) && !disabled
        .ok ({ s with
          abilities :=
            s.abilities.updateEnabled (fun a => a.channelId = id ∧ a.model = model) enabled
          memoryCache := s.memoryCache.map (·.cacheUpdateChannelDisabledModels id set) }, channel)

/-! ### All channels of a tag -/

def enableChannelByTag (tag : String) (s : ChannelStore) : ChannelStore :=
  { s with
    channels := s.channels.modifyWhere (·.tag = some tag) (Channel.withStatus .enabled)
    abilities := s.abilities.updateAbilityStatusByTag tag true }

def disableChannelByTag (tag : String) (s : ChannelStore) : ChannelStore :=
  { s with
    channels := s.channels.modifyWhere (·.tag = some tag) (Channel.withStatus .manuallyDisabled)
    abilities := s.abilities.updateAbilityStatusByTag tag false }

/-- What `EditChannelByTag` is given besides the tag. -/
structure TagEdit where
  newTag : Option String := none
  models : Option String := none
  group : Option String := none
  priority : Option ℤ := none
  weight : Option ℕ := none
deriving DecidableEq

namespace TagEdit

def updatedTag (edit : TagEdit) (tag : String) : String := edit.newTag.getD tag

/-- The abilities have to be written anew when models or groups are given. -/
def shouldReCreateAbilities (edit : TagEdit) : Prop :=
  edit.models.getD "" ≠ "" ∨ edit.group.getD "" ≠ ""

instance (edit : TagEdit) : Decidable edit.shouldReCreateAbilities :=
  inferInstanceAs (Decidable (_ ∨ _))

def apply (edit : TagEdit) (c : Channel) : Channel :=
  { c with
    tag := edit.newTag.or c.tag
    models := if edit.models.getD "" = "" then c.models else edit.models.getD ""
    group := if edit.group.getD "" = "" then c.group else edit.group.getD ""
    priority := edit.priority.or c.priority
    weight := edit.weight.or c.weight }

end TagEdit

def editChannelByTag (tag : String) (edit : TagEdit) (s : ChannelStore) : ChannelStore :=
  let channels := s.channels.modifyWhere (·.tag = some tag) edit.apply
  { s with
    channels := channels
    abilities :=
      if edit.shouldReCreateAbilities then
        (channels.rows.filter (·.tag = some (edit.updatedTag tag))).foldl
          (fun abilities c => abilities.updateAbilities c) s.abilities
      else s.abilities.updateAbilityByTag tag edit.newTag edit.priority edit.weight }

/-! ### Steps -/

inductive Op where
  | insert (c : Channel)
  | update (patch : Patch)
  | updateChannelStatus (now id : ℤ) (usingKey : String) (status : ChannelStatus) (reason : String)
  | updateMultiKeyStatus (now id keyIndex : ℤ) (status : ChannelStatus) (reason : String)
  | toggleChannelModelDisabled (id : ℤ) (model : String) (disabled : Bool)
  | enableChannelByTag (tag : String)
  | disableChannelByTag (tag : String)
  | editChannelByTag (tag : String) (edit : TagEdit)
  | activateBackupChannel (now : ℤ) (channel : Channel)
  /-- the rebuild of the cache that runs in the background -/
  | initChannelCache

def step (unmarshal : String → Option (List String)) (s : ChannelStore) : Op → ChannelStore
  | .insert c                => s.insert c
  | .update patch            => s.update unmarshal patch
  | .updateChannelStatus now id usingKey status reason =>
    (s.updateChannelStatus unmarshal now id usingKey status reason).1
  | .updateMultiKeyStatus now id keyIndex status reason =>
    (s.updateMultiKeyStatus unmarshal now id keyIndex status reason).1
  | .toggleChannelModelDisabled id model disabled =>
    match s.toggleChannelModelDisabled id model disabled with
    | .error _    => s
    | .ok (s, _) => s
  | .enableChannelByTag tag  => s.enableChannelByTag tag
  | .disableChannelByTag tag => s.disableChannelByTag tag
  | .editChannelByTag tag edit => s.editChannelByTag tag edit
  | .activateBackupChannel now channel => s.activateBackupChannel now channel
  | .initChannelCache        => s.initChannelCache

end ChannelStore

end XinghaiApi
