import XinghaiApi.Model.AbilityMirror.Basic
import XinghaiApi.Model.BatchUpdate

/-!
# The quota limit of channels and its cache

A channel may have a limit on its used quota. The limit and the used quota are read from Redis where
there is an entry, and from the database otherwise. Increments of the cached used quota run in the
background; those of the database are direct or batched.
-/

namespace XinghaiApi

open Machine Pending

structure ChannelQuotaCache where
  quotaLimit : ℤ
  usedQuota : ℤ
deriving DecidableEq

/-- What runs on Redis in the background. -/
inductive CacheJob where
  | incr (channelId delta : ℤ)
  | populate (channelId quotaLimit usedQuota : ℤ)
deriving DecidableEq

/-- The database with its batched updates, and the caches of channels. -/
structure ChannelQuotaState where
  batch : BatchState
  abilities : Abilities
  memoryCache : Option MemoryCache
  /-- the entries in Redis, which do not expire -/
  redis : ℤ → Option ChannelQuotaCache
  jobs : List CacheJob

def QuotaTables.updateUserUsedQuotaAndRequestCount (id quota count : ℤ) (db : QuotaTables) :
    QuotaTables :=
  { db with users := db.users.modify id fun u =>
      { u with usedQuota := u.usedQuota + quota, requestCount := u.requestCount + count } }

lemma QuotaTables.updateUserUsedQuota_eq {db : QuotaTables} (id quota count : ℤ) :
    db.updateUserUsedQuotaAndRequestCount id quota count =
      db.plus (.single .usedQuota id quota + .single .requestCount id count) := by
  unfold updateUserUsedQuotaAndRequestCount plus
  rw [Table.modifyWhere_eq_self (t := db.tokens) (by simp [Deltas.single]),
    Table.modifyWhere_eq_self (t := db.channels) (by simp [Deltas.single])]
  congr 1
  apply Table.modifyWhere_congr
  intro u
  by_cases hid : u.id = id <;> simp [Row.key, Row.withKey, Deltas.single, hid]

namespace ChannelQuotaState

/-! ### The cache -/

/-- A missing entry is not incremented. -/
def cacheIncrChannelUsedQuota (channelId delta : ℤ) (s : ChannelQuotaState) : ChannelQuotaState :=
  let entry := (s.redis channelId).map fun cache =>
    { cache with usedQuota := cache.usedQuota + delta }
  { s with redis := Function.update s.redis channelId entry }

def populateChannelQuotaCache (channelId quotaLimit usedQuota : ℤ) (s : ChannelQuotaState) :
    ChannelQuotaState :=
  { s with redis := Function.update s.redis channelId (some ⟨quotaLimit, usedQuota⟩) }

def runJob (s : ChannelQuotaState) : CacheJob → ChannelQuotaState
  | .incr channelId delta => s.cacheIncrChannelUsedQuota channelId delta
  | .populate channelId quotaLimit usedQuota =>
    s.populateChannelQuotaCache channelId quotaLimit usedQuota

def go (job : CacheJob) (s : ChannelQuotaState) : ChannelQuotaState :=
  { s with jobs := s.jobs ++ [job] }

/-- The limit and the used quota of a channel, with the job that caches what the database says. -/
def getChannelQuotaLimit (channelId : ℤ) (fromDB : Bool) (s : ChannelQuotaState) :
    Except Error (ℤ × ℤ × List CacheJob) :=
  let database :=
    match s.batch.db.channels.find channelId with
    | none    => .error .recordNotFound
    | some ch => .ok (ch.quotaLimit, ch.usedQuota, [.populate channelId ch.quotaLimit ch.usedQuota])
  if fromDB then database
  else
    match s.redis channelId with
    | some cache => .ok (cache.quotaLimit, cache.usedQuota, [])
    | none       => database

/-- A channel without a limit never exceeds it. -/
def exceeds (quotaLimit usedQuota : ℤ) : Bool := 0 < quotaLimit ∧ quotaLimit ≤ usedQuota

def channelQuotaExceeded (channelId : ℤ) (s : ChannelQuotaState) : Bool × ChannelQuotaState :=
  match s.getChannelQuotaLimit channelId false with
  | .error _ => (false, s)
  | .ok (quotaLimit, usedQuota, jobs) =>
    (exceeds quotaLimit usedQuota, { s with jobs := s.jobs ++ jobs })

/-! ### The used quota -/

section

variable (batchUpdateEnabled : Bool)

def updateChannelUsedQuota (id quota : ℤ) (s : ChannelQuotaState) : ChannelQuotaState :=
  if batchUpdateEnabled then { s with batch := s.batch.addNewRecord .channelUsedQuota id quota }
  else { s with batch := { s.batch with db := s.batch.db.updateChannelUsedQuota id quota } }

def increaseChannelUsedQuota (channelId quota : ℤ) (s : ChannelQuotaState) : ChannelQuotaState :=
  if quota = 0 then s
  else (s.go (.incr channelId quota)).updateChannelUsedQuota batchUpdateEnabled channelId quota

def decreaseChannelUsedQuota (channelId quota : ℤ) (s : ChannelQuotaState) : ChannelQuotaState :=
  if quota = 0 then s
  else
    (s.go (.incr channelId (-quota))).updateChannelUsedQuota batchUpdateEnabled channelId (-quota)

def updateUserUsedQuotaAndRequestCount (id quota : ℤ) (s : ChannelQuotaState) : ChannelQuotaState :=
  if batchUpdateEnabled then
    { s with batch := (s.batch.addNewRecord .usedQuota id quota).addNewRecord .requestCount id 1 }
  else
    { s with batch :=
        { s.batch with db := s.batch.db.updateUserUsedQuotaAndRequestCount id quota 1 } }

end

/-! ### The status -/

/-- The part of the state that the operations on channels work on. -/
def store (s : ChannelQuotaState) : ChannelStore :=
  ⟨s.batch.db.channels, s.abilities, s.memoryCache⟩

def withStore (store : ChannelStore) (s : ChannelQuotaState) : ChannelQuotaState :=
  { s with
    batch := { s.batch with db := { s.batch.db with channels := store.channels } }
    abilities := store.abilities
    memoryCache := store.memoryCache }

/-- Disable an enabled channel that has reached its limit. -/
def checkAndDisableChannelOnQuotaExceeded (unmarshal : String → Option (List String))
    (formatQuota : ℤ → String) (now channelId : ℤ) (s : ChannelQuotaState) : ChannelQuotaState :=
  match s.getChannelQuotaLimit channelId false with
  | .error _ => s
  | .ok (quotaLimit, usedQuota, jobs) =>
    let s := { s with jobs := s.jobs ++ jobs }
    if ¬exceeds quotaLimit usedQuota then s
    else
      match s.batch.db.channels.find channelId with
      | none         => s
      | some channel =>
        if channel.status ≠ .enabled then s
        else
          let reason := s!"渠道额度已达上限（限额 {formatQuota quotaLimit}，已用 {formatQuota usedQuota}）"
          s.withStore
            (s.store.updateChannelStatus unmarshal now channelId "" .autoDisabled reason).1

end ChannelQuotaState

/-! ### A change of the status leaves the quotas -/

namespace ChannelStore

def quotas (s : ChannelStore) (k : ℤ) : Option (ℤ × ℤ) :=
  (s.channels.find k).map fun c => (c.quotaLimit, c.usedQuota)

section

variable {s s' : ChannelStore} {unmarshal : String → Option (List String)} {now id k : ℤ}
  {c channel : Channel} {usingKey reason : String} {status : ChannelStatus}

lemma quotas_saveWithoutKey (hsave : s.saveWithoutKey c = some s')
    (hold : s.channels.find c.id = some channel)
    (hquota : (c.quotaLimit, c.usedQuota) = (channel.quotaLimit, channel.usedQuota)) :
    s'.quotas k = s.quotas k := by
  rw [quotas, find_saveWithoutKey hsave hold]
  split_ifs with hk
  · subst hk
    rw [quotas, hold, Option.map_some, Option.map_some, ← hquota]
  · rfl

lemma quotas_activateBackup : (s.activateBackupChannel now channel).quotas k = s.quotas k := by
  unfold activateBackupChannel
  split
  · rfl
  next backup hbackup =>
    dsimp only
    split
    · rfl
    next s₁ hsave =>
      show s₁.quotas k = s.quotas k
      exact quotas_saveWithoutKey hsave (backupOf_eq_some hbackup).1 rfl

lemma quotas_storeStatus :
    (s.storeStatus unmarshal now id usingKey status reason).1.quotas k = s.quotas k := by
  unfold storeStatus
  split
  · rfl
  next channel hfind =>
    obtain ⟨_, _, _, hswitched⟩ : ∃ _ _ _,
        switched unmarshal now usingKey status reason channel = _ := Channel.exists_switched
    have hdefer : ∀ (p : Prop) [Decidable p] (t : ChannelStore) (c : Channel),
        (if p then t else t.deferAbilities status c).quotas k = t.quotas k := by
      intro p _ t c
      split_ifs <;> rfl
    split_ifs
    · rfl
    · dsimp only
      split
      · exact hdefer _ s _
      next s₁ hsave =>
        have hsaved : s₁.quotas k = s.quotas k := by
          obtain ⟨-, rfl⟩ := Table.find_eq_some_iff.mp hfind
          rw [hswitched] at hsave
          exact quotas_saveWithoutKey hsave hfind rfl
        rw [hdefer]
        split_ifs
        · rw [quotas_activateBackup, hsaved]
        · exact hsaved

lemma quotas_updateChannelStatus :
    (s.updateChannelStatus unmarshal now id usingKey status reason).1.quotas k = s.quotas k := by
  unfold updateChannelStatus
  split
  · exact quotas_storeStatus
  · split
    · rfl
    · exact quotas_storeStatus

end

end ChannelStore

end XinghaiApi
