import XinghaiApi.Model.Balance
import XinghaiApi.Model.BatchUpdate

/-!
# The quota of tokens under resets

`ResetTokenQuota` reads the used quota of a token, then adds what it has read to the remaining quota
and sets the used quota to zero in a second statement. Increases and decreases, direct or batched,
and other resets may come between the two.
-/

namespace XinghaiApi

open Machine Pending QuotaTables

/-- A call of `ResetTokenQuota`. -/
inductive ResetCall where
  /-- has read the used quota -/
  | writing (id usedQuota : ℤ)
  | returned (r : Except Error Unit)

structure TokenQuotaState where
  batch : BatchState
  resets : List ResetCall

inductive TokenQuotaEvent where
  | increaseTokenQuota (batched : Bool) (id quota : ℤ)
  | decreaseTokenQuota (batched : Bool) (id quota : ℤ)
  /-- a reset reads its token -/
  | resetTokenQuota (id : ℤ)
  /-- the `i`-th reset writes its token -/
  | resetWrite (i : ℕ)
  /-- what the batched updates do, those of other counters included -/
  | batch (e : BatchEvent)
deriving DecidableEq

def QuotaTables.decreaseTokenQuota (id quota : ℤ) (db : QuotaTables) : QuotaTables :=
  { db with tokens := db.tokens.modify id fun t =>
      { t with remainQuota := t.remainQuota - quota, usedQuota := t.usedQuota + quota } }

/-- The second statement of a reset. -/
def QuotaTables.resetTokenQuota (id usedQuota : ℤ) (db : QuotaTables) : QuotaTables :=
  { db with tokens := db.tokens.modify id fun t =>
      { t with remainQuota := t.remainQuota + usedQuota, usedQuota := 0, status := .enabled } }

namespace TokenQuotaState

def withDB (db : QuotaTables) (s : TokenQuotaState) : TokenQuotaState :=
  { s with batch := { s.batch with db := db } }

def increaseTokenQuota (batched : Bool) (id quota : ℤ) (s : TokenQuotaState) :
    Except Error TokenQuotaState :=
  if quota < 0 then .error .negativeQuota
  else if batched then .ok { s with batch := s.batch.addNewRecord .tokenQuota id quota }
  else .ok (s.withDB (s.batch.db.increaseTokenQuota id quota))

def decreaseTokenQuota (batched : Bool) (id quota : ℤ) (s : TokenQuotaState) :
    Except Error TokenQuotaState :=
  if quota < 0 then .error .negativeQuota
  else if batched then .ok { s with batch := s.batch.addNewRecord .tokenQuota id (-quota) }
  else .ok (s.withDB (s.batch.db.decreaseTokenQuota id quota))

def resetRead (id : ℤ) (s : TokenQuotaState) : ResetCall :=
  match s.batch.db.tokens.find id with
  | none       => .returned (.error .recordNotFound)
  | some token => if token.usedQuota ≤ 0 then .returned (.ok ()) else .writing id token.usedQuota

def step (s : TokenQuotaState) : TokenQuotaEvent → TokenQuotaState
  | .increaseTokenQuota batched id quota =>
    match s.increaseTokenQuota batched id quota with
    | .error _ => s
    | .ok s'   => s'
  | .decreaseTokenQuota batched id quota =>
    match s.decreaseTokenQuota batched id quota with
    | .error _ => s
    | .ok s'   => s'
  | .resetTokenQuota id => { s with resets := s.resets ++ [s.resetRead id] }
  | .resetWrite i =>
    match s.resets[i]? with
    | some (.writing id usedQuota) =>
      { s.withDB (s.batch.db.resetTokenQuota id usedQuota) with
        resets := s.resets.set i (.returned (.ok ())) }
    | _ => s
  | .batch e => { s with batch := s.batch.step e }

/-- A reset writes while the used quota is what it has read. -/
def ResetsWhatIsUsed (s : TokenQuotaState) : TokenQuotaEvent → Prop
  | .resetWrite i =>
    match s.resets[i]? with
    | some (.writing id usedQuota) => ∀ t ∈ s.batch.db.tokens.find id, t.usedQuota = usedQuota
    | _ => True
  | _ => True

end TokenQuotaState

/-! ### Totals -/

/-- The remaining and the used quota of a token together. -/
def QuotaTables.tokenTotal (db : QuotaTables) (id : ℤ) : Option ℤ :=
  (db.tokens.find id).map fun t => t.remainQuota + t.usedQuota

section

variable {s : TokenQuotaState} {db : QuotaTables} {id k quota : ℤ}

/-- Deltas move quota between the two columns. -/
lemma QuotaTables.tokenTotal_plus (d : Deltas) : (db.plus d).tokenTotal id = db.tokenTotal id := by
  rw [tokenTotal, plus, Table.find_modifyWhere, Option.map_map]
  congr 1
  funext t
  show t.remainQuota + d .tokenQuota t.id + (t.usedQuota - d .tokenQuota t.id) = _
  ring

lemma QuotaTables.decreaseTokenQuota_eq :
    db.decreaseTokenQuota id quota = db.increaseTokenQuota id (-quota) := by
  simp only [increaseTokenQuota, sub_neg_eq_add]
  rfl

/-- A step of the batched updates adds deltas to the rows, if any. -/
lemma BatchState.exists_db_step (s : BatchState) (e : BatchEvent) :
    ∃ d, (s.step e).db = s.db.plus d := by
  have hself : ∃ d, s.db = s.db.plus d := ⟨0, plus_zero.symm⟩
  cases e with
  | addNewRecord type id value => exact hself
  | batchUpdate => exact hself
  | next i key =>
    rw [step]
    split
    · exact hself
    next f _ =>
      show ∃ d, (f.next key s).1.db = s.db.plus d
      unfold Flush.next
      split
      any_goals exact hself
      · split_ifs <;> exact hself
      · split_ifs
        · exact hself
        · exact ⟨_, increaseTokenQuota_eq _⟩
        · exact hself
      · split_ifs
        · exact hself
        · exact ⟨_, updateChannelUsedQuota_eq _⟩
        · exact hself
      · split_ifs
        · exact hself
        · exact ⟨_, updateUserQuota_eq _ _ _⟩
        · exact hself

/-- A reset keeps the total just in case it gives back what is used. -/
lemma QuotaTables.tokenTotal_resetTokenQuota {usedQuota : ℤ} :
    (∀ k, (db.resetTokenQuota id usedQuota).tokenTotal k = db.tokenTotal k) ↔
      ∀ t ∈ db.tokens.find id, t.usedQuota = usedQuota := by
  have hfind : ∀ k, (db.resetTokenQuota id usedQuota).tokenTotal k =
      if k = id then (db.tokens.find k).map fun t => t.remainQuota + usedQuota
      else db.tokenTotal k := by
    intro k
    rw [tokenTotal, resetTokenQuota, Table.find_modify _ _ (by intro t; rfl)]
    split_ifs
    · rw [Option.map_map]
      congr 1
      funext t
      simp
    · rfl
  simp only [hfind]
  constructor
  · intro h t ht
    have := h id
    rw [if_pos rfl, tokenTotal, Option.mem_def.mp ht, Option.map_some, Option.map_some,
      Option.some.injEq] at this
    exact (add_left_cancel this).symm
  · intro h k
    split_ifs with hk
    · subst hk
      rw [tokenTotal]
      cases ht : db.tokens.find k with
      | none => rfl
      | some t => rw [Option.map_some, Option.map_some, h t ht]
    · rfl

end

namespace TokenQuotaState

def SameTotals (db : QuotaTables) (s : TokenQuotaState) : Prop :=
  ∀ id, s.batch.db.tokenTotal id = db.tokenTotal id

lemma sameTotals_step_iff {db : QuotaTables} {s : TokenQuotaState} (h : SameTotals db s)
    (e : TokenQuotaEvent) : SameTotals db (s.step e) ↔ s.ResetsWhatIsUsed e := by
  have hplus : ∀ {s' : TokenQuotaState} (d : Deltas), s'.batch.db = s.batch.db.plus d →
      SameTotals db s' := by
    intro s' d hd id
    rw [hd, tokenTotal_plus, h id]
  cases e with
  | increaseTokenQuota batched id quota =>
    simp only [ResetsWhatIsUsed, iff_true, step, increaseTokenQuota]
    split_ifs
    · exact h
    · exact h
    · exact hplus _ (increaseTokenQuota_eq quota)
  | decreaseTokenQuota batched id quota =>
    simp only [ResetsWhatIsUsed, iff_true, step, decreaseTokenQuota]
    split_ifs
    · exact h
    · exact h
    · exact hplus _ (decreaseTokenQuota_eq.trans (increaseTokenQuota_eq _))
  | resetTokenQuota id => exact iff_of_true h trivial
  | resetWrite i =>
    rw [step, ResetsWhatIsUsed]
    split
    next id usedQuota _ =>
      rw [← tokenTotal_resetTokenQuota]
      refine forall_congr' fun k => ?_
      rw [h k]
      rfl
    next => exact iff_of_true h trivial
  | batch e =>
    obtain ⟨d, hd⟩ := s.batch.exists_db_step e
    exact iff_of_true (hplus d hd) trivial

/-- The remaining and the used quota of every token together stay what they were in every state of a
run just in case every reset of the run writes while the used quota is what it has read. -/
theorem tokenTotal_states_iff (s : TokenQuotaState) (es : List TokenQuotaEvent) :
    (∀ t ∈ states step s es, ∀ id, t.batch.db.tokenTotal id = s.batch.db.tokenTotal id) ↔
      Along step ResetsWhatIsUsed s es :=
  forall_states_iff_along (I := SameTotals s.batch.db) (fun _ e ht => sameTotals_step_iff ht e)
    (fun _ => rfl) es

/-- A token is used between the two statements of its reset: what is used then is gone. -/
theorem tokenTotal_lost :
    let s : TokenQuotaState := ⟨BatchState.init BatchState.oneOfEach, []⟩
    s.batch.db.tokenTotal 1 = some 520 ∧
      (run step s [.resetTokenQuota 1, .decreaseTokenQuota false 1 5,
        .resetWrite 0]).batch.db.tokenTotal 1 = some 515 := by
  decide +kernel

end TokenQuotaState

end XinghaiApi
