import XinghaiApi.Model.Types

/-!
# Balances of users and tokens

The statements that move the quota of a user and the remaining quota of a token. They are
`UPDATE`s by a difference, so they succeed and do nothing when the row does not exist. An update
that the database fails has no effect.
-/

namespace XinghaiApi

/-- The result of an update that the database may fail as a whole. -/
def attempt {α : Type} (fails : Bool) (r : Except Error α) : Except Error α :=
  if fails then .error .database else r

lemma attempt_eq_ok {α : Type} {fails : Bool} {r : Except Error α} {a : α} :
    attempt fails r = .ok a ↔ fails = false ∧ r = .ok a := by
  cases fails <;> simp [attempt]

/-! ### Users -/

/-- `UPDATE users SET quota = quota + delta WHERE id = userId`. -/
def DB.addUserQuota (db : DB) (userId delta : Int) : DB :=
  { db with users := db.users.modify userId fun u => { u with quota := u.quota + delta } }

def increaseUserQuota (userId quota : Int) (db : DB) : Except Error DB :=
  if quota < 0 then .error .negativeQuota else .ok (db.addUserQuota userId quota)

def decreaseUserQuota (userId quota : Int) (db : DB) : Except Error DB :=
  if quota < 0 then .error .negativeQuota else .ok (db.addUserQuota userId (-quota))

/-- Take `delta` from the quota of a user, or give `-delta` back when it is negative. -/
def takeUserQuota (userId delta : Int) (db : DB) : Except Error DB :=
  if 0 < delta then decreaseUserQuota userId delta db else increaseUserQuota userId (-delta) db

def DB.HasUser (db : DB) (userId : Int) : Prop := (db.users.find userId).isSome = true

instance (db : DB) (userId : Int) : Decidable (db.HasUser userId) :=
  inferInstanceAs (Decidable (_ = true))

def DB.userQuota (db : DB) (userId : Int) : Int :=
  ((db.users.find userId).map User.quota).getD 0

/-! ### Tokens -/

/-- `UPDATE tokens SET remain_quota = remain_quota + delta, used_quota = used_quota - delta`. -/
def DB.addTokenQuota (db : DB) (tokenId delta : Int) : DB :=
  let move (t : Token) : Token :=
    { t with remainQuota := t.remainQuota + delta, usedQuota := t.usedQuota - delta }
  { db with tokens := db.tokens.modify tokenId move }

def increaseTokenQuota (tokenId quota : Int) (db : DB) : Except Error DB :=
  if quota < 0 then .error .negativeQuota else .ok (db.addTokenQuota tokenId quota)

def decreaseTokenQuota (tokenId quota : Int) (db : DB) : Except Error DB :=
  if quota < 0 then .error .negativeQuota else .ok (db.addTokenQuota tokenId (-quota))

/-- Take `delta` from the remaining quota of a token, or give `-delta` back. -/
def takeTokenQuota (tokenId delta : Int) (db : DB) : Except Error DB :=
  if 0 < delta then decreaseTokenQuota tokenId delta db else increaseTokenQuota tokenId (-delta) db

def DB.HasToken (db : DB) (tokenId : Int) : Prop := (db.tokens.find tokenId).isSome = true

instance (db : DB) (tokenId : Int) : Decidable (db.HasToken tokenId) :=
  inferInstanceAs (Decidable (_ = true))

def DB.tokenRemain (db : DB) (tokenId : Int) : Int :=
  ((db.tokens.find tokenId).map Token.remainQuota).getD 0

/-! ### What the updates do -/

section

variable {db : DB} {userId tokenId delta quota : Int}

lemma increaseUserQuota_eq_ok (h : 0 ≤ quota) :
    increaseUserQuota userId quota db = .ok (db.addUserQuota userId quota) := by
  simp [increaseUserQuota, not_lt.mpr h]

lemma decreaseUserQuota_eq_ok (h : 0 ≤ quota) :
    decreaseUserQuota userId quota db = .ok (db.addUserQuota userId (-quota)) := by
  simp [decreaseUserQuota, not_lt.mpr h]

lemma increaseTokenQuota_eq_ok (h : 0 ≤ quota) :
    increaseTokenQuota tokenId quota db = .ok (db.addTokenQuota tokenId quota) := by
  simp [increaseTokenQuota, not_lt.mpr h]

lemma decreaseTokenQuota_eq_ok (h : 0 ≤ quota) :
    decreaseTokenQuota tokenId quota db = .ok (db.addTokenQuota tokenId (-quota)) := by
  simp [decreaseTokenQuota, not_lt.mpr h]

/-- Taking an amount never fails by itself, whatever its sign. -/
lemma takeUserQuota_eq_ok :
    takeUserQuota userId delta db = .ok (db.addUserQuota userId (-delta)) := by
  unfold takeUserQuota
  split_ifs with h
  · exact decreaseUserQuota_eq_ok h.le
  · exact increaseUserQuota_eq_ok (by omega)

lemma takeTokenQuota_eq_ok :
    takeTokenQuota tokenId delta db = .ok (db.addTokenQuota tokenId (-delta)) := by
  unfold takeTokenQuota
  split_ifs with h
  · exact decreaseTokenQuota_eq_ok h.le
  · exact increaseTokenQuota_eq_ok (by omega)

lemma find_addUserQuota :
    (db.addUserQuota userId delta).users.find userId =
      (db.users.find userId).map fun u => { u with quota := u.quota + delta } := by
  simp only [DB.addUserQuota, Table.modify, Table.find_modifyWhere]
  cases h : db.users.find userId with
  | none => rfl
  | some u =>
    have hid : Row.key u = userId := (Table.find_eq_some_iff.mp h).2
    simp only [Option.map_some, hid, beq_self_eq_true]
    subst hid
    rfl

lemma find_addTokenQuota :
    (db.addTokenQuota tokenId delta).tokens.find tokenId =
      (db.tokens.find tokenId).map fun t =>
        { t with remainQuota := t.remainQuota + delta, usedQuota := t.usedQuota - delta } := by
  simp only [DB.addTokenQuota, Table.modify, Table.find_modifyWhere]
  cases h : db.tokens.find tokenId with
  | none => rfl
  | some t =>
    have hid : Row.key t = tokenId := (Table.find_eq_some_iff.mp h).2
    simp only [Option.map_some, hid, beq_self_eq_true]
    subst hid
    rfl

/-- A user who is paid back is as they were. -/
lemma addUserQuota_cancel : (db.addUserQuota userId (-delta)).addUserQuota userId delta = db := by
  have husers := Table.modify_modify_cancel db.users userId
    (fun u : User => { u with quota := u.quota + -delta })
    (fun u : User => { u with quota := u.quota + delta })
    (fun _ => rfl) (fun u => by simp)
  simp only [DB.addUserQuota, husers]

/-- A token that is paid back is as it was. -/
lemma addTokenQuota_cancel :
    (db.addTokenQuota tokenId (-delta)).addTokenQuota tokenId delta = db := by
  have htokens := Table.modify_modify_cancel db.tokens tokenId
    (fun t : Token =>
      { t with remainQuota := t.remainQuota + -delta, usedQuota := t.usedQuota - -delta })
    (fun t : Token =>
      { t with remainQuota := t.remainQuota + delta, usedQuota := t.usedQuota - delta })
    (fun _ => rfl) (fun t => by simp)
  simp only [DB.addTokenQuota, htokens]

lemma userQuota_addUserQuota (h : db.HasUser userId) :
    (db.addUserQuota userId delta).userQuota userId = db.userQuota userId + delta := by
  obtain ⟨u, hu⟩ := Option.isSome_iff_exists.mp h
  simp [DB.userQuota, find_addUserQuota, hu]

lemma hasUser_addUserQuota (h : db.HasUser userId) :
    (db.addUserQuota userId delta).HasUser userId := by
  obtain ⟨u, hu⟩ := Option.isSome_iff_exists.mp h
  simp [DB.HasUser, find_addUserQuota, hu]

lemma tokenRemain_addTokenQuota (h : db.HasToken tokenId) :
    (db.addTokenQuota tokenId delta).tokenRemain tokenId = db.tokenRemain tokenId + delta := by
  obtain ⟨t, ht⟩ := Option.isSome_iff_exists.mp h
  simp [DB.tokenRemain, find_addTokenQuota, ht]

lemma hasToken_addTokenQuota (h : db.HasToken tokenId) :
    (db.addTokenQuota tokenId delta).HasToken tokenId := by
  obtain ⟨t, ht⟩ := Option.isSome_iff_exists.mp h
  simp [DB.HasToken, find_addTokenQuota, ht]

end

end XinghaiApi
