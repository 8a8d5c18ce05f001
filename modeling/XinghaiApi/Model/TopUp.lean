import XinghaiApi.Model.Types

/-!
# Top-up orders

The transactions that payment callbacks and administrators run on the row of one order. Each locks
the row, checks it, and then either writes nothing or writes the row and with it, if the order is
paid, a credit to the quota of the user.
-/

namespace XinghaiApi

def paymentProviderEpay : String := "epay"

def paymentProviderStripe : String := "stripe"

def paymentProviderCreem : String := "creem"

def paymentProviderWaffo : String := "waffo"

def paymentProviderWaffoPancake : String := "waffo_pancake"

/-- What a transaction writes: the row, and what it adds to the quota of the user. The amount is
the exact operand of the statement; a fraction is left to the column. -/
structure TopUpWrite where
  topUp : TopUp
  credit : Option ℚ := none
deriving DecidableEq

def TopUp.complete (now : Int) (topUp : TopUp) : TopUp :=
  { topUp with completeTime := now, status := .success }

section

variable (quotaPerUnit : ℚ) (now : Int) (topUp : TopUp)

/-- The provider's callback of an order that must be pending. -/
def rechargePending (provider : String) (quota : ℚ) : Except Error (Option TopUpWrite) :=
  if topUp.paymentProvider ≠ provider then .error .paymentMethodMismatch
  else if topUp.status ≠ .pending then .error .rechargeStatusInvalid
  else .ok (some { topUp := topUp.complete now, credit := some quota })

/-- The callback of a provider that may repeat it: an order that has been paid is left alone. -/
def rechargeRepeatable (provider : String) : Except Error (Option TopUpWrite) :=
  let quotaToAdd := truncate (topUp.amount * quotaPerUnit)
  if topUp.paymentProvider ≠ provider then .error .paymentMethodMismatch
  else if topUp.status = .success then .ok none
  else if topUp.status ≠ .pending then .error .rechargeStatusInvalid
  else if quotaToAdd ≤ 0 then .error .rechargeQuotaInvalid
  else .ok (some { topUp := topUp.complete now, credit := some quotaToAdd })

/-- Every failure of a callback is reported as the same error. -/
def orRechargeFailed {α : Type} (r : Except Error α) : Except Error α :=
  r.mapError fun _ => .rechargeFailed

def recharge : Except Error (Option TopUpWrite) :=
  orRechargeFailed (rechargePending now topUp paymentProviderStripe (topUp.money * quotaPerUnit))

def rechargeCreem : Except Error (Option TopUpWrite) :=
  orRechargeFailed (rechargePending now topUp paymentProviderCreem topUp.amount)

def rechargeWaffo : Except Error (Option TopUpWrite) :=
  orRechargeFailed (rechargeRepeatable quotaPerUnit now topUp paymentProviderWaffo)

def rechargeWaffoPancake : Except Error (Option TopUpWrite) :=
  orRechargeFailed (rechargeRepeatable quotaPerUnit now topUp paymentProviderWaffoPancake)

def manualCompleteTopUp : Except Error (Option TopUpWrite) :=
  let quotaToAdd := if topUp.paymentProvider = paymentProviderStripe
    then truncate (topUp.money * quotaPerUnit) else truncate (topUp.amount * quotaPerUnit)
  if topUp.status = .success then .ok none
  else if topUp.status ≠ .pending then .error .completeStatusInvalid
  else if quotaToAdd ≤ 0 then .error .rechargeQuotaInvalid
  else .ok (some { topUp := topUp.complete now, credit := some quotaToAdd })

def updatePendingTopUpStatus (expectedPaymentProvider : String) (targetStatus : TopUpStatus) :
    Except Error (Option TopUpWrite) :=
  if expectedPaymentProvider ≠ "" ∧ topUp.paymentProvider ≠ expectedPaymentProvider then
    .error .paymentMethodMismatch
  else if topUp.status ≠ .pending then .error .topUpStatusInvalid
  else .ok (some { topUp := { topUp with status := targetStatus } })

end

/-- The transactions on an order, with the arguments their callers give them. -/
inductive TopUpTransaction where
  | recharge
  | rechargeCreem
  | rechargeWaffo
  | rechargeWaffoPancake
  | manualCompleteTopUp
  /-- Stripe reports that the checkout has expired -/
  | sessionExpired
  /-- Waffo reports that the payment has failed -/
  | waffoPaymentFailed
deriving DecidableEq

def TopUpTransaction.body (quotaPerUnit : ℚ) (now : Int) (topUp : TopUp) :
    TopUpTransaction → Except Error (Option TopUpWrite)
  | .recharge             => XinghaiApi.recharge quotaPerUnit now topUp
  | .rechargeCreem        => XinghaiApi.rechargeCreem now topUp
  | .rechargeWaffo        => XinghaiApi.rechargeWaffo quotaPerUnit now topUp
  | .rechargeWaffoPancake => XinghaiApi.rechargeWaffoPancake quotaPerUnit now topUp
  | .manualCompleteTopUp  => XinghaiApi.manualCompleteTopUp quotaPerUnit now topUp
  | .sessionExpired       => updatePendingTopUpStatus topUp paymentProviderStripe .expired
  | .waffoPaymentFailed   => updatePendingTopUpStatus topUp paymentProviderWaffo .failed

/-! ### What a transaction writes -/

/-- A write closes a pending order: it is paid and credited, or it is given up without a credit,
which does not happen to orders of Epay. -/
structure TopUpWrite.Closes (topUp : TopUp) (w : TopUpWrite) : Prop where
  pending : topUp.status = .pending
  provider : w.topUp.paymentProvider = topUp.paymentProvider
  result : (w.topUp.status = .success ∧ w.credit ≠ none) ∨
    ((w.topUp.status = .failed ∨ w.topUp.status = .expired) ∧ w.credit = none ∧
      topUp.paymentProvider ≠ paymentProviderEpay)

section

variable {quotaPerUnit : ℚ} {now : Int} {topUp : TopUp} {provider : String} {w : TopUpWrite}

lemma TopUpWrite.Closes.paid (h : topUp.status = .pending) (credit : ℚ) :
    TopUpWrite.Closes topUp { topUp := topUp.complete now, credit := some credit } :=
  ⟨h, rfl, Or.inl ⟨rfl, nofun⟩⟩

lemma orRechargeFailed_eq_ok {α : Type} {r : Except Error α} {a : α}
    (h : orRechargeFailed r = .ok a) : r = .ok a := by
  cases r with
  | error e => cases h
  | ok b => exact h

lemma rechargePending_closes {quota : ℚ}
    (h : rechargePending now topUp provider quota = .ok (some w)) : w.Closes topUp := by
  unfold rechargePending at h
  split_ifs at h with hprovider hstatus
  cases h
  exact .paid (not_not.mp hstatus) quota

lemma rechargeRepeatable_closes
    (h : rechargeRepeatable quotaPerUnit now topUp provider = .ok (some w)) : w.Closes topUp := by
  unfold rechargeRepeatable at h
  simp only at h
  split_ifs at h with hprovider hsuccess hstatus hquota
  · cases h
  · cases h
    exact .paid (not_not.mp hstatus) _

lemma manualCompleteTopUp_closes
    (h : manualCompleteTopUp quotaPerUnit now topUp = .ok (some w)) : w.Closes topUp := by
  unfold manualCompleteTopUp at h
  simp only at h
  generalize (if topUp.paymentProvider = paymentProviderStripe then _ else _) = quotaToAdd at h
  split_ifs at h with hsuccess hstatus hquota
  · cases h
  · cases h
    exact .paid (not_not.mp hstatus) _

lemma updatePendingTopUpStatus_closes {target : TopUpStatus} (hprovider : provider ≠ "")
    (hepay : provider ≠ paymentProviderEpay) (htarget : target = .failed ∨ target = .expired)
    (h : updatePendingTopUpStatus topUp provider target = .ok (some w)) : w.Closes topUp := by
  unfold updatePendingTopUpStatus at h
  split_ifs at h with hmismatch hstatus
  cases h
  have hsame : topUp.paymentProvider = provider := by
    by_contra hne
    exact hmismatch ⟨hprovider, hne⟩
  refine ⟨not_not.mp hstatus, rfl, Or.inr ⟨htarget, rfl, ?_⟩⟩
  rw [hsame]
  exact hepay

/-- Whatever the transaction is, it only writes to a pending order, and closes it. -/
lemma TopUpTransaction.body_closes {t : TopUpTransaction}
    (h : t.body quotaPerUnit now topUp = .ok (some w)) : w.Closes topUp := by
  cases t with
  | recharge => exact rechargePending_closes (orRechargeFailed_eq_ok h)
  | rechargeCreem => exact rechargePending_closes (orRechargeFailed_eq_ok h)
  | rechargeWaffo => exact rechargeRepeatable_closes (orRechargeFailed_eq_ok h)
  | rechargeWaffoPancake => exact rechargeRepeatable_closes (orRechargeFailed_eq_ok h)
  | manualCompleteTopUp => exact manualCompleteTopUp_closes h
  | sessionExpired =>
    exact updatePendingTopUpStatus_closes (by decide) (by decide) (Or.inr rfl) h
  | waffoPaymentFailed =>
    exact updatePendingTopUpStatus_closes (by decide) (by decide) (Or.inl rfl) h

end

end XinghaiApi
