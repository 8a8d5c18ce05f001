import XinghaiApi.Common.OtherRatios
import XinghaiApi.Common.QuotaMath

/-!
# Prices

The ratio of a group, and the price of a call that is not billed by tokens. Prices and ratios are
exact here.
-/

namespace XinghaiApi

/-- The ratios of groups; a group without one counts once. -/
structure GroupRatioSetting where
  groupRatio : String → Option ℚ
  /-- the ratio of a user group in a using group, where one is set -/
  groupGroupRatio : String → String → Option ℚ

structure GroupRatioInfo where
  groupRatio : ℚ := 1
  groupSpecialRatio : ℚ := -1
  hasSpecialRatio : Bool := false
deriving DecidableEq

section

variable (setting : GroupRatioSetting)

def getGroupRatio (name : String) : ℚ :=
  (setting.groupRatio name).getD 1

def groupRatioInfo (userGroup usingGroup : String) : GroupRatioInfo :=
  match setting.groupGroupRatio userGroup usingGroup with
  | some ratio => { groupRatio := ratio, groupSpecialRatio := ratio, hasSpecialRatio := true }
  | none       => { groupRatio := getGroupRatio setting usingGroup }

/-- The group that automatic selection has put into the context becomes the using group. -/
def handleGroupRatio (autoGroup : Option String) (userGroup usingGroup : String) :
    GroupRatioInfo × String :=
  let usingGroup := autoGroup.getD usingGroup
  (groupRatioInfo setting userGroup usingGroup, usingGroup)

end

/-! ### Prices of calls -/

inductive PriceError where
  | priceNotConfigured (modelName : String) (isAdmin : Bool)
  | clamped (clamp : QuotaClamp)
deriving DecidableEq

def PriceError.text : PriceError → String
  | .priceNotConfigured name true =>
    "模型 " ++ name ++ " 的价格未配置。请前往「系统设置 → 运营设置」开启自用模式，或在「系统设置 → " ++
      "分组与模型定价设置」中为该模型配置价格；Model " ++ name ++ " price not configured. Go to System " ++
      "Settings → Operation Settings to enable self-use mode, or configure the model price in " ++
      "System Settings → Group & Model Pricing."
  | .priceNotConfigured name false =>
    "模型 " ++ name ++ " 的价格尚未由管理员配置，暂时无法使用，请联系站点管理员开启该模型；Model " ++ name ++
      " has not been priced by the administrator yet. Please contact the site administrator to " ++
      "enable this model."
  | .clamped clamp => clamp.error

structure PriceSetting extends GroupRatioSetting where
  modelPrice : String → Option ℚ
  defaultModelPrice : String → Option ℚ
  /-- the ratio of a model, whether one is set, and the name it was looked up by -/
  modelRatio : String → ℚ × Bool × String
  quotaPerUnit : ℚ
  enableFreeModelPreConsume : Bool := false

structure CallPriceData where
  freeModel : Bool := false
  modelPrice : ℚ := 0
  modelRatio : ℚ := 0
  usePrice : Bool := false
  quota : Int := 0
  groupRatioInfo : GroupRatioInfo := {}
  otherRatios : OtherRatios := ∅
deriving DecidableEq

/-- The user of a call, as far as its price depends on them. -/
structure Caller where
  userGroup : String
  acceptUnsetRatioModel : Bool := false
  isAdmin : Bool := false
deriving DecidableEq

def quotaFromFloatStrict (value : ℚ) : Except PriceError Int :=
  match saturateQuota value "QuotaFromFloat" with
  | (_, some clamp) => .error (.clamped clamp)
  | (quota, none)   => .ok quota

/-- The price of a model for a call: by its price, or else by half of its ratio. -/
def callPrice (setting : PriceSetting) (caller : Caller) (modelName : String) :
    Except PriceError (ℚ ⊕ ℚ) :=
  match setting.modelPrice modelName with
  | some price => .ok (.inl price)
  | none =>
    match setting.defaultModelPrice modelName with
    | some price => .ok (.inl price)
    | none =>
      let (ratio, ratioSuccess, matchName) := setting.modelRatio modelName
      if ratioSuccess = false ∧ caller.acceptUnsetRatioModel = false
        then .error (.priceNotConfigured matchName caller.isAdmin)
        else .ok (.inr ratio)

/-- The price of a call; the extra ratios of the result are empty. -/
def modelPriceHelperPerCall (setting : PriceSetting) (caller : Caller) (modelName : String)
    (groupRatioInfo : GroupRatioInfo) : Except PriceError CallPriceData :=
  match callPrice setting caller modelName with
  | .error e => .error e
  | .ok price =>
    let value : ℚ := match price with
      | .inl modelPrice => modelPrice
      | .inr modelRatio => modelRatio / 2
    match quotaFromFloatStrict (value * setting.quotaPerUnit * groupRatioInfo.groupRatio) with
    | .error e  => .error e
    | .ok quota =>
      let freeModel := !setting.enableFreeModelPreConsume &&
        decide (groupRatioInfo.groupRatio = 0 ∨ value = 0)
      .ok
        { freeModel := freeModel
          modelPrice := match price with
            | .inl modelPrice => modelPrice
            | .inr _          => -1
          modelRatio := match price with
            | .inl _          => 0
            | .inr modelRatio => modelRatio
          usePrice := price.isLeft
          quota := if freeModel then 0 else quota
          groupRatioInfo := groupRatioInfo }

/-- The price data of a call is new: no ratio that was added before is in it. -/
lemma otherRatios_modelPriceHelperPerCall {setting : PriceSetting} {caller : Caller}
    {modelName : String} {info : GroupRatioInfo} {price : CallPriceData}
    (h : modelPriceHelperPerCall setting caller modelName info = .ok price) :
    price.otherRatios = ∅ := by
  simp only [modelPriceHelperPerCall] at h
  split at h
  · cases h
  · split at h
    · cases h
    · rw [← Except.ok.inj h]

end XinghaiApi
