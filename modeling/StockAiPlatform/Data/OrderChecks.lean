import StockAiPlatform.Broker.KisOrderClient

/-! # The checks on the fields of an order

The candidate repository and the paper broker make the same checks with the
same texts, each with an exception of its own.
-/

namespace StockAiPlatform.OrderChecks
set_option autoImplicit false

open Python

variable (raises : String → PyError)

def checkSide (side : String) : Except PyError Side :=
  match Side.ofValue? side with
  | some side => .ok side
  | none => .error (raises ("side must be one of ['BUY', 'SELL'] (got " ++ Json.quote side ++ ")"))

def checkOrderType (orderType : String) : Except PyError OrderType :=
  match OrderType.ofValue? orderType with
  | some orderType => .ok orderType
  | none => .error (raises
      ("order_type must be one of ['LIMIT', 'MARKET'] (got " ++ Json.quote orderType ++ ")"))

def checkQuantity (quantity : Int) : Except PyError { quantity : Int // 0 < quantity } :=
  if hQuantity : 0 < quantity then .ok ⟨quantity, hQuantity⟩
  else .error (raises "quantity must be > 0")

theorem pos_of_checked (quantity : { quantity : Int // 0 < quantity }) : 0 < quantity.val :=
  quantity.property

def checkSymbol (symbol : String) : Except PyError Unit :=
  if strip symbol.toList = [] then .error (raises "symbol must be non-empty") else .ok ()

def checkLimitPrice (limitPrice : Option ℚ) :
    Except PyError { price : Option ℚ // OrderType.limit.takesPositive price = true } :=
  match limitPrice with
  | none => .error (raises "LIMIT order requires limit_price")
  | some price =>
    if hPrice : 0 < price then .ok ⟨some price, decide_eq_true hPrice⟩
    else .error (raises "limit_price must be > 0")

variable {raises}

theorem checkSide_ok {value : String} {side : Side} (h : checkSide raises value = .ok side) :
    side.value = value := by
  unfold checkSide at h
  cases hValue : Side.ofValue? value with
  | none =>
    rw [hValue] at h
    cases h
  | some found =>
    rw [hValue] at h
    cases h
    unfold Side.ofValue? at hValue
    split at hValue
    · cases hValue
      rfl
    · cases hValue
      rfl
    · cases hValue

theorem checkOrderType_ok {value : String} {orderType : OrderType}
    (h : checkOrderType raises value = .ok orderType) : orderType.value = value := by
  unfold checkOrderType at h
  cases hValue : OrderType.ofValue? value with
  | none =>
    rw [hValue] at h
    cases h
  | some found =>
    rw [hValue] at h
    cases h
    unfold OrderType.ofValue? at hValue
    split at hValue
    · cases hValue
      rfl
    · cases hValue
      rfl
    · cases hValue

theorem checkQuantity_ok {quantity : Int} {kept : { quantity : Int // 0 < quantity }}
    (h : checkQuantity raises quantity = .ok kept) : kept.val = quantity := by
  unfold checkQuantity at h
  split at h
  · cases h
    rfl
  · cases h

theorem checkLimitPrice_ok {limitPrice : Option ℚ}
    {kept : { price : Option ℚ // OrderType.limit.takesPositive price = true }}
    (h : checkLimitPrice raises limitPrice = .ok kept) : kept.val = limitPrice := by
  cases limitPrice with
  | none => cases h
  | some price =>
    simp only [checkLimitPrice] at h
    split at h
    · cases h
      rfl
    · cases h

end StockAiPlatform.OrderChecks
