import Mathlib.Data.List.Sort
import StockAiPlatform.Broker.KisOrderClient
import StockAiPlatform.Transaction.Atomic
import StockAiPlatform.Transaction.Rows

/-! # Paper positions

What an account holds of a symbol. A buy blends what it spent into the average
cost, a sell books what it took in against it, and a position sold out stays
as a row with an average cost of zero.
-/

namespace StockAiPlatform
set_option autoImplicit false

open Transaction Python

namespace VirtualPosition

def isAt (accountId : Nat) (symbol : String) (position : VirtualPosition) : Bool :=
  position.accountId == accountId && position.symbol == symbol

theorem isAt_iff {accountId : Nat} {symbol : String} {position : VirtualPosition} :
    position.isAt accountId symbol = true ↔
      position.accountId = accountId ∧ position.symbol = symbol := by
  rw [isAt, Bool.and_eq_true, beq_iff_eq, beq_iff_eq]

def opened (accountId : Nat) (symbol : String) : VirtualPosition where
  accountId := accountId
  symbol := symbol
  quantity := 0
  avgCost := 0
  realizedPnl := 0

def bought (quantity : Int) (cashSpent : ℚ) (position : VirtualPosition) : VirtualPosition :=
  let newQuantity := position.quantity + quantity
  { position with
    quantity := newQuantity
    avgCost := (position.avgCost * position.quantity + cashSpent) / newQuantity }

def realizedBy (quantity : Int) (cashReceived : ℚ) (position : VirtualPosition) : ℚ :=
  cashReceived - position.avgCost * quantity

def sold (quantity : Int) (cashReceived : ℚ) (position : VirtualPosition) : VirtualPosition :=
  let newQuantity := position.quantity - quantity
  { position with
    quantity := newQuantity
    avgCost := if newQuantity = 0 then 0 else position.avgCost
    realizedPnl := position.realizedPnl + position.realizedBy quantity cashReceived }

end VirtualPosition

namespace Database

def insertVirtualPosition (db : Database) (position : VirtualPosition) : Database :=
  { db with virtualPositions := db.virtualPositions ++ [position] }

def storeVirtualPosition (db : Database) (position : VirtualPosition) : Database :=
  { db with
    virtualPositions := updateWhere (VirtualPosition.isAt position.accountId position.symbol)
      (fun _ => position) db.virtualPositions }

end Database

namespace VirtualPositionRepository

def findAt (accountId : Nat) (symbol : String) (db : Database) : Option VirtualPosition :=
  db.virtualPositions.find? (VirtualPosition.isAt accountId symbol)

def getByAccountSymbol (accountId : Nat) (symbol : String) : App (Option VirtualPosition) :=
  Program.query (.positionByAccountSymbol accountId symbol) (findAt accountId symbol)

def positionsOf (accountId : Nat) (db : Database) : List VirtualPosition :=
  db.virtualPositions.filter fun position => position.accountId == accountId

def listByAccount (accountId : Nat) : App (List VirtualPosition) :=
  Program.query (.positionsByAccount accountId) fun db =>
    (positionsOf accountId db).insertionSort fun a b => a.symbol ≤ b.symbol

def getOrCreate (accountId : Nat) (symbol : String) : App VirtualPosition := do
  match ← getByAccountSymbol accountId symbol with
  | some existing => pure existing
  | none =>
    Program.modify fun db => db.insertVirtualPosition (.opened accountId symbol)
    pure (.opened accountId symbol)

def applyBuy (accountId : Nat) (symbol : String) (fillQuantity : Int) (fillPrice cashSpent : ℚ) :
    App VirtualPosition :=
  if fillQuantity ≤ 0 then .raise (.valueError "fill_quantity must be > 0")
  else if fillPrice ≤ 0 then .raise (.valueError "fill_price must be > 0")
  else if cashSpent < 0 then .raise (.valueError "cash_spent must be >= 0")
  else do
    let position ← getOrCreate accountId symbol
    let bought := position.bought fillQuantity cashSpent
    Program.modify fun db => db.storeVirtualPosition bought
    pure bought

def applySell (accountId : Nat) (symbol : String) (fillQuantity : Int) (cashReceived : ℚ) :
    App (VirtualPosition × ℚ) :=
  if fillQuantity ≤ 0 then .raise (.valueError "fill_quantity must be > 0")
  else if cashReceived < 0 then .raise (.valueError "cash_received must be >= 0")
  else do
    let found ← getByAccountSymbol accountId symbol
    let held := (found.map VirtualPosition.quantity).getD 0
    let refused := PyError.insufficientPosition (s!"cannot sell {fillQuantity} of "
      ++ Json.quote symbol ++ s!" — held {held}")
    match found with
    | none => .raise refused
    | some position =>
      if position.quantity < fillQuantity then .raise refused
      else do
        let sold := position.sold fillQuantity cashReceived
        Program.modify fun db => db.storeVirtualPosition sold
        pure (sold, position.realizedBy fillQuantity cashReceived)

end VirtualPositionRepository

end StockAiPlatform
