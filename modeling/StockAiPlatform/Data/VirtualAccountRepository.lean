import Mathlib.Data.List.Sort
import StockAiPlatform.Broker.KisOrderClient

/-! # Paper account rows

Reads and the cash balance, which is refused when it would be negative.
-/

namespace StockAiPlatform
set_option autoImplicit false

open Transaction Python

namespace Database

def setCashBalance (db : Database) (accountId : Nat) (balance : ℚ) : Database :=
  { db with
    virtualAccounts := db.virtualAccounts.modify accountId
      (fun account => { account with cashBalance := balance }) fun _ => rfl }

theorem find?_setCashBalance (db : Database) (accountId : Nat) (balance : ℚ) (k : Nat) :
    (db.setCashBalance accountId balance).virtualAccounts.find? k =
      (db.virtualAccounts.find? k).map fun account =>
        if k = accountId then { account with cashBalance := balance } else account := by
  apply Table.find?_modify
  intro account
  rfl

end Database

namespace VirtualAccountRepository

def getById (accountId : Nat) : App (Option VirtualAccount) :=
  Program.query (.accountById accountId) fun db => db.virtualAccounts.find? accountId

def accountsOf (userId : Option Nat) (db : Database) : List VirtualAccount :=
  (db.virtualAccounts.rows.filter fun account => account.userId == userId).insertionSort
    fun a b => a.id ≤ b.id

def listByUser (userId : Option Nat) : App (List VirtualAccount) :=
  Program.query (.accountsByUser userId) (accountsOf userId)

def updateCashBalance (account : VirtualAccount) (newBalance : ℚ) : App VirtualAccount :=
  if newBalance < 0 then .raise (.valueError "cash_balance must be >= 0")
  else do
    Program.modify fun db => db.setCashBalance account.id newBalance
    pure { account with cashBalance := newBalance }

/-- The account a request names, or else the first one of its user or of no user. The two API
modules differ in the texts of their 404 only. -/
def resolve (notFound noAccount : String) (requested : Option Nat) (userId : Option Nat) :
    App VirtualAccount := do
  match requested with
  | some accountId =>
    match ← getById accountId with
    | some account => pure account
    | none => .raise (.http 404 notFound)
  | none =>
    let own ← listByUser userId
    let candidates ← if own = [] then listByUser none else pure own
    match candidates with
    | [] => .raise (.http 404 noAccount)
    | account :: _ => pure account

def resolved? (requested : Option Nat) (userId : Option Nat) (db : Database) : Option VirtualAccount :=
  match requested with
  | some accountId => db.virtualAccounts.find? accountId
  | none =>
    (if accountsOf userId db = [] then accountsOf none db else accountsOf userId db).head?

theorem exec_resolve (answer : Answer) (s : DbSession) (notFound noAccount : String)
    (requested userId : Option Nat) :
    (resolve notFound noAccount requested userId).exec answer s =
      (match resolved? requested userId s.view with
        | some account => .ok account
        | none => .error (.http 404 (if requested.isSome then notFound else noAccount)), s) := by
  cases requested with
  | some accountId =>
    rw [resolve, resolved?, getById, Program.exec_query_bind]
    cases s.view.virtualAccounts.find? accountId <;> rfl
  | none =>
    rw [resolve, resolved?, listByUser, Program.exec_query_bind]
    split
    · simp only [listByUser, Program.exec_query_bind]
      cases accountsOf none s.view <;> rfl
    · simp only [Program.exec_bind_ok answer s (Program.exec_pure ..)]
      cases accountsOf userId s.view <;> rfl

end VirtualAccountRepository

end StockAiPlatform
