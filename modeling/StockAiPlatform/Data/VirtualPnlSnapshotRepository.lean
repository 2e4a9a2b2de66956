import Mathlib.Data.List.Sort
import StockAiPlatform.Broker.KisOrderClient
import StockAiPlatform.Transaction.Rows

/-! # Daily account snapshots

One row for each account and day, replaced in place when the day is run again.
-/

namespace StockAiPlatform
set_option autoImplicit false

open Transaction

def VirtualPnlSnapshot.isAt (accountId : Nat) (snapshotDate : Int) (snapshot : VirtualPnlSnapshot) :
    Bool :=
  snapshot.accountId == accountId && snapshot.snapshotDate == snapshotDate

namespace Database

def insertVirtualPnlSnapshot (db : Database) (snapshot : VirtualPnlSnapshot) : Database :=
  { db with virtualPnlSnapshots := db.virtualPnlSnapshots ++ [snapshot] }

def storeVirtualPnlSnapshot (db : Database) (snapshot : VirtualPnlSnapshot) : Database :=
  { db with
    virtualPnlSnapshots := updateWhere
      (VirtualPnlSnapshot.isAt snapshot.accountId snapshot.snapshotDate) (fun _ => snapshot)
      db.virtualPnlSnapshots }

end Database

namespace VirtualPnlSnapshotRepository

def getByAccountDate (accountId : Nat) (snapshotDate : Int) : App (Option VirtualPnlSnapshot) :=
  Program.query (.snapshotByDate accountId snapshotDate) fun db =>
    db.virtualPnlSnapshots.find? (VirtualPnlSnapshot.isAt accountId snapshotDate)

/-- The oldest snapshot first. -/
def snapshotsOf (accountId : Nat) (fromDate toDate : Option Int) (limit : Nat) (db : Database) :
    List VirtualPnlSnapshot :=
  ((db.virtualPnlSnapshots.filter fun snap =>
    snap.accountId == accountId && fromDate.all (· ≤ snap.snapshotDate)
      && toDate.all (snap.snapshotDate ≤ ·)).insertionSort
        fun a b => a.snapshotDate ≤ b.snapshotDate).take limit

def listByAccount (accountId : Nat) (fromDate toDate : Option Int) (limit : Nat) :
    App (List VirtualPnlSnapshot) :=
  Program.query (.snapshotsByAccount accountId) (snapshotsOf accountId fromDate toDate limit)

def createOrReplaceSnapshot (accountId : Nat) (snapshotDate : Int)
    (cashBalance marketValue realizedPnl unrealizedPnl : ℚ) : App VirtualPnlSnapshot := do
  let row : VirtualPnlSnapshot := {
    accountId := accountId
    snapshotDate := snapshotDate
    cashBalance := cashBalance
    marketValue := marketValue
    totalValue := cashBalance + marketValue
    realizedPnl := realizedPnl
    unrealizedPnl := unrealizedPnl }
  match ← getByAccountDate accountId snapshotDate with
  | none => Program.modify fun db => db.insertVirtualPnlSnapshot row
  | some _ => Program.modify fun db => db.storeVirtualPnlSnapshot row
  pure row

end VirtualPnlSnapshotRepository

end StockAiPlatform
