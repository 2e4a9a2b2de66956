import StockAiPlatform.Api.PaperRoutes
import StockAiPlatform.Data.VirtualPnlSnapshotRepository
import StockAiPlatform.Python.Decimal
import StockAiPlatform.Risk.PreTradeRiskEngine
import StockAiPlatform.Transaction.AsOf
import Mathlib.Order.OrderDual

/-! # The account overview

`GET /api/paper/account` reads one snapshot of an account, the risk engine
another: the one lists from the oldest on, the other from the newest. They meet
only where every snapshot bears the same date.
-/

namespace StockAiPlatform
set_option autoImplicit false

open Transaction Python

/-- The account row's own columns that no rule reads are left out. -/
structure PaperAccountSchema where
  id : Nat
  paperTradingEnabled : Bool
  initialCash : String
  cashBalance : String
  marketValue : Option String
  totalValue : Option String
  realizedPnl : Option String
  unrealizedPnl : Option String
  snapshotDate : Option Int
  deriving DecidableEq, Repr

namespace PaperRoutes

def accountSchema (account : VirtualAccount) (shown : Option VirtualPnlSnapshot) :
    PaperAccountSchema where
  id := account.id
  paperTradingEnabled := account.paperTradingEnabled
  initialCash := fixed 4 account.initialCash
  cashBalance := fixed 4 account.cashBalance
  marketValue := shown.map fun snap => fixed 4 snap.marketValue
  totalValue := shown.map fun snap => fixed 4 snap.totalValue
  realizedPnl := shown.map fun snap => fixed 4 snap.realizedPnl
  unrealizedPnl := shown.map fun snap => fixed 4 snap.unrealizedPnl
  snapshotDate := shown.map VirtualPnlSnapshot.snapshotDate

def getPaperAccount (requested : Option Nat) (userId : Nat) : App PaperAccountSchema := do
  let account ← resolveAccount requested userId
  let snapshots ← VirtualPnlSnapshotRepository.listByAccount account.id none none 1
  pure (accountSchema account snapshots.getLast?)

end PaperRoutes

open PaperRoutes

section Overview

variable {db : Database} {accountId : Nat}

def snapshotsOfAccount (db : Database) (accountId : Nat) : List VirtualPnlSnapshot :=
  db.virtualPnlSnapshots.filter fun snap => snap.accountId == accountId

/-- What `list_by_account(limit=1)` leaves for `snapshots[-1]`. -/
def shownSnapshot (db : Database) (accountId : Nat) : Option VirtualPnlSnapshot :=
  (VirtualPnlSnapshotRepository.snapshotsOf accountId none none 1 db).getLast?

/-- The newest snapshot in the reversed order of dates is the oldest. -/
theorem shownSnapshot_eq : shownSnapshot db accountId =
    latest (fun snap => OrderDual.toDual snap.snapshotDate) (snapshotsOfAccount db accountId) := by
  have hRows : (db.virtualPnlSnapshots.filter fun snap => snap.accountId == accountId &&
      (none : Option Int).all (· ≤ snap.snapshotDate) &&
        (none : Option Int).all (snap.snapshotDate ≤ ·)) = snapshotsOfAccount db accountId := by
    apply List.filter_congr
    intro snap _
    simp
  rw [shownSnapshot, VirtualPnlSnapshotRepository.snapshotsOf, hRows]
  change (((snapshotsOfAccount db accountId).insertionSort
    fun a b => OrderDual.toDual b.snapshotDate ≤ OrderDual.toDual a.snapshotDate).take 1).getLast? = _
  rw [latest]
  cases (snapshotsOfAccount db accountId).insertionSort
    fun a b => OrderDual.toDual b.snapshotDate ≤ OrderDual.toDual a.snapshotDate <;> rfl

theorem latestPnlSnapshot_eq : PreTradeRiskEngine.latestPnlSnapshot db accountId =
    latest VirtualPnlSnapshot.snapshotDate (snapshotsOfAccount db accountId) := rfl

theorem exec_getPaperAccount {answer : Answer} {requested : Option Nat} {userId : Nat}
    {schema : PaperAccountSchema} {s : DbSession}
    (h : (getPaperAccount requested userId).exec answer (.opened db) = (.ok schema, s)) :
    ∃ account, VirtualAccountRepository.resolved? requested (some userId) db = some account ∧
      schema = accountSchema account (shownSnapshot db account.id) := by
  have hResolve := VirtualAccountRepository.exec_resolve answer (.opened db)
    "paper trading account not found" "no paper trading account exists for this user" requested
    (some userId)
  rw [Session.opened_view] at hResolve
  cases hAccount : VirtualAccountRepository.resolved? requested (some userId) db with
  | none =>
    rw [hAccount] at hResolve
    cases (Program.exec_bind_error answer (.opened db) hResolve _).symm.trans h
  | some account =>
    rw [hAccount] at hResolve
    cases (Program.exec_bind_ok answer (.opened db) hResolve _).symm.trans h
    exact ⟨account, rfl, rfl⟩

/-- The totals are those of the newest snapshot, and of the one the risk engine reads. -/
structure ShowsLatest (db : Database) (schema : PaperAccountSchema) : Prop where
  marketValue : schema.marketValue = (PreTradeRiskEngine.latestPnlSnapshot db schema.id).map
    fun snap => fixed 4 snap.marketValue
  totalValue : schema.totalValue = (PreTradeRiskEngine.latestPnlSnapshot db schema.id).map
    fun snap => fixed 4 snap.totalValue
  realizedPnl : schema.realizedPnl = (PreTradeRiskEngine.latestPnlSnapshot db schema.id).map
    fun snap => fixed 4 snap.realizedPnl
  unrealizedPnl : schema.unrealizedPnl = (PreTradeRiskEngine.latestPnlSnapshot db schema.id).map
    fun snap => fixed 4 snap.unrealizedPnl
  snapshotDate : schema.snapshotDate = (PreTradeRiskEngine.latestPnlSnapshot db schema.id).map
    VirtualPnlSnapshot.snapshotDate
  newest : ∀ date ∈ schema.snapshotDate, ∀ other ∈ snapshotsOfAccount db schema.id,
    other.snapshotDate ≤ date

theorem shown_eq_of_one_date (h : ∀ a ∈ snapshotsOfAccount db accountId,
    ∀ b ∈ snapshotsOfAccount db accountId, a.snapshotDate = b.snapshotDate) :
    shownSnapshot db accountId = PreTradeRiskEngine.latestPnlSnapshot db accountId := by
  rw [shownSnapshot_eq, latestPnlSnapshot_eq, latest_of_one_date h]
  exact latest_of_one_date fun a ha b hb => congrArg OrderDual.toDual (h a ha b hb)

/-- The date shown is never later than that of any snapshot. -/
theorem shown_date_le {shown : VirtualPnlSnapshot} (h : shownSnapshot db accountId = some shown) :
    ∀ other ∈ snapshotsOfAccount db accountId, shown.snapshotDate ≤ other.snapshotDate := by
  rw [shownSnapshot_eq] at h
  exact dated_le_of_latest h

theorem one_date_of_newest (h : ∀ shown ∈ shownSnapshot db accountId,
    ∀ other ∈ snapshotsOfAccount db accountId, other.snapshotDate ≤ shown.snapshotDate) :
    ∀ a ∈ snapshotsOfAccount db accountId, ∀ b ∈ snapshotsOfAccount db accountId,
      a.snapshotDate = b.snapshotDate := by
  intro a ha b hb
  cases hShown : shownSnapshot db accountId with
  | none =>
    rw [shownSnapshot_eq] at hShown
    rw [latest_eq_none hShown] at ha
    cases ha
  | some shown =>
    have hOldest := shown_date_le hShown
    have hNewest := h shown hShown
    exact (le_antisymm (hNewest a ha) (hOldest a ha)).trans
      (le_antisymm (hOldest b hb) (hNewest b hb))

theorem getPaperAccount_showsLatest_iff (answer : Answer) (db : Database) (requested : Option Nat)
    (userId : Nat) (schema : PaperAccountSchema) (s : DbSession)
    (h : (getPaperAccount requested userId).exec answer (.opened db) = (.ok schema, s)) :
    ShowsLatest db schema ↔ ∀ a ∈ snapshotsOfAccount db schema.id,
      ∀ b ∈ snapshotsOfAccount db schema.id, a.snapshotDate = b.snapshotDate := by
  obtain ⟨account, -, rfl⟩ := exec_getPaperAccount h
  constructor
  · intro hLatest
    refine one_date_of_newest fun shown hShown => ?_
    refine hLatest.newest shown.snapshotDate ?_
    exact Option.mem_map_of_mem VirtualPnlSnapshot.snapshotDate hShown
  · intro hOneDate
    have hSame : shownSnapshot db account.id = PreTradeRiskEngine.latestPnlSnapshot db account.id :=
      shown_eq_of_one_date hOneDate
    refine ⟨?_, ?_, ?_, ?_, ?_, ?_⟩
    · exact congrArg (Option.map _) hSame
    · exact congrArg (Option.map _) hSame
    · exact congrArg (Option.map _) hSame
    · exact congrArg (Option.map _) hSame
    · exact congrArg (Option.map _) hSame
    · intro date hDate other hOther
      obtain ⟨shown, hShown, rfl⟩ := Option.mem_map.mp hDate
      rw [latestPnlSnapshot_eq] at hSame
      exact dated_le_of_latest (hSame.symm.trans hShown) other hOther

/-- An account with a snapshot of two days, the second day richer. -/
def twoDays : Database :=
  { Database.empty with
    virtualAccounts := (∅ : Table VirtualAccount).insert ⟨1, some 7, 1000, 400, true⟩
    virtualPnlSnapshots := [⟨1, 100, 400, 600, 1000, 0, 0⟩, ⟨1, 101, 400, 900, 1300, 0, 300⟩] }

def twoDaysOverview : PaperAccountSchema :=
  accountSchema ⟨1, some 7, 1000, 400, true⟩ (some ⟨1, 100, 400, 600, 1000, 0, 0⟩)

theorem getPaperAccount_shows_oldest :
    ((getPaperAccount none 7).exec unasked (.opened twoDays)).1 = .ok twoDaysOverview ∧
      ¬ ShowsLatest twoDays twoDaysOverview := by
  refine ⟨rfl, fun hLatest => ?_⟩
  have hNewest := hLatest.newest 100 rfl ⟨1, 101, 400, 900, 1300, 0, 300⟩
    (List.mem_cons_of_mem _ List.mem_cons_self)
  exact absurd hNewest (by decide)

theorem getPaperAccount_showsLatest_iff_twoDays :
    (getPaperAccount none 7).exec unasked (.opened twoDays) =
        (.ok twoDaysOverview, .opened twoDays) ∧
      (ShowsLatest twoDays twoDaysOverview ↔ ∀ a ∈ snapshotsOfAccount twoDays 1,
        ∀ b ∈ snapshotsOfAccount twoDays 1, a.snapshotDate = b.snapshotDate) :=
  ⟨rfl, getPaperAccount_showsLatest_iff unasked twoDays none 7 twoDaysOverview (.opened twoDays) rfl⟩

end Overview

end StockAiPlatform
