import StockAiPlatform.Paper.LedgerConservation
import StockAiPlatform.Transaction.Run

/-! # Runs of fills, and the daily snapshot

Fills one after the other, each committed exactly if it returns. A snapshot
taken at any point accounts for the money the account started with, up to the
cost of the open positions it found no price for.
-/

namespace StockAiPlatform
set_option autoImplicit false

open Transaction VirtualPositionRepository

namespace PnlTracker

section Snapshot

variable (snapshotDate lookbackDays : Int) (db : Database)

/-- The close a snapshot values the position at, if it is open and there is one. -/
def closeOf (position : VirtualPosition) : Option ℚ :=
  if position.quantity ≤ 0 then none
  else (DailyPriceRepository.latestOnOrBefore position.symbol snapshotDate lookbackDays db).map
    DailyPrice.close

def marketValueOf (position : VirtualPosition) : ℚ :=
  (closeOf snapshotDate lookbackDays db position).elim 0 fun close => close * position.quantity

/-- What a position cost, if the snapshot values it. -/
def pricedBasis (position : VirtualPosition) : ℚ :=
  if (closeOf snapshotDate lookbackDays db position).isSome then position.costBasis else 0

def isUnpriced (position : VirtualPosition) : Bool :=
  0 < position.quantity && (closeOf snapshotDate lookbackDays db position).isNone

def round (totals : PositionTotals) (position : VirtualPosition) : PositionTotals :=
  totals.add position (DailyPriceRepository.latestOnOrBefore position.symbol snapshotDate lookbackDays db)

variable {snapshotDate lookbackDays db}

theorem round_eq (totals : PositionTotals) (position : VirtualPosition) :
    round snapshotDate lookbackDays db totals position = {
      marketValue := totals.marketValue + marketValueOf snapshotDate lookbackDays db position
      unrealizedPnl := totals.unrealizedPnl + (marketValueOf snapshotDate lookbackDays db position
        - pricedBasis snapshotDate lookbackDays db position)
      realizedTotal := totals.realizedTotal + position.realizedPnl } := by
  unfold round PositionTotals.add marketValueOf pricedBasis closeOf
  simp only
  split
  · simp
  · cases DailyPriceRepository.latestOnOrBefore position.symbol snapshotDate lookbackDays db with
    | none => simp
    | some bar => simp [VirtualPosition.costBasis, mul_comm]

theorem foldl_round (positions : List VirtualPosition) (totals : PositionTotals) :
    positions.foldl (round snapshotDate lookbackDays db) totals = {
      marketValue := totals.marketValue
        + (positions.map (marketValueOf snapshotDate lookbackDays db)).sum
      unrealizedPnl := totals.unrealizedPnl
        + ((positions.map (marketValueOf snapshotDate lookbackDays db)).sum
          - (positions.map (pricedBasis snapshotDate lookbackDays db)).sum)
      realizedTotal := totals.realizedTotal + (positions.map VirtualPosition.realizedPnl).sum } := by
  induction positions generalizing totals with
  | nil => simp
  | cons position positions ih =>
    rw [List.foldl_cons, ih, round_eq]
    simp only [List.map_cons, List.sum_cons]
    congr 1 <;> ring

theorem exec_totalUp (answer : Answer) (s : DbSession) (positions : List VirtualPosition)
    (totals : PositionTotals) :
    (totalUp snapshotDate lookbackDays positions totals).exec answer s =
      (.ok (positions.foldl (round snapshotDate lookbackDays s.view) totals), s) := by
  induction positions generalizing totals with
  | nil => rfl
  | cons position positions ih =>
    rw [totalUp, List.foldl_cons]
    split
    · rename_i hOut
      have hRound : round snapshotDate lookbackDays s.view totals position = totals.add position none := by
        simp only [round, PositionTotals.add, if_pos hOut]
      rw [ih, hRound]
    · rw [DailyPriceRepository.getLatestOnOrBefore, Program.exec_query_bind, ih]
      rfl

/-- What the open positions cost is priced, or it is not. -/
theorem sum_costBasis (snapshotDate lookbackDays : Int) (db : Database)
    {positions : List VirtualPosition} (h : ∀ position ∈ positions, position.Sound) :
    (positions.map VirtualPosition.costBasis).sum =
      (positions.map (pricedBasis snapshotDate lookbackDays db)).sum
        + ((positions.filter (isUnpriced snapshotDate lookbackDays db)).map
          VirtualPosition.costBasis).sum := by
  induction positions with
  | nil => simp
  | cons position positions ih =>
    rw [List.forall_mem_cons] at h
    have hQuantity := h.1.quantity
    rw [List.map_cons, List.sum_cons, List.map_cons, List.sum_cons, List.filter_cons, ih h.2, pricedBasis]
    cases hClose : closeOf snapshotDate lookbackDays db position with
    | some close =>
      rw [if_pos Option.isSome_some, if_neg (by simp [isUnpriced, hClose])]
      ring
    | none =>
      rw [if_neg (by simp)]
      by_cases hOpen : 0 < position.quantity
      · rw [if_pos (by simp [isUnpriced, hClose, hOpen]), List.map_cons, List.sum_cons]
        ring
      · have hOut : position.quantity = 0 := by omega
        rw [if_neg (by simp [isUnpriced, hOpen]), VirtualPosition.costBasis, hOut]
        ring

theorem mem_of_createOrReplaceSnapshot (answer : Answer) (s : DbSession) (accountId : Nat)
    (snapshotDate : Int) (cash market realized unrealized : ℚ) :
    ∃ t, (VirtualPnlSnapshotRepository.createOrReplaceSnapshot accountId snapshotDate cash market
        realized unrealized).exec answer s =
          (.ok ⟨accountId, snapshotDate, cash, market, cash + market, realized, unrealized⟩, t) ∧
      ⟨accountId, snapshotDate, cash, market, cash + market, realized, unrealized⟩ ∈
        t.view.virtualPnlSnapshots := by
  rw [VirtualPnlSnapshotRepository.createOrReplaceSnapshot,
    VirtualPnlSnapshotRepository.getByAccountDate, Program.exec_query_bind]
  cases hFound : s.view.virtualPnlSnapshots.find?
      (VirtualPnlSnapshot.isAt accountId snapshotDate) with
  | none => exact ⟨_, rfl, List.mem_append_right _ (List.mem_singleton_self _)⟩
  | some old =>
    refine ⟨_, rfl, List.mem_map.mpr ⟨old, List.mem_of_find?_eq_some hFound, ?_⟩⟩
    have hAt := List.find?_some hFound
    exact if_pos hAt

theorem exec_createDailyPnlSnapshot (answer : Answer) (s : DbSession)
    (snapshotDate lookbackDays : Int) {accountId : Nat} {account : VirtualAccount}
    (hFound : s.view.virtualAccounts.find? accountId = some account) :
    ∃ snapshot t, (createDailyPnlSnapshot accountId snapshotDate lookbackDays).exec answer s =
        (.ok snapshot, t) ∧ snapshot ∈ t.view.virtualPnlSnapshots ∧
      snapshot.totalValue = account.cashBalance
        + ((positionsOf accountId s.view).map (marketValueOf snapshotDate lookbackDays s.view)).sum ∧
      snapshot.realizedPnl = ((positionsOf accountId s.view).map VirtualPosition.realizedPnl).sum ∧
      snapshot.unrealizedPnl =
        ((positionsOf accountId s.view).map (marketValueOf snapshotDate lookbackDays s.view)).sum
          - ((positionsOf accountId s.view).map (pricedBasis snapshotDate lookbackDays s.view)).sum := by
  have hSorted : ∀ g : VirtualPosition → ℚ,
      (((positionsOf accountId s.view).insertionSort fun a b => a.symbol ≤ b.symbol).map g).sum =
        ((positionsOf accountId s.view).map g).sum :=
    fun g => ((List.perm_insertionSort _ _).map g).sum_eq
  rw [createDailyPnlSnapshot, VirtualAccountRepository.getById, Program.exec_query_bind, hFound]
  simp only
  rw [listByAccount, Program.exec_query_bind, Program.exec_bind_ok _ _ (exec_totalUp ..), foldl_round]
  simp only [hSorted, zero_add]
  obtain ⟨t, hExec, hMem⟩ := mem_of_createOrReplaceSnapshot answer s accountId snapshotDate
    account.cashBalance _ _ _
  exact ⟨_, t, hExec, hMem, rfl, rfl, rfl⟩

end Snapshot

end PnlTracker

/-- One fill, on a tracker with a cost model of its own. -/
structure FillCall where
  tracker : PnlTracker
  fill : PaperFill

namespace FillCall

open PnlTracker

def step (call : FillCall) (db : Database) : Database :=
  (call.tracker.applyFill call.fill).atomically unasked db

/-- An account as it was created: all its cash, and nothing else. -/
structure Untouched (initialCash : ℚ) (accountId : Nat) (db : Database) : Prop where
  account : ∃ account, db.virtualAccounts.find? accountId = some account ∧
    account.initialCash = initialCash ∧ account.cashBalance = initialCash
  initialCash_nonneg : 0 ≤ initialCash
  positions : positionsOf accountId db = []
  fills : db.virtualFillsOf accountId = []

theorem Untouched.conserved {initialCash : ℚ} {accountId : Nat} {db : Database}
    (h : Untouched initialCash accountId db) : Conserved initialCash accountId db := by
  have hNone : ∀ symbol, db.virtualPositions.filter (VirtualPosition.isAt accountId symbol) = [] := by
    intro symbol
    rw [List.filter_eq_nil_iff]
    intro position hMem hAt
    have hOwn : position ∈ positionsOf accountId db :=
      List.mem_filter.mpr ⟨hMem, (Bool.and_eq_true_iff.mp hAt).1⟩
    rw [h.positions] at hOwn
    cases hOwn
  constructor
  · obtain ⟨account, hFound, hInitial, hCash⟩ := h.account
    refine ⟨account, hFound, hInitial, ?_, ?_, ?_⟩
    · rw [hCash]
      exact h.initialCash_nonneg
    · rw [h.positions, hCash]
      simp
    · rw [h.fills, hCash]
      simp [netOf]
  · rw [h.positions]
    intro position hMem
    cases hMem
  · intro symbol
    rw [h.fills, Database.holding, findAt, ← List.head?_filter, hNone symbol]
    rfl
  · intro symbol
    rw [hNone symbol]
    exact Nat.zero_le 1

theorem conserved_step (call : FillCall) {initialCash : ℚ} {accountId : Nat} {db : Database}
    (h : Conserved initialCash accountId db) : Conserved initialCash accountId (call.step db) := by
  rcases Program.atomically_cases unasked (call.tracker.applyFill call.fill) db with
    ⟨result, s, hExec, hView⟩ | hSame
  · have hApplied := exec_applyFill_eq_ok hExec
    rw [Session.opened_view] at hApplied
    rw [step, hView]
    by_cases hOwn : call.fill.accountId = accountId
    · obtain rfl := hOwn
      exact h.own hApplied
    · exact h.other hApplied hOwn
  · rw [step, hSame]
    exact h

/-- The snapshot accounts for the money the account started with. -/
structure Accounted (initialCash : ℚ) (accountId : Nat) (snapshotDate lookbackDays : Int)
    (db : Database) (snapshot : VirtualPnlSnapshot) : Prop where
  realizedPnl : snapshot.realizedPnl =
    ((positionsOf accountId db).map VirtualPosition.realizedPnl).sum
  totalValue : snapshot.totalValue = initialCash + snapshot.realizedPnl + snapshot.unrealizedPnl
    - (((positionsOf accountId db).filter (isUnpriced snapshotDate lookbackDays db)).map
      VirtualPosition.costBasis).sum

theorem accounted_of_conserved {initialCash : ℚ} {accountId : Nat} {db : Database}
    (h : Conserved initialCash accountId db) (snapshotDate lookbackDays : Int) :
    ∃ snapshot t, (createDailyPnlSnapshot accountId snapshotDate lookbackDays).exec unasked
        (.opened db) = (.ok snapshot, t) ∧ snapshot ∈ t.view.virtualPnlSnapshots ∧
      Accounted initialCash accountId snapshotDate lookbackDays db snapshot := by
  obtain ⟨account, hFound, -, -, hIdentity, -⟩ := h.cash
  obtain ⟨snapshot, t, hExec, hMem, hTotal, hRealized, hUnrealized⟩ :=
    exec_createDailyPnlSnapshot unasked (.opened db) snapshotDate lookbackDays hFound
  have hBasis := sum_costBasis snapshotDate lookbackDays db h.sound
  refine ⟨snapshot, t, hExec, hMem, hRealized, ?_⟩
  rw [hTotal, hUnrealized, hRealized]
  simp only [Session.opened_view]
  linarith

/-- Whatever fills are applied to whatever accounts: the ledger of an account that started with all
its cash balances in every state, and so does every snapshot taken there. -/
theorem ledger_conserved (calls : List FillCall) (initialCash : ℚ) (accountId : Nat) (db : Database)
    (hNew : Untouched initialCash accountId db) :
    Conserved initialCash accountId (run step calls db) ∧
      ∀ snapshotDate lookbackDays, ∃ snapshot t,
        (createDailyPnlSnapshot accountId snapshotDate lookbackDays).exec unasked
          (.opened (run step calls db)) = (.ok snapshot, t) ∧
        snapshot ∈ t.view.virtualPnlSnapshots ∧
        Accounted initialCash accountId snapshotDate lookbackDays (run step calls db) snapshot := by
  have hConserved := run_invariant (Conserved initialCash accountId)
    (fun call _ h => call.conserved_step h) calls hNew.conserved
  exact ⟨hConserved, accounted_of_conserved hConserved⟩

def newAccount : Database :=
  { Database.empty with
    virtualAccounts := Table.insert ∅ {
      id := 1
      initialCash := 1000000
      cashBalance := 1000000
      paperTradingEnabled := true } }

def trade (side : Side) (quantity : Int) (fillPrice : ℚ) : FillCall where
  tracker := {}
  fill := {
    orderId := 1
    accountId := 1
    symbol := "005930"
    side := side
    quantity := quantity
    fillPrice := fillPrice
    filledAt := 0 }

/-- Bought, sold out, bought again, and refused for want of shares. -/
theorem ledger_conserved_reopened :
    let calls := [trade .buy 10 7000, trade .sell 10 8000, trade .buy 5 9000, trade .sell 6 9000]
    (run step calls newAccount).holding 1 "005930" = 5 ∧
      Conserved 1000000 1 (run step calls newAccount) := by
  intro calls
  have hNew : Untouched 1000000 1 newAccount :=
    ⟨⟨_, rfl, rfl, rfl⟩, by decide +kernel, rfl, rfl⟩
  exact ⟨by decide +kernel, (ledger_conserved calls 1000000 1 newAccount hNew).1⟩

end FillCall

end StockAiPlatform
