import StockAiPlatform.Broker.ExecutionOutcomes
import StockAiPlatform.Data.DailyPriceCollector

/-! # One bad price stops every account

Where a call returns on two days that differ in prices, an account comes out
alike on both if the rows of the symbols it has candidates in are the same.
A row of another account's symbol reaches it in one way: the price collector
stores a close that is not positive, and the call raises.
-/

namespace StockAiPlatform
set_option autoImplicit false

open Transaction Python VirtualPositionRepository

def Database.withPrices (prices : List DailyPrice) (db : Database) : Database :=
  { db with dailyPrices := prices }

namespace SimulationBroker

variable {execution : PendingExecution} {orders : List VirtualOrder}
  {outcomes others : List (VirtualOrder × MatchOutcome)} {answer : Answer} {s t u v : DbSession}
  {accountId : Nat}

def outcomesOf (accountId : Nat) (outcomes : List (VirtualOrder × MatchOutcome)) :
    List (VirtualOrder × MatchOutcome) :=
  outcomes.filter fun pair => pair.1.accountId == accountId

/-- The symbols the account has orders in are priced alike. -/
def PricedAlike (accountId : Nat) (orders : List VirtualOrder) (prices others : List DailyPrice) :
    Prop :=
  ∀ order ∈ orders, order.accountId = accountId →
    DailyPriceRepository.rowsOf order.symbol prices = DailyPriceRepository.rowsOf order.symbol others

theorem isolated_matchEach (hHere : (matchEach execution orders).exec answer s = (.ok outcomes, t))
    (hThere : (matchEach execution orders).exec answer u = (.ok others, v))
    (hOwned : Owned orders s.view) (hOwnedThere : Owned orders u.view)
    (hState : s.view.accountState accountId = u.view.accountState accountId)
    (hPrices : PricedAlike accountId orders s.view.dailyPrices u.view.dailyPrices) :
    outcomesOf accountId outcomes = outcomesOf accountId others ∧
      t.view.accountState accountId = v.view.accountState accountId := by
  induction orders generalizing outcomes others s u with
  | nil =>
    cases hHere
    cases hThere
    exact ⟨rfl, hState⟩
  | cons order orders ih =>
    obtain ⟨outcome, s', rest, hRound, hRest, rfl⟩ := exec_matchEach_cons.mp hHere
    obtain ⟨other, u', restThere, hRoundThere, hRestThere, rfl⟩ := exec_matchEach_cons.mp hThere
    have hKept : s'.view.dailyPrices = s.view.dailyPrices := (round_matchOrder hRound).dailyPrices
    have hKeptThere : u'.view.dailyPrices = u.view.dailyPrices :=
      (round_matchOrder hRoundThere).dailyPrices
    have hPricesRest : PricedAlike accountId orders s'.view.dailyPrices u'.view.dailyPrices := by
      rw [hKept, hKeptThere]
      exact fun next hNext => hPrices next (List.mem_cons_of_mem order hNext)
    have hRestAlike := ih hRest hRestThere (hOwned.tail hRound) (hOwnedThere.tail hRoundThere)
    rw [outcomesOf, outcomesOf, List.filter_cons, List.filter_cons]
    by_cases hAccount : order.accountId = accountId
    · obtain rfl := hAccount
      -- The round sees its account and the rows of its symbol, and these agree.
      have hView : s.view.pricedView (DailyPriceRepository.rowsOf order.symbol) order.accountId =
          u.view.pricedView (DailyPriceRepository.rowsOf order.symbol) order.accountId :=
        Prod.ext hState (hPrices order List.mem_cons_self rfl)
      obtain ⟨u₂, hSame, hAfter⟩ :=
        (local_matchOrder execution order fun _ _ h => h).exec_ok hView hRound
      rw [hSame] at hRoundThere
      cases hRoundThere
      obtain ⟨hOutcomes, hStates⟩ := hRestAlike (congrArg Prod.fst hAfter) hPricesRest
      rw [if_pos (beq_self_eq_true _), if_pos (beq_self_eq_true _)]
      exact ⟨congrArg (List.cons (order, outcome)) hOutcomes, hStates⟩
    · have hLeft := tradingView_matchOrder hRound (hOwned order List.mem_cons_self) hAccount
      have hLeftThere := tradingView_matchOrder hRoundThere (hOwnedThere order List.mem_cons_self)
        hAccount
      have hAfter : s'.view.accountState accountId = u'.view.accountState accountId :=
        (congrArg Prod.fst hLeft).trans (hState.trans (congrArg Prod.fst hLeftThere).symm)
      rw [if_neg (by rwa [beq_iff_eq]), if_neg (by rwa [beq_iff_eq])]
      exact hRestAlike hAfter hPricesRest

/-! ## A call on two days -/

/-- The call returns, and has counted each of its candidates once. -/
structure Executes (execution : PendingExecution) (answer : Answer) (s : DbSession)
    (outcomes : List (VirtualOrder × MatchOutcome)) (t : DbSession) : Prop where
  rounds : (matchEach execution (candidates execution.accountId s.view)).exec answer s =
    (.ok outcomes, t)
  returns : ∃ result, (executePendingOrders execution).exec answer s = (.ok result, t) ∧
    CountedOnce (candidates execution.accountId s.view) outcomes result

theorem executes_of_rounds
    (h : (matchEach execution (candidates execution.accountId s.view)).exec answer s =
      (.ok outcomes, t)) : Executes execution answer s outcomes t := by
  refine ⟨h, tally outcomes {}, ?_, countedOnce_tally (nodup_candidates ..) h⟩
  rw [exec_executePendingOrders, matchAll_eq, Program.exec_bind_ok answer s h]
  rfl

theorem executes_iff_fillable (hCharges : execution.tracker.costModel.Charges) (answer : Answer)
    (s : DbSession) : (∃ outcomes t, Executes execution answer s outcomes t) ↔
      Fillable execution (candidates execution.accountId s.view) s.view := by
  rw [← exec_matchEach_ok_iff hCharges _ answer s]
  constructor
  · rintro ⟨outcomes, t, h⟩
    exact ⟨outcomes, t, h.rounds⟩
  · rintro ⟨outcomes, t, h⟩
    exact ⟨outcomes, t, executes_of_rounds h⟩

/-- With the prices as they are and with others the call returns, and an account whose symbols are
priced alike comes out alike: its orders, cash, positions and fills. -/
structure ExecutesIsolated (execution : PendingExecution) (answer : Answer) (s : DbSession)
    (prices : List DailyPrice) : Prop where
  here : ∃ outcomes t, Executes execution answer s outcomes t
  there : ∃ outcomes t, Executes execution answer (s.write fun db => db.withPrices prices) outcomes t
  isolated : ∀ accountId outcomes t others u, Executes execution answer s outcomes t →
    Executes execution answer (s.write fun db => db.withPrices prices) others u →
    PricedAlike accountId (candidates execution.accountId s.view) s.view.dailyPrices prices →
    outcomesOf accountId outcomes = outcomesOf accountId others ∧
      t.view.accountState accountId = u.view.accountState accountId

theorem executesIsolated_iff (hCharges : execution.tracker.costModel.Charges) (answer : Answer)
    (s : DbSession) (prices : List DailyPrice) : ExecutesIsolated execution answer s prices ↔
      Fillable execution (candidates execution.accountId s.view) s.view ∧
        Fillable execution (candidates execution.accountId s.view) (s.view.withPrices prices) := by
  constructor
  · intro h
    exact ⟨(executes_iff_fillable hCharges answer s).mp h.here,
      (executes_iff_fillable hCharges answer _).mp h.there⟩
  · rintro ⟨hHere, hThere⟩
    constructor
    · exact (executes_iff_fillable hCharges answer s).mpr hHere
    · exact (executes_iff_fillable hCharges answer _).mpr hThere
    · intro accountId outcomes t others u hExec hExecThere hPrices
      have hOwned : Owned (candidates execution.accountId s.view) s.view :=
        owned_of_rows fun order => mem_rows_of_candidates
      exact isolated_matchEach hExec.rounds hExecThere.rounds hOwned hOwned rfl hPrices

/-! ## A symbol that is not traded -/

def pairedAccounts : List VirtualAccount :=
  [{ id := 1, initialCash := 1000, cashBalance := 1000, paperTradingEnabled := true },
    { id := 2, initialCash := 1000, cashBalance := 1000, paperTradingEnabled := true }]

theorem nodup_pairedAccounts : (pairedAccounts.map Keyed.key).Nodup := by decide

def pairedOrders : List VirtualOrder :=
  [{ queuedOrder 0 with symbol := "000660" }, { queuedOrder 1 with accountId := 2 }]

theorem nodup_pairedOrders : (pairedOrders.map Keyed.key).Nodup := by decide

/-- Two accounts with an order each, and a close for the symbol of the second. -/
def pairedDatabase : Database :=
  { Database.empty with
    virtualAccounts := ⟨pairedAccounts, nodup_pairedAccounts⟩
    virtualOrders := ⟨pairedOrders, nodup_pairedOrders⟩
    dailyPrices := [.flat "005930" 0 100] }

def haltedDay : KisDailyPrice where
  symbol := "000660"
  date := 0
  openPrice := 0
  high := 0
  low := 0
  close := 0
  volume := 0

/-- The session once the collector has stored the day. -/
def haltedSession : DbSession :=
  ((DailyPriceCollector.collect "000660" [haltedDay]).exec unasked (.opened pairedDatabase)).2

def pairedExecution : PendingExecution where
  asOfDate := 0
  filledAt := fun _ => 0

def tradedPrices : List DailyPrice := [.flat "005930" 0 100, .flat "000660" 0 200]

theorem executesIsolated_pairedAccounts :
    pairedExecution.tracker.costModel.Charges ∧
      ExecutesIsolated pairedExecution unasked (.opened pairedDatabase) tradedPrices := by
  have hCash : ∀ account ∈ pairedAccounts, 0 ≤ account.cashBalance := by decide +kernel
  have hNoDebt : ∀ prices, ∀ account ∈ (pairedDatabase.withPrices prices).virtualAccounts.rows,
      0 ≤ account.cashBalance := fun prices => hCash
  refine ⟨PaperTradingCostModel.charges_default,
    (executesIsolated_iff PaperTradingCostModel.charges_default unasked _ _).mpr ⟨?_, ?_⟩⟩
  · refine (fillable_iff_of_noDebt (hNoDebt pairedDatabase.dailyPrices)).mpr ?_
    decide +kernel
  · refine (fillable_iff_of_noDebt (hNoDebt tradedPrices)).mpr ?_
    decide +kernel

/-- The day is reported and stored, and the call then raises before it comes to the second account. -/
theorem not_executesIsolated_haltedDay :
    DataQualityChecker.checkDailyPrices [haltedDay] =
        [DataQualityChecker.issueOf haltedDay .invalidPrice "OHLC prices must be positive.",
          DataQualityChecker.issueOf haltedDay .zeroVolume "Volume is zero."] ∧
      ¬ ExecutesIsolated pairedExecution unasked haltedSession pairedDatabase.dailyPrices := by
  refine ⟨by decide +kernel, fun h => ?_⟩
  obtain ⟨outcomes, t, hExec⟩ := h.here
  obtain ⟨result, hReturned, -⟩ := hExec.returns
  have hRaised : ((executePendingOrders pairedExecution).exec unasked haltedSession).1.isOk = false := by
    decide +kernel
  rw [hReturned] at hRaised
  cases hRaised

end SimulationBroker

end StockAiPlatform
