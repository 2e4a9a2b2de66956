import StockAiPlatform.Data.DailyPriceCollector
import StockAiPlatform.Python.DecimalContext
import StockAiPlatform.Scheduler.ExpireJob
import StockAiPlatform.Transaction.UnitOfWork
import StockAiPlatform.Transaction.Upsert

/-! # The market close job

`collect_market_close_data` saves the market cap rankings and then the daily
prices of the members of the universe, symbol by symbol, on one session.
-/

namespace StockAiPlatform.MarketClose
set_option autoImplicit false

open Transaction Python

/-- What the normalizer reads in a vendor's row. A decimal may be infinite or a NaN. -/
structure VendorPrice where
  date : Int
  openPrice : DecimalValue
  high : DecimalValue
  low : DecimalValue
  close : DecimalValue
  volume : Int
  tradingValue : Option DecimalValue

structure KisDailyPrice extends VendorPrice where
  symbol : String

structure DailyPrice extends KisDailyPrice where
  adjustedClose : Option DecimalValue

structure VendorRanking where
  rank : Int
  symbol : String
  name : String
  marketCap : Option DecimalValue
  closePrice : Option DecimalValue
  listedShares : Option Int
  sector : Option String
  tradingValue : Option DecimalValue

/-- The normalized ranking, and the row with the same columns. -/
structure MarketCapRanking extends VendorRanking where
  rankDate : Int
  market : String
  isAnalysisTarget : Bool

structure Stock where
  symbol : String
  market : String
  name : String
  sector : Option String

structure StockUniverse where
  universeId : Nat
  name : String

instance : Keyed StockUniverse := ⟨StockUniverse.universeId⟩

structure StockUniverseMember where
  universeId : Nat
  symbol : String

structure MarketStore where
  rankings : List MarketCapRanking
  stocks : List Stock
  universes : Table StockUniverse
  members : List StockUniverseMember
  dailyPrices : List DailyPrice

/-- `type(exc).__name__` and `str(exc)` -/
structure CollectError where
  errorType : String
  message : String

def signalError : DecimalSignal → CollectError
  | .invalidOperation => ⟨"InvalidOperation", "[<class 'decimal.InvalidOperation'>]"⟩
  | .overflow => ⟨"Overflow", "[<class 'decimal.Overflow'>]"⟩

def ofSignal {α : Type} : Except DecimalSignal α → Except CollectError α
  | .error signal => .error (signalError signal)
  | .ok value => .ok value

/-- A row on its way into the database. -/
inductive NewRow where
  | ranking (row : MarketCapRanking)
  | stock (row : Stock)
  | stockUniverse (row : StockUniverse)
  | member (row : StockUniverseMember)
  | price (row : DailyPrice)

/-- The vendor, whose rows the normalizer accepts or which raises, and the rows that the columns
of the database can hold. -/
structure Environment where
  fetchMarketCapRankings : String → Int → Int → Except CollectError (List VendorRanking)
  fetchDailyPrices : String → Int → Int → Except CollectError (List VendorPrice)
  accepts : NewRow → Bool
  refusal : NewRow → CollectError
  pendingRollback : CollectError

/-- `_market_close_job_config` -/
structure MarketCloseConfig where
  targetDate : Int
  market : String
  limit : Int
  universeName : String
  startDate : Int
  endDate : Int
  batchSize : Nat
  batchSize_pos : 0 < batchSize

/-- The issues with a ranking have codes of their own. -/
inductive RankingIssueCode where
  | rankingCountShort | duplicateRankingSymbol | duplicateRank | invalidRank | invalidMarketCap
  deriving DecidableEq

structure RankingIssue where
  code : RankingIssueCode
  message : String
  symbol : Option String
  targetDate : Option Int

namespace DataQualityChecker

def issueOf (price : KisDailyPrice) (code : DataQualityCode) (message : String) :
    DataQualityIssue :=
  ⟨code, message, some price.symbol, some price.date⟩

def notPositive (value : DecimalValue) : Except DecimalSignal Bool := do
  return (← value.compareZero) ≠ .gt

/-- The first that is not positive ends an `or`. -/
def anyNotPositive : List DecimalValue → Except DecimalSignal Bool
  | [] => .ok false
  | value :: values => do
    if ← notPositive value then return true
    anyNotPositive values

def issuesAt (seen : List (String × Int)) (price : KisDailyPrice) :
    Except DecimalSignal (List DataQualityIssue) := do
  let duplicate := seen.any fun key => decide (key = (price.symbol, price.date))
  let invalid ← anyNotPositive [price.openPrice, price.high, price.low, price.close]
  let highest ← DecimalValue.maximum price.openPrice [price.close, price.low]
  let highBelow ← price.high.lessThan highest
  let lowest ← DecimalValue.minimum price.openPrice [price.close, price.high]
  let lowAbove ← lowest.lessThan price.low
  return (if duplicate then
      [issueOf price .duplicateDailyPrice "Duplicate daily price row."] else []) ++
    (if invalid then [issueOf price .invalidPrice "OHLC prices must be positive."] else []) ++
    (if highBelow then
      [issueOf price .invalidHighLowRange "High price is lower than one of OHLC values."] else []) ++
    (if lowAbove then
      [issueOf price .invalidHighLowRange "Low price is higher than one of OHLC values."] else []) ++
    (if price.volume < 0 then
      [issueOf price .invalidVolume "Volume cannot be negative."] else []) ++
    (if price.volume = 0 then [issueOf price .zeroVolume "Volume is zero."] else [])

def checkFrom (seen : List (String × Int)) :
    List KisDailyPrice → Except DecimalSignal (List DataQualityIssue)
  | [] => .ok []
  | price :: prices => do
    let issues ← issuesAt seen price
    let rest ← checkFrom ((price.symbol, price.date) :: seen) prices
    return issues ++ rest

def checkDailyPrices (prices : List KisDailyPrice) :
    Except DecimalSignal (List DataQualityIssue) :=
  checkFrom [] prices

def rankingIssueOf (ranking : MarketCapRanking) (code : RankingIssueCode) (message : String) :
    RankingIssue :=
  ⟨code, message, some ranking.symbol, some ranking.rankDate⟩

def isNegative : Option DecimalValue → Except DecimalSignal Bool
  | none => .ok false
  | some value => do return (← value.compareZero) = .lt

def rankingIssuesAt (seenSymbols : List String) (seenRanks : List Int)
    (ranking : MarketCapRanking) : Except DecimalSignal (List RankingIssue) := do
  let negative ← isNegative ranking.marketCap
  return (if ranking.symbol ∈ seenSymbols then
      [rankingIssueOf ranking .duplicateRankingSymbol "Duplicate symbol in market cap rankings."]
      else []) ++
    (if ranking.rank ∈ seenRanks then
      [rankingIssueOf ranking .duplicateRank "Duplicate rank in market cap rankings."] else []) ++
    (if ranking.rank ≤ 0 then
      [rankingIssueOf ranking .invalidRank "Rank must be positive."] else []) ++
    (if negative then
      [rankingIssueOf ranking .invalidMarketCap "Market cap cannot be negative."] else [])

def checkRankingsFrom (seenSymbols : List String) (seenRanks : List Int) :
    List MarketCapRanking → Except DecimalSignal (List RankingIssue)
  | [] => .ok []
  | ranking :: rankings => do
    let issues ← rankingIssuesAt seenSymbols seenRanks ranking
    let rest ← checkRankingsFrom (ranking.symbol :: seenSymbols) (ranking.rank :: seenRanks) rankings
    return issues ++ rest

def checkMarketCapRankings (rankings : List MarketCapRanking) (expectedLimit : Int) :
    Except DecimalSignal (List RankingIssue) := do
  let issues ← checkRankingsFrom [] [] rankings
  return (if (rankings.length : Int) < expectedLimit then
      [⟨.rankingCountShort, "Market cap ranking count is below expected limit.", none, none⟩]
      else []) ++ issues

end DataQualityChecker

/-- A row all of whose prices are numbers. -/
def ofNumbers (price : StockAiPlatform.KisDailyPrice) : KisDailyPrice where
  symbol := price.symbol
  date := price.date
  openPrice := .finite price.openPrice
  high := .finite price.high
  low := .finite price.low
  close := .finite price.close
  volume := price.volume
  tradingValue := none

namespace DataQualityChecker

theorem notPositive_finite (a : ℚ) : notPositive (.finite a) = .ok (decide (a ≤ 0)) := by
  rcases lt_trichotomy a 0 with hNeg | rfl | hPos
  · simp [notPositive, DecimalValue.compareZero, hNeg, hNeg.le, hNeg.not_gt]
  · rfl
  · simp [notPositive, DecimalValue.compareZero, hPos, hPos.not_ge]

theorem anyNotPositive_finite (values : List ℚ) :
    anyNotPositive (values.map .finite) = .ok (values.any fun value => decide (value ≤ 0)) := by
  induction values with
  | nil => rfl
  | cons value values ih =>
    rw [List.map_cons, anyNotPositive, notPositive_finite, List.any_cons]
    cases hHere : decide (value ≤ 0) with
    | true => rfl
    | false => exact ih

variable (seen : List (String × Int)) (price : StockAiPlatform.KisDailyPrice)

theorem issuesAt_ofNumbers :
    issuesAt seen (ofNumbers price) = .ok (StockAiPlatform.DataQualityChecker.issuesAt seen price) := by
  have hSeen : (seen.any fun key => decide (key = ((ofNumbers price).symbol, (ofNumbers price).date))) =
      decide ((price.symbol, price.date) ∈ seen) := by
    rw [Bool.eq_iff_iff, List.any_eq_true, decide_eq_true_eq]
    constructor
    · rintro ⟨key, hKey, hSame⟩
      rw [decide_eq_true_eq] at hSame
      exact hSame ▸ hKey
    · exact fun hKey => ⟨_, hKey, decide_eq_true rfl⟩
  have hInvalid : anyNotPositive [(ofNumbers price).openPrice, (ofNumbers price).high,
      (ofNumbers price).low, (ofNumbers price).close] = .ok (decide (price.openPrice ≤ 0 ∨
        price.high ≤ 0 ∨ price.low ≤ 0 ∨ price.close ≤ 0)) := by
    have hAny := anyNotPositive_finite [price.openPrice, price.high, price.low, price.close]
    simp only [List.any_cons, List.any_nil, Bool.or_false, ← Bool.decide_or] at hAny
    exact hAny
  have hHighest : DecimalValue.maximum (ofNumbers price).openPrice
      [(ofNumbers price).close, (ofNumbers price).low] =
        .ok (.finite (max price.openPrice (max price.close price.low))) := by
    rw [← max_assoc]
    exact maximum_finite price.openPrice [price.close, price.low]
  have hLowest : DecimalValue.minimum (ofNumbers price).openPrice
      [(ofNumbers price).close, (ofNumbers price).high] =
        .ok (.finite (min price.openPrice (min price.close price.high))) := by
    rw [← min_assoc]
    exact minimum_finite price.openPrice [price.close, price.high]
  simp only [issuesAt, hSeen, hInvalid, hHighest, hLowest]
  refine congrArg Except.ok ?_
  simp only [decide_eq_true_eq]
  rfl

theorem checkFrom_ofNumbers (prices : List StockAiPlatform.KisDailyPrice) :
    checkFrom seen (prices.map ofNumbers) =
      .ok (StockAiPlatform.DataQualityChecker.checkFrom seen prices) := by
  induction prices generalizing seen with
  | nil => rfl
  | cons price prices ih =>
    rw [List.map_cons, checkFrom, issuesAt_ofNumbers, ih]
    rfl

/-- On numbers nothing is raised, and the issues are those found there. -/
theorem checkDailyPrices_ofNumbers (prices : List StockAiPlatform.KisDailyPrice) :
    checkDailyPrices (prices.map ofNumbers) =
      .ok (StockAiPlatform.DataQualityChecker.checkDailyPrices prices) :=
  checkFrom_ofNumbers [] prices

end DataQualityChecker

def write (env : Environment) (row : NewRow) (next : MarketStore) : Except CollectError MarketStore :=
  if env.accepts row then .ok next else .error (env.refusal row)

namespace MarketCapRankingRepository

def ofDateMarket (rankDate : Int) (market : String) (row : MarketCapRanking) : Bool :=
  row.rankDate == rankDate && row.market == market

/-- One row of the two unique constraints: for a date and market, no rank and no symbol twice. -/
def clashes (row other : MarketCapRanking) : Bool :=
  ofDateMarket row.rankDate row.market other &&
    (other.rank == row.rank || other.symbol == row.symbol)

def insert (env : Environment) (store : MarketStore) (row : MarketCapRanking) :
    Except CollectError MarketStore :=
  if store.rankings.any (clashes row) then .error (env.refusal (.ranking row))
  else write env (.ranking row) { store with rankings := store.rankings ++ [row] }

def deleted (rankDate : Int) (market : String) (store : MarketStore) : MarketStore :=
  { store with rankings := store.rankings.filter fun row => !ofDateMarket rankDate market row }

def replaceForDateMarket (env : Environment) (rankDate : Int) (market : String)
    (rankings : List MarketCapRanking) (store : MarketStore) :
    Except CollectError (Nat × MarketStore) := do
  let saved ← rankings.foldlM (insert env) (deleted rankDate market store)
  return (rankings.length, saved)

end MarketCapRankingRepository

namespace StockUniverseRepository

def getByName (name : String) (store : MarketStore) : Option StockUniverse :=
  store.universes.rows.find? fun row => row.name == name

def getOrCreate (env : Environment) (name : String) (store : MarketStore) :
    Except CollectError (StockUniverse × MarketStore) :=
  match getByName name store with
  | some found => .ok (found, store)
  | none => do
    let created : StockUniverse := ⟨store.universes.nextKey, name⟩
    let next ← write env (.stockUniverse created)
      { store with universes := store.universes.insert created }
    return (created, next)

end StockUniverseRepository

namespace StockRepository

def getBySymbol (symbol : String) (store : MarketStore) : Option Stock :=
  store.stocks.find? fun stock => stock.symbol == symbol

/-- A sector that is not given stays as it was. -/
def updated (existing : Stock) (item : MarketCapRanking) : Stock :=
  { existing with
    market := item.market
    name := item.name
    sector := item.sector.or existing.sector }

def upsert (env : Environment) (item : MarketCapRanking) (store : MarketStore) :
    Except CollectError (Bool × MarketStore) :=
  match getBySymbol item.symbol store with
  | none => do
    let created : Stock := ⟨item.symbol, item.market, item.name, item.sector⟩
    let next ← write env (.stock created) { store with stocks := store.stocks ++ [created] }
    return (true, next)
  | some existing => do
    let next ← write env (.stock (updated existing item))
      { store with
        stocks := updateWhere (fun stock => stock.symbol == item.symbol)
          (fun stock => updated stock item) store.stocks }
    return (false, next)

end StockRepository

namespace StockUniverseMemberRepository

def listByUniverse (universeId : Nat) (store : MarketStore) : List StockUniverseMember :=
  (store.members.filter fun row => row.universeId == universeId).insertionSort
    fun a b => a.symbol ≤ b.symbol

def addIfMissing (env : Environment) (universeId : Nat) (symbol : String) (store : MarketStore) :
    Except CollectError (Bool × MarketStore) :=
  if store.members.any fun row => row.universeId == universeId && row.symbol == symbol then
    .ok (false, store)
  else do
    let created : StockUniverseMember := ⟨universeId, symbol⟩
    let next ← write env (.member created) { store with members := store.members ++ [created] }
    return (true, next)

end StockUniverseMemberRepository

structure MarketCapRankingCollectorResult where
  rankDate : Int
  market : String
  universeId : Nat
  savedRankings : Nat
  newStocks : Nat
  newUniverseMembers : Nat
  qualityIssues : List RankingIssue

namespace MarketCapRankingCollector

def normalized (config : MarketCloseConfig) (row : VendorRanking) : MarketCapRanking :=
  { row with rankDate := config.targetDate, market := config.market, isAnalysisTarget := true }

def plan (env : Environment) (config : MarketCloseConfig) :
    Except CollectError (List MarketCapRanking × List RankingIssue) := do
  let rows ← env.fetchMarketCapRankings config.market config.targetDate config.limit
  let rankings := rows.map (normalized config)
  let issues ← ofSignal (DataQualityChecker.checkMarketCapRankings rankings config.limit)
  return (rankings, issues)

/-- The loop over the items, with the numbers of new stocks and members. -/
def populate (env : Environment) (universeId : Nat) :
    List MarketCapRanking → MarketStore → Except CollectError ((Nat × Nat) × MarketStore)
  | [], store => .ok ((0, 0), store)
  | item :: items, store => do
    let (stockCreated, store) ← StockRepository.upsert env item store
    let (memberCreated, store) ←
      StockUniverseMemberRepository.addIfMissing env universeId item.symbol store
    let ((newStocks, newMembers), store) ← populate env universeId items store
    return ((newStocks + stockCreated.toNat, newMembers + memberCreated.toNat), store)

def save (env : Environment) (config : MarketCloseConfig) (rankings : List MarketCapRanking)
    (issues : List RankingIssue) (store : MarketStore) :
    Except CollectError (MarketCapRankingCollectorResult × MarketStore) := do
  let (savedRankings, store) ← MarketCapRankingRepository.replaceForDateMarket env
    config.targetDate config.market rankings store
  let (found, store) ← StockUniverseRepository.getOrCreate env config.universeName store
  let ((newStocks, newMembers), store) ← populate env found.universeId rankings store
  return (⟨config.targetDate, config.market, found.universeId, savedRankings, newStocks,
    newMembers, issues⟩, store)

def collect (env : Environment) (config : MarketCloseConfig) :
    EStateM CollectError (UnitOfWork MarketStore) MarketCapRankingCollectorResult :=
  match plan env config with
  | .error error => throw error
  | .ok (rankings, issues) =>
    UnitOfWork.transact env.pendingRollback (save env config rankings issues)

end MarketCapRankingCollector

namespace DailyPriceRepository

def keyOf (row : DailyPrice) : String × Int := (row.symbol, row.date)

def upsert (store : MarketStore) (row : DailyPrice) : MarketStore :=
  { store with dailyPrices := upsertBy keyOf store.dailyPrices row }

end DailyPriceRepository

namespace DailyPriceCollector

def normalized (symbol : String) (row : VendorPrice) : KisDailyPrice := { row with symbol := symbol }

/-- The collector passes no adjusted close. -/
def rowOf (price : KisDailyPrice) : DailyPrice := { price with adjustedClose := none }

/-- The rows fetched, normalized and checked, with what `collect` returns. -/
def plan (env : Environment) (config : MarketCloseConfig) (symbol : String) :
    Except CollectError (List DailyPrice × DailyPriceCollectorResult) := do
  let rows ← env.fetchDailyPrices symbol config.startDate config.endDate
  let prices := rows.map (normalized symbol)
  let issues ← ofSignal (DataQualityChecker.checkDailyPrices prices)
  return (prices.map rowOf, ⟨symbol, prices.length, issues⟩)

def acceptsPrice (env : Environment) (row : DailyPrice) : Bool := env.accepts (.price row)

def refusalOfPrice (env : Environment) (row : DailyPrice) : CollectError := env.refusal (.price row)

def collect (env : Environment) (config : MarketCloseConfig) :
    String → EStateM CollectError (UnitOfWork MarketStore) DailyPriceCollectorResult :=
  UnitOfWork.task env.pendingRollback (refusalOfPrice env) (acceptsPrice env)
    DailyPriceRepository.upsert (plan env config)

end DailyPriceCollector

/-- One of the `failures` of the stage `daily_prices`. -/
structure DailyPriceFailure where
  symbol : String
  error : CollectError

structure MarketCloseResult where
  status : JobStatus
  marketCap : Except CollectError MarketCapRankingCollectorResult
  symbolsCount : Nat
  dailyResults : List DailyPriceCollectorResult
  failures : List DailyPriceFailure
  errorMessage : Option String

namespace MarketCloseResult

def failedSymbols (result : MarketCloseResult) : List String :=
  result.failures.map DailyPriceFailure.symbol

def marketCapFailed (error : CollectError) : MarketCloseResult where
  status := .failed
  marketCap := .error error
  symbolsCount := 0
  dailyResults := []
  failures := []
  errorMessage := some ("market cap collection failed: " ++ error.message)

def failuresOf (outcomes : List (String × Except CollectError DailyPriceCollectorResult)) :
    List DailyPriceFailure :=
  outcomes.filterMap fun
    | (symbol, .error error) => some ⟨symbol, error⟩
    | (_, .ok _) => none

def resultsOf (outcomes : List (String × Except CollectError DailyPriceCollectorResult)) :
    List DailyPriceCollectorResult :=
  outcomes.filterMap fun
    | (_, .error _) => none
    | (_, .ok result) => some result

def statusOf (symbols : List String) (results : List DailyPriceCollectorResult)
    (failures : List DailyPriceFailure) : JobStatus × Option String :=
  if symbols ≠ [] ∧ results.length = 0 then
    (.failed, some "all daily price collections failed")
  else if 0 < failures.length then
    (.partially, some (toString failures.length ++ " daily price collections failed"))
  else (.success, none)

def ofOutcomes (ranking : MarketCapRankingCollectorResult) (symbols : List String)
    (outcomes : List (String × Except CollectError DailyPriceCollectorResult)) :
    MarketCloseResult where
  status := (statusOf symbols (resultsOf outcomes) (failuresOf outcomes)).1
  marketCap := .ok ranking
  symbolsCount := symbols.length
  dailyResults := resultsOf outcomes
  failures := failuresOf outcomes
  errorMessage := (statusOf symbols (resultsOf outcomes) (failuresOf outcomes)).2

theorem failedSymbols_ofOutcomes {ranking : MarketCapRankingCollectorResult}
    {symbols : List String}
    (outcomes : List (String × Except CollectError DailyPriceCollectorResult)) :
    (ofOutcomes ranking symbols outcomes).failedSymbols = UnitOfWork.failedKeys outcomes := by
  rw [failedSymbols, ofOutcomes, failuresOf, UnitOfWork.failedKeys, List.map_filterMap]
  congr 1
  funext outcome
  obtain ⟨symbol, error | result⟩ := outcome <;> rfl

end MarketCloseResult

/-- `values[index:index + size] for index in range(0, len(values), size)` -/
def chunks (values : List String) (size : Nat) : List (List String) :=
  (List.range ((values.length + size - 1) / size)).map fun index =>
    (values.drop (index * size)).take size

def symbolsOf (universeId : Nat) (store : MarketStore) : List String :=
  (StockUniverseMemberRepository.listByUniverse universeId store).map StockUniverseMember.symbol

def collectMarketCloseData (env : Environment) (config : MarketCloseConfig) :
    EStateM CollectError (UnitOfWork MarketStore) MarketCloseResult := do
  match ← UnitOfWork.attempt (MarketCapRankingCollector.collect env config) with
  | .error error => return MarketCloseResult.marketCapFailed error
  | .ok ranking =>
    let symbols ← UnitOfWork.transact env.pendingRollback fun store =>
      .ok (symbolsOf ranking.universeId store, store)
    let outcomes ← UnitOfWork.attemptBatches (DailyPriceCollector.collect env config)
      (chunks symbols config.batchSize)
    return MarketCloseResult.ofOutcomes ranking symbols outcomes

end StockAiPlatform.MarketClose
