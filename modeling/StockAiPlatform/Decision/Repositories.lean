import StockAiPlatform.Db.DecisionModels
import StockAiPlatform.Transaction.AsOf
import StockAiPlatform.Transaction.Upsert
import Mathlib.Data.Prod.Lex

/-! # What the engines look up

Some look-ups are bounded by a date. The newest indicator, consensus and price
of a symbol, and the last mappings and events listed for it, are not.
-/

namespace StockAiPlatform.Decision
set_option autoImplicit false

open Transaction Python

namespace StockUniverseRepository

def getByName (name : String) (db : Database) : Option StockUniverse :=
  db.universes.find? fun row => row.name == name

end StockUniverseRepository

namespace StockUniverseMemberRepository

def listByUniverse (universeId : Nat) (db : Database) : List StockUniverseMember :=
  (db.members.filter fun row => row.universeId == universeId).insertionSort
    fun a b => a.symbol ≤ b.symbol

end StockUniverseMemberRepository

namespace StockRepository

def getBySymbol (symbol : String) (db : Database) : Option Stock :=
  db.stocks.find? fun row => row.symbol == symbol

end StockRepository

namespace HoldingRepository

def listActive (db : Database) : List Holding := db.holdings.filter Holding.isActive

end HoldingRepository

namespace StockIndicatorRepository

def getLatestBySymbol (symbol : String) (db : Database) : Option StockIndicator :=
  latest StockIndicator.date (db.indicators.filter fun row => row.symbol == symbol)

end StockIndicatorRepository

namespace DailyPriceRepository

def getLatestBySymbol (symbol : String) (db : Database) : Option DailyPrice :=
  latest DailyPrice.date (db.dailyPrices.filter fun bar => bar.symbol == symbol)

/-- Whether a bar of the symbol lies in the `lookbackDays` up to the target date. -/
def inLookback (symbol : String) (targetDate : Date) (lookbackDays : Int) (bar : DailyPrice) :
    Bool :=
  bar.symbol == symbol && bar.date ≤ targetDate &&
    targetDate.toordinal - lookbackDays ≤ bar.date.toordinal

def getLatestOnOrBefore (symbol : String) (targetDate : Date) (db : Database)
    (lookbackDays : Int := 14) : Option DailyPrice :=
  latest DailyPrice.date (db.dailyPrices.filter (inLookback symbol targetDate lookbackDays))

end DailyPriceRepository

namespace ReportConsensusSnapshotRepository

def getLatestBySymbol (symbol : String) (db : Database) : Option ReportConsensusSnapshot :=
  latest ReportConsensusSnapshot.snapshotDate
    (db.consensusSnapshots.filter fun row => row.symbol == symbol)

end ReportConsensusSnapshotRepository

namespace ThemeStockMappingRepository

def listBySymbol (symbol : String) (db : Database) (limit : Nat := 50) : List ThemeStockMapping :=
  newest (fun row => row.symbol == symbol) limit db.themeMappings

end ThemeStockMappingRepository

namespace ReportSignalEventRepository

def listBySymbol (symbol : String) (db : Database) (limit : Nat := 50) : List ReportSignalEvent :=
  newest (fun row => row.symbol == some symbol) limit db.signalEvents

end ReportSignalEventRepository

namespace HoldingCheckRepository

/-- `_TYPE_ORDER`. -/
def typeOrder : CheckType → Nat
  | .preMarket => 0
  | .postMarket => 1

def rank (checkDate : Date) (checkType : CheckType) : Date ×ₗ Nat :=
  toLex (checkDate, typeOrder checkType)

def rankOf (check : HoldingCheck) : Date ×ₗ Nat := rank check.checkDate check.checkType

def isEarlier (symbol : String) (beforeDate : Date) (beforeType : CheckType)
    (check : HoldingCheck) : Bool :=
  check.symbol == symbol && decide (rankOf check < rank beforeDate beforeType)

def findPreviousForSymbol (symbol : String) (beforeDate : Date) (beforeType : CheckType)
    (checks : List HoldingCheck) : Option HoldingCheck :=
  ((checks.filter (isEarlier symbol beforeDate beforeType)).insertionSort
    fun a b => rankOf a ≤ rankOf b).getLast?

def sameKey (check row : HoldingCheck) : Bool :=
  row.checkDate == check.checkDate && row.checkType == check.checkType && row.symbol == check.symbol

/-- The row of the day, type and symbol is overwritten, or added. -/
def upsert (check : HoldingCheck) (checks : List HoldingCheck) : List HoldingCheck :=
  if checks.any (sameKey check) then updateWhere (sameKey check) (fun _ => check) checks
  else checks ++ [check]

/-- `uq_holding_checks_date_type_symbol` -/
def checkKey (check : HoldingCheck) : Date × CheckType × String :=
  (check.checkDate, check.checkType, check.symbol)

variable {check other : HoldingCheck} {checks : List HoldingCheck}

theorem sameKey_iff : sameKey check other = true ↔ checkKey other = checkKey check := by
  simp only [sameKey, checkKey, Bool.and_eq_true, beq_iff_eq, Prod.mk.injEq, and_assoc]

theorem checkKey_eq_iff : checkKey other = checkKey check ↔
    rankOf other = rankOf check ∧ other.symbol = check.symbol := by
  have hTypes : typeOrder other.checkType = typeOrder check.checkType ↔
      other.checkType = check.checkType := by
    cases other.checkType <;> cases check.checkType <;> decide
  simp only [checkKey, rankOf, rank, toLex_inj, Prod.mk.injEq, hTypes, and_assoc]

theorem sameKey_eq_hasKey : sameKey check = hasKey checkKey (checkKey check) := by
  funext row
  rw [Bool.eq_iff_iff, hasKey_iff, sameKey_iff]

theorem upsert_eq_upsertBy : upsert check checks = upsertBy checkKey checks check := by
  have hAny : checks.any (sameKey check) = true ↔ checkKey check ∈ checks.map checkKey := by
    simp only [List.any_eq_true, sameKey_eq_hasKey, hasKey_iff, List.mem_map]
  rw [upsert, upsertBy]
  by_cases hOld : checks.any (sameKey check) = true
  · rw [if_pos hOld, if_pos (hAny.mp hOld), sameKey_eq_hasKey]
  · rw [if_neg hOld, if_neg (mt hAny.mpr hOld)]

end HoldingCheckRepository

/-- The id the store hands out next. -/
def nextId (ids : List Nat) : Nat := ids.foldr max 0 + 1

end StockAiPlatform.Decision
