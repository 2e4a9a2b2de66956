import StockAiPlatform.Data.DailyPriceRepository
import StockAiPlatform.Transaction.Rows

/-! # The price collector

The rows of a vendor are checked and stored. What the checker finds is
reported beside them; no row is held back for it.
-/

namespace StockAiPlatform
set_option autoImplicit false

open Transaction

/-- A row the normalizer made of what the vendor sent. -/
structure KisDailyPrice extends DailyPrice where
  volume : Int
  deriving DecidableEq

inductive DataQualityCode where
  | duplicateDailyPrice | invalidPrice | invalidHighLowRange | invalidVolume | zeroVolume
  deriving DecidableEq, Repr

structure DataQualityIssue where
  code : DataQualityCode
  message : String
  symbol : Option String
  targetDate : Option Int
  deriving DecidableEq, Repr

namespace DataQualityChecker

def issueOf (price : KisDailyPrice) (code : DataQualityCode) (message : String) :
    DataQualityIssue :=
  ⟨code, message, some price.symbol, some price.date⟩

/-- One round of the loop, with the keys of the rows before it. -/
def issuesAt (seen : List (String × Int)) (price : KisDailyPrice) : List DataQualityIssue :=
  (if (price.symbol, price.date) ∈ seen then
    [issueOf price .duplicateDailyPrice "Duplicate daily price row."] else []) ++
  (if price.openPrice ≤ 0 ∨ price.high ≤ 0 ∨ price.low ≤ 0 ∨ price.close ≤ 0 then
    [issueOf price .invalidPrice "OHLC prices must be positive."] else []) ++
  (if price.high < max price.openPrice (max price.close price.low) then
    [issueOf price .invalidHighLowRange "High price is lower than one of OHLC values."] else []) ++
  (if min price.openPrice (min price.close price.high) < price.low then
    [issueOf price .invalidHighLowRange "Low price is higher than one of OHLC values."] else []) ++
  (if price.volume < 0 then
    [issueOf price .invalidVolume "Volume cannot be negative."] else []) ++
  (if price.volume = 0 then [issueOf price .zeroVolume "Volume is zero."] else [])

def checkFrom (seen : List (String × Int)) : List KisDailyPrice → List DataQualityIssue
  | [] => []
  | price :: prices =>
    issuesAt seen price ++ checkFrom ((price.symbol, price.date) :: seen) prices

def checkDailyPrices (prices : List KisDailyPrice) : List DataQualityIssue :=
  checkFrom [] prices

end DataQualityChecker

namespace DailyPriceRepository

def isAt (symbol : String) (date : Int) (bar : DailyPrice) : Bool :=
  bar.symbol == symbol && bar.date == date

def insertPrice (bar : DailyPrice) (db : Database) : Database :=
  { db with dailyPrices := db.dailyPrices ++ [bar] }

def storePrice (price : DailyPrice) (db : Database) : Database :=
  { db with
    dailyPrices := updateWhere (isAt price.symbol price.date) (fun _ => price) db.dailyPrices }

def upsert (price : DailyPrice) : App DailyPrice := do
  match ← getBySymbolDate price.symbol price.date with
  | none => Program.modify (insertPrice price)
  | some _ => Program.modify (storePrice price)
  pure price

end DailyPriceRepository

structure DailyPriceCollectorResult where
  symbol : String
  savedCount : Nat
  qualityIssues : List DataQualityIssue
  deriving DecidableEq, Repr

namespace DailyPriceCollector

open DailyPriceRepository

def storeAll : List KisDailyPrice → App Unit
  | [] => pure ()
  | price :: prices => do
    let _ ← upsert price.toDailyPrice
    storeAll prices

def collect (symbol : String) (normalized : List KisDailyPrice) :
    App DailyPriceCollectorResult := do
  let issues := DataQualityChecker.checkDailyPrices normalized
  storeAll normalized
  return {
    symbol := symbol
    savedCount := normalized.length
    qualityIssues := issues }

end DailyPriceCollector

end StockAiPlatform
