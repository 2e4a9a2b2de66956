import StockAiPlatform.Python.Decimal
import Mathlib.Data.List.Sort

/-! # News items, fundamentals and earnings events

The tables the public listings and the score producers read. Instants are in
microseconds, dates day numbers. The related symbols of a news item are a JSON
list, which is searched in Python after the items were ordered.
-/

namespace StockAiPlatform.Feeds
set_option autoImplicit false

structure NewsItem where
  id : Nat
  publishedAt : Int
  availableAt : Option Int
  source : String
  title : String
  url : Option String
  relatedSymbols : Option (List String)
  sentiment : Option String
  importance : Option String
  theme : Option String
  category : Option String
  deriving DecidableEq, Repr

/-- The columns the calendar shows. -/
structure EarningsEvent where
  id : Nat
  symbol : String
  companyName : Option String
  eventDate : Int
  fiscalYear : Int
  fiscalQuarter : Option Int
  eventType : String
  surpriseType : Option String
  surprisePct : Option ℚ
  deriving DecidableEq

/-- The columns that are scored. No column holds the provenance, so that rows of the table have none. -/
structure FundamentalSnapshot where
  symbol : String
  snapshotDate : Int
  fiscalYear : Int
  fiscalQuarter : Option Int
  per : Option ℚ
  pbr : Option ℚ
  roe : Option ℚ
  debtRatio : Option ℚ
  dividendYield : Option ℚ
  revenueGrowthYoy : Option ℚ
  operatingIncomeGrowthYoy : Option ℚ
  dataSource : Option String := none

/-- An event with the provenance it was given, if any: no column holds it. -/
structure SourcedEarningsEvent extends EarningsEvent where
  dataSource : Option String := none

structure Database where
  newsItems : List NewsItem
  earningsEvents : List EarningsEvent

def microsecondsPerHour : Int := 3600 * 1000000

def hours (n : Int) : Int := n * microsecondsPerHour

def days (n : Int) : Int := hours (24 * n)

namespace NewsItemRepository

def isRelated (symbol : String) (item : NewsItem) : Bool :=
  (item.relatedSymbols.getD []).contains symbol

def isSince (since : Option Int) (item : NewsItem) : Bool := since.all (· ≤ item.publishedAt)

/-- The items of the symbol, the newest first. -/
def relatedRows (symbol : String) (since : Option Int) (newsItems : List NewsItem) :
    List NewsItem :=
  ((newsItems.filter (isSince since)).insertionSort
    fun a b => b.publishedAt ≤ a.publishedAt).filter (isRelated symbol)

/-- The limit is tested once an item was added. -/
def listRecentBySymbol (symbol : String) (since : Option Int) (limit : Nat)
    (newsItems : List NewsItem) : List NewsItem :=
  (relatedRows symbol since newsItems).take (max limit 1)

theorem relatedRows_perm (symbol : String) (since : Option Int) (newsItems : List NewsItem) :
    (relatedRows symbol since newsItems).Perm
      (newsItems.filter fun item => isSince since item && isRelated symbol item) := by
  refine ((List.perm_insertionSort _ _).filter _).trans (List.Perm.of_eq ?_)
  rw [List.filter_filter]
  exact List.filter_congr fun item _ => Bool.and_comm _ _

end NewsItemRepository

end StockAiPlatform.Feeds
