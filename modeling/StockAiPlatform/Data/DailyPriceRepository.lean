import Mathlib.Data.List.Sort
import StockAiPlatform.Broker.KisOrderClient

/-! # Daily prices

A table with one row for each symbol and day.
-/

namespace StockAiPlatform.DailyPriceRepository
set_option autoImplicit false

open Transaction

def getBySymbolDate (symbol : String) (date : Int) : App (Option DailyPrice) :=
  Program.query (.priceByDate symbol date) fun db =>
    db.dailyPrices.find? fun bar => bar.symbol == symbol && bar.date == date

/-- The newest bar of the `lookbackDays` up to the target date. -/
def latestOnOrBefore (symbol : String) (targetDate lookbackDays : Int) (db : Database) :
    Option DailyPrice :=
  ((db.dailyPrices.filter fun bar =>
    bar.symbol == symbol && bar.date ≤ targetDate && targetDate - lookbackDays ≤ bar.date).insertionSort
    fun a b => b.date ≤ a.date).head?

def getLatestOnOrBefore (symbol : String) (targetDate lookbackDays : Int) : App (Option DailyPrice) :=
  Program.query (.latestPrice symbol targetDate lookbackDays)
    (latestOnOrBefore symbol targetDate lookbackDays)

/-! Both reads see the rows of the symbol only. -/

def rowsOf (symbol : String) (prices : List DailyPrice) : List DailyPrice :=
  prices.filter fun bar => bar.symbol == symbol

theorem find?_rowsOf (symbol : String) (date : Int) (prices : List DailyPrice) :
    prices.find? (fun bar => bar.symbol == symbol && bar.date == date) =
      (rowsOf symbol prices).find? fun bar => bar.date == date := by
  rw [rowsOf, List.find?_filter]
  congr 1
  funext bar
  rw [Bool.eq_iff_iff, Bool.and_eq_true, decide_eq_true_iff]

theorem latestOnOrBefore_rowsOf (symbol : String) (targetDate lookbackDays : Int) (db : Database) :
    latestOnOrBefore symbol targetDate lookbackDays db =
      (((rowsOf symbol db.dailyPrices).filter fun bar =>
        bar.date ≤ targetDate && targetDate - lookbackDays ≤ bar.date).insertionSort
        fun a b => b.date ≤ a.date).head? := by
  have hRows : db.dailyPrices.filter (fun bar => bar.symbol == symbol && bar.date ≤ targetDate &&
        targetDate - lookbackDays ≤ bar.date) =
      (rowsOf symbol db.dailyPrices).filter fun bar =>
        bar.date ≤ targetDate && targetDate - lookbackDays ≤ bar.date := by
    rw [rowsOf, List.filter_filter]
    congr 1
    funext bar
    ac_rfl
  rw [latestOnOrBefore, hRows]

end StockAiPlatform.DailyPriceRepository
