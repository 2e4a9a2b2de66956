import StockAiPlatform.Db.ResultModels

/-! # The rows a backtest reads

The columns of the tables that a replay of past recommendations looks at. A
date is its day number.
-/

namespace StockAiPlatform.Backtest
set_option autoImplicit false

open Python

/-- With the columns that a strategy reads. -/
structure Recommendation extends StockAiPlatform.Recommendation where
  grade : Option String
  totalScore : Option ℚ
  technicalScore : Option ℚ
  newsScore : Option ℚ
  supplyScore : Option ℚ
  fundamentalScore : Option ℚ
  aiScore : Option ℚ
  snapshotId : Option Nat
  deriving DecidableEq

structure RecommendationResult where
  id : Nat
  recommendationId : Nat
  daysAfter : Int
  closeReturn : Option ℚ
  maxDrawdown : Option ℚ
  resultStatus : Option String
  deriving DecidableEq

structure DataSnapshot where
  snapshotId : Nat
  marketContextJson : Option (List (String × Json))

structure MarketRegime where
  date : Int
  market : String
  regime : String
  deriving DecidableEq, Repr

structure Stock where
  symbol : String
  sector : Option String
  deriving DecidableEq, Repr

/-- The stocks. A symbol is unique among them. -/
structure StockTable where
  rows : List Stock
  symbol_unique : (rows.map Stock.symbol).Nodup

structure Database where
  recommendationRuns : List RecommendationRun
  recommendations : List Recommendation
  recommendationResults : List RecommendationResult
  dataSnapshots : List DataSnapshot
  marketRegimes : List MarketRegime

end StockAiPlatform.Backtest
