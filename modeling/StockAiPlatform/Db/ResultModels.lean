import StockAiPlatform.Db.Models

/-! # The rows that verdicts are made from

Recommendations, the daily prices that follow them, and one result for each
recommendation and horizon. A date is its day number.
-/

namespace StockAiPlatform
set_option autoImplicit false

structure RecommendationRun where
  runId : Nat
  runDate : Int
  deriving DecidableEq, Repr

structure Recommendation where
  id : Nat
  runId : Nat
  rank : Int
  symbol : String
  deriving DecidableEq, Repr

namespace Results

open Transaction

/-- The daily prices. A symbol has one bar a day. -/
structure DailyPriceTable where
  rows : List DailyPrice
  symbol_date_unique : (rows.map DailyPrice.key).Nodup

inductive ResultStatus where
  | pending | success | failed
  deriving DecidableEq, Repr

/-- `_ComputedResult` -/
structure ComputedResult where
  resultDate : Int
  openReturn : Option ℚ
  highReturn : Option ℚ
  lowReturn : Option ℚ
  closeReturn : Option ℚ
  maxReturn : Option ℚ
  maxDrawdown : Option ℚ
  resultStatus : ResultStatus
  deriving DecidableEq

structure RecommendationResult extends ComputedResult where
  id : Nat
  recommendationId : Nat
  daysAfter : Int
  deriving DecidableEq

instance : Keyed RecommendationRun := ⟨RecommendationRun.runId⟩
instance : Keyed Recommendation := ⟨Recommendation.id⟩
instance : Keyed RecommendationResult := ⟨RecommendationResult.id⟩

structure Database where
  runs : Table RecommendationRun
  recommendations : Table Recommendation
  results : Table RecommendationResult
  dailyPrices : DailyPriceTable

end Results

end StockAiPlatform
