import StockAiPlatform.Analysis.Series
import StockAiPlatform.Data.DailyPriceCollector
import StockAiPlatform.Python.Decimal
import Mathlib.Data.List.Sort

/-! # Technical indicators

Moving averages, momentum, breakouts, ranges and candles of the daily bars of a
symbol, and the score they add up to. What the bars are too few for is left
out. Arithmetic is exact up to the rounding of the columns. A period is given
as a natural number.
-/

namespace StockAiPlatform.KisDailyPrice
set_option autoImplicit false

def body (bar : KisDailyPrice) : ℚ := |bar.close - bar.openPrice|

def range (bar : KisDailyPrice) : ℚ := bar.high - bar.low

def upperShadow (bar : KisDailyPrice) : ℚ := bar.high - max bar.openPrice bar.close

def lowerShadow (bar : KisDailyPrice) : ℚ := min bar.openPrice bar.close - bar.low

end StockAiPlatform.KisDailyPrice

namespace StockAiPlatform.Analysis
set_option autoImplicit false

open Python Series

inductive MaAlignment where
  | perfectBull | bull | recover | mixed | bear | perfectBear
  deriving DecidableEq, Repr

inductive CandlePattern where
  | doji | hammer | shootingStar | bullishEngulfing | bearishEngulfing
  deriving DecidableEq, Repr

inductive VolatilityBand where
  | low | normal | high | extreme
  deriving DecidableEq, Repr

structure IndicatorSnapshot where
  symbol : String
  date : Int
  ma5 : Option ℚ
  ma20 : Option ℚ
  ma60 : Option ℚ
  ma120 : Option ℚ
  rsi14 : Option ℚ
  macd : Option ℚ
  macdSignal : Option ℚ
  volumeRatio20d : Option ℚ
  breakout20d : Option Bool
  breakout60d : Option Bool
  maAlignment : Option MaAlignment
  technicalScore : ℚ
  atr14 : Option ℚ
  candlePatterns : Option (List CandlePattern)
  volatilityBand : Option VolatilityBand
  deriving DecidableEq

def simpleMovingAverage (closes : List ℚ) (period : Nat) : Option ℚ :=
  if period = 0 ∨ closes.length < period then none
  else some ((lastValues period closes).sum / period)

def exponentialMovingAverage (values : List ℚ) (period : Nat) : Option (List ℚ) :=
  if period = 0 ∨ values.length < period then none
  else some (emaSeries (2 / (period + 1)) ((values.take period).sum / period) (values.drop period))

def gain (difference : ℚ) : ℚ := if 0 ≤ difference then difference else 0

def loss (difference : ℚ) : ℚ := if 0 ≤ difference then 0 else -difference

def relativeStrengthIndex (closes : List ℚ) (period : Nat := 14) : Option ℚ :=
  if period = 0 ∨ closes.length < period + 1 then none
  else
    let differences := adjacent (fun close previous => close - previous) closes
    let avgGain := wilder period (differences.map gain)
    let avgLoss := wilder period (differences.map loss)
    some (if avgLoss = 0 then (if avgGain = 0 then 50 else 100)
      else 100 - 100 / (1 + avgGain / avgLoss))

def computeMacd (closes : List ℚ) (fastPeriod : Nat := 12) (slowPeriod : Nat := 26)
    (signalPeriod : Nat := 9) : Option ℚ × Option ℚ :=
  if closes.length < slowPeriod then (none, none)
  else
    match exponentialMovingAverage closes fastPeriod, exponentialMovingAverage closes slowPeriod with
    | some fastSeries, some slowSeries =>
      let alignedFast := lastValues slowSeries.length fastSeries
      let macdSeries := List.zipWith (fun f s => f - s) alignedFast slowSeries
      if macdSeries.length < signalPeriod then (macdSeries.getLast?, none)
      else (macdSeries.getLast?,
        (exponentialMovingAverage macdSeries signalPeriod).bind List.getLast?)
    | _, _ => (none, none)

def computeVolumeRatio20d (volumes : List Int) (period : Nat := 20) : Option ℚ :=
  if period = 0 ∨ volumes.length < period + 1 then none
  else
    let avg : ℚ := (priorWindow period volumes).sum / period
    if avg = 0 then none else volumes.getLast?.map fun volume : Int => (volume : ℚ) / avg

def computeBreakout (highs : List ℚ) (period : Nat) (todayClose : ℚ) : Option Bool :=
  if period = 0 ∨ highs.length < period + 1 then none
  else (priorWindow period highs).max?.map fun top => decide (top < todayClose)

def classifyMaAlignment (close ma5 ma20 ma60 ma120 : Option ℚ) : Option MaAlignment :=
  match ma5, ma20, ma60 with
  | some ma5, some ma20, some ma60 =>
    if ma20 < ma5 ∧ ma60 < ma20 then
      some (if ma120.any fun ma120 => ma120 < ma60 then .perfectBull else .bull)
    else if ma5 < ma20 ∧ ma20 < ma60 then
      some (if ma120.any fun ma120 => ma60 < ma120 then .perfectBear else .bear)
    else if (close.any fun close => ma20 < close) ∧ ma20 < ma60 then some .recover
    else some .mixed
  | _, _, _ => none

def byDate (bars : List KisDailyPrice) : List KisDailyPrice :=
  bars.insertionSort fun a b => a.date ≤ b.date

def trueRange (bar previous : KisDailyPrice) : ℚ :=
  max (max (bar.high - bar.low) |bar.high - previous.close|) |bar.low - previous.close|

def computeAtr14 (bars : List KisDailyPrice) (period : Nat := 14) : Option ℚ :=
  if period = 0 ∨ bars.length < period + 1 then none
  else
    let trs := adjacent trueRange (byDate bars)
    if trs.length < period then none else some (wilder period trs)

def detectDoji (bar : KisDailyPrice) (bodyPctOfClose : ℚ := 1 / 10) : Bool :=
  if bar.close ≤ 0 then false else bar.body ≤ bar.close * bodyPctOfClose / 100

def detectHammer (bar : KisDailyPrice) : Bool :=
  if bar.range = 0 ∨ bar.body = 0 then false
  else bar.body / bar.range ≤ 34 / 100 ∧ bar.body * 2 ≤ bar.lowerShadow ∧ bar.upperShadow ≤ bar.body

def detectShootingStar (bar : KisDailyPrice) : Bool :=
  if bar.range = 0 ∨ bar.body = 0 then false
  else bar.body / bar.range ≤ 34 / 100 ∧ bar.body * 2 ≤ bar.upperShadow ∧ bar.lowerShadow ≤ bar.body

def detectBullishEngulfing (prev curr : KisDailyPrice) : Bool :=
  if prev.openPrice ≤ prev.close then false
  else if curr.close ≤ curr.openPrice then false
  else curr.openPrice ≤ prev.close ∧ prev.openPrice ≤ curr.close

def detectBearishEngulfing (prev curr : KisDailyPrice) : Bool :=
  if prev.close ≤ prev.openPrice then false
  else if curr.openPrice ≤ curr.close then false
  else prev.close ≤ curr.openPrice ∧ curr.close ≤ prev.openPrice

/-- `ordered[-2]`, if there are two bars. -/
def secondLast (ordered : List KisDailyPrice) : Option KisDailyPrice := ordered.dropLast.getLast?

def triggered (pattern : CandlePattern) (detected : Bool) : List CandlePattern :=
  if detected then [pattern] else []

def detectCandlePatterns (bars : List KisDailyPrice) : List CandlePattern :=
  match (byDate bars).getLast? with
  | none => []
  | some last =>
    triggered .doji (detectDoji last) ++ triggered .hammer (detectHammer last) ++
      triggered .shootingStar (detectShootingStar last) ++
      match secondLast (byDate bars) with
      | none => []
      | some prev => triggered .bullishEngulfing (detectBullishEngulfing prev last) ++
        triggered .bearishEngulfing (detectBearishEngulfing prev last)

def classifyVolatility (atr14 latestClose : Option ℚ) : Option VolatilityBand :=
  match atr14, latestClose with
  | some atr14, some latestClose =>
    if latestClose ≤ 0 then none
    else
      let pct := atr14 / latestClose * 100
      some (if pct < 1 then .low else if pct < 3 then .normal else if pct < 5 then .high
        else .extreme)
  | _, _ => none

/-- `_CANDLE_BONUS` -/
def CandlePattern.bonus : CandlePattern → ℚ
  | bullishEngulfing => 5
  | hammer => 3
  | doji => 0
  | shootingStar => -3
  | bearishEngulfing => -5

/-- `_VOLATILITY_BONUS` -/
def VolatilityBand.bonus : VolatilityBand → ℚ
  | low => 2
  | normal => 0
  | high => -3
  | extreme => -5

def MaAlignment.points : MaAlignment → ℚ
  | perfectBull => 30
  | bull => 22
  | recover => 15
  | mixed => 10
  | bear => 5
  | perfectBear => 0

def candleBonus (patterns : Option (List CandlePattern)) : ℚ :=
  let bonus := ((patterns.getD []).map CandlePattern.bonus).sum
  if 5 < bonus then 5 else if bonus < -5 then -5 else bonus

def volumePoints (volumeRatio20d : ℚ) : ℚ :=
  if 3 ≤ volumeRatio20d then 25 else if 2 ≤ volumeRatio20d then 20
  else if 15 / 10 ≤ volumeRatio20d then 15 else if 12 / 10 ≤ volumeRatio20d then 10
  else if 1 ≤ volumeRatio20d then 5 else 0

def rsiPoints (rsi14 : ℚ) : ℚ :=
  if 50 ≤ rsi14 ∧ rsi14 ≤ 70 then 10 else if 40 ≤ rsi14 ∧ rsi14 < 50 then 5
  else if 30 ≤ rsi14 ∧ rsi14 < 40 then 2 else 0

/-- The MACD lies over its signal. -/
def crossed : Option ℚ → Option ℚ → Bool
  | some macdValue, some macdSignal => macdSignal < macdValue
  | _, _ => false

def clampScore (score : ℚ) : ℚ := if score < 0 then 0 else if 100 < score then 100 else score

def calculateTechnicalScore (maAlignment : Option MaAlignment) (volumeRatio20d : Option ℚ)
    (breakout20d breakout60d : Option Bool) (rsi14 macdValue macdSignal : Option ℚ)
    (candlePatterns : Option (List CandlePattern)) (volatilityBand : Option VolatilityBand) : ℚ :=
  clampScore ((maAlignment.map MaAlignment.points).getD 0 + (volumeRatio20d.map volumePoints).getD 0 +
    (if breakout60d = some true then 25 else if breakout20d = some true then 15 else 0) +
    (rsi14.map rsiPoints).getD 0 + (if crossed macdValue macdSignal then 10 else 0) +
    candleBonus candlePatterns + (volatilityBand.map VolatilityBand.bonus).getD 0)

namespace TechnicalAnalyzer

/-- The snapshot of bars in ascending order, before its columns are rounded. -/
def measure (ordered : List KisDailyPrice) (last : KisDailyPrice) : IndicatorSnapshot :=
  let closes := ordered.map (·.close)
  let highs := ordered.map (·.high)
  let ma5 := simpleMovingAverage closes 5
  let ma20 := simpleMovingAverage closes 20
  let ma60 := simpleMovingAverage closes 60
  let ma120 := simpleMovingAverage closes 120
  let rsi14 := relativeStrengthIndex closes
  let macd := computeMacd closes
  let volumeRatio20d := computeVolumeRatio20d (ordered.map KisDailyPrice.volume)
  let breakout20d := computeBreakout highs 20 last.close
  let breakout60d := computeBreakout highs 60 last.close
  let maAlignment := classifyMaAlignment (some last.close) ma5 ma20 ma60 ma120
  let atr14 := computeAtr14 ordered
  let detected := detectCandlePatterns ordered
  let candlePatterns := if detected = [] then none else some detected
  let volatilityBand := classifyVolatility atr14 (some last.close)
  { symbol := last.symbol
    date := last.date
    ma5, ma20, ma60, ma120, rsi14
    macd := macd.1
    macdSignal := macd.2
    volumeRatio20d, breakout20d, breakout60d, maAlignment
    technicalScore := calculateTechnicalScore maAlignment volumeRatio20d breakout20d breakout60d
      rsi14 macd.1 macd.2 candlePatterns volatilityBand
    atr14, candlePatterns, volatilityBand }

def rounded (snapshot : IndicatorSnapshot) : IndicatorSnapshot :=
  { snapshot with
    ma5 := snapshot.ma5.map (quantize 4)
    ma20 := snapshot.ma20.map (quantize 4)
    ma60 := snapshot.ma60.map (quantize 4)
    ma120 := snapshot.ma120.map (quantize 4)
    rsi14 := snapshot.rsi14.map (quantize 4)
    macd := snapshot.macd.map (quantize 4)
    macdSignal := snapshot.macdSignal.map (quantize 4)
    volumeRatio20d := snapshot.volumeRatio20d.map (quantize 4)
    technicalScore := quantize 4 snapshot.technicalScore
    atr14 := snapshot.atr14.map (quantize 4) }

/-- `analyze_latest` up to the rounding. -/
def measureLatest (bars : List KisDailyPrice) : Option IndicatorSnapshot :=
  (byDate bars).getLast?.map (measure (byDate bars))

def analyzeLatest (bars : List KisDailyPrice) : Option IndicatorSnapshot :=
  (measureLatest bars).map rounded

end TechnicalAnalyzer

end StockAiPlatform.Analysis
