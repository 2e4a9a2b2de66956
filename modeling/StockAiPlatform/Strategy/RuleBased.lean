import StockAiPlatform.Backtest.Engine

/-! # The rule-based strategies

The strategies of the registry. Each puts into the evidence of its signal the
few values its rule looked at. Counting news may overflow on an infinite count,
and then the whole run does not come about.
-/

namespace StockAiPlatform.Strategies
set_option autoImplicit false

open Backtest Python

theorem clampConfidence_bounds (value : ℚ) :
    0 ≤ max 0 (min value 1) ∧ max 0 (min value 1) ≤ 1 :=
  ⟨le_max_left _ _, max_le zero_le_one (min_le_right _ _)⟩

/-- `StrategySignal(...)`, with the confidence clamped. -/
def strategySignal (action : StrategyAction) (confidence : ℚ) (reason : String)
    (evidence : List (String × Json)) : StrategySignal where
  action := action
  confidence := max 0 (min confidence 1)
  reason := reason
  evidence := some evidence
  confidence_ok := clampConfidence_bounds confidence

def neutralConfidence : ℚ := 1 / 2

def upperText (text : Option String) : String := String.ofList (upper (text.getD "").toList)

def orNull (text : String) : Json := if text = "" then .null else .str text

/-- `str(value) if value is not None else None` of a stored score. -/
def scoreText : Option ℚ → Json
  | none => .null
  | some score => .str (fixed 4 score)

namespace TopGradeStrategy

def evaluate (snapshot : ScoreSnapshot) : StrategySignal :=
  let grade := upperText snapshot.grade
  if grade = "S" ∨ grade = "A" then
    strategySignal .buy (if grade = "S" then 9 / 10 else 3 / 4) ("grade=" ++ grade)
      [("grade", .str grade)]
  else if grade = "D" then strategySignal .avoid (3 / 4) "grade=D" [("grade", .str grade)]
  else
    strategySignal .pass neutralConfidence ("grade=" ++ if grade = "" then "unknown" else grade)
      [("grade", orNull grade)]

end TopGradeStrategy

namespace HighScoreStrategy

def buyThreshold : ℚ := 75

def avoidThreshold : ℚ := 35

def evaluate (snapshot : ScoreSnapshot) : StrategySignal :=
  match snapshot.totalScore with
  | none => strategySignal .pass neutralConfidence "total_score=None" [("total_score", .null)]
  | some score =>
    let evidence := [("total_score", Json.str (fixed 4 score))]
    let reason := "total_score=" ++ fixed 4 score
    if buyThreshold ≤ score then
      strategySignal .buy (6 / 10 + (score - buyThreshold) * (16 / 1000)) (reason ++ " >= 75") evidence
    else if score ≤ avoidThreshold then
      strategySignal .avoid (6 / 10 + (avoidThreshold - score) * (11 / 1000)) (reason ++ " <= 35")
        evidence
    else strategySignal .pass neutralConfidence (reason ++ " (mid-range)") evidence

end HighScoreStrategy

/-- What `int` makes of a float: `nan` is a ValueError, an infinite one an OverflowError. -/
inductive FloatInt where
  | int (value : Int)
  | valueError
  | overflowError
  deriving DecidableEq, Repr

namespace MultiSignalStrategy

def totalBuy : ℚ := 65

def totalAvoid : ℚ := 35

def fundamentalMin : ℚ := 60

def newsMin : ℚ := 50

def earningsMin : ℚ := 50

def hasRiskDisclosure (snapshot : ScoreSnapshot) : Bool :=
  snapshot.riskFlags.contains "RISK_DISCLOSURE"

abbrev Evidence := Option (List (String × List (String × Json)))

def evidenceOf (key : String) (evidence : Evidence) : Option (List (String × Json)) :=
  ((evidence.getD []).find? fun entry => entry.1 == key).map Prod.snd

def earningsSurpriseType (evidence : Evidence) : Option Json :=
  (evidenceOf "earnings_evidence" evidence).bind (Json.get? "surprise_type")

variable (intOfFloat : FloatRepr → FloatInt)

/-- `int(value or 0)`. -/
def countOf (value : Option Json) : FloatInt :=
  match value with
  | none => .int 0
  | some value =>
    if value.truthy then
      match value with
      | .bool _ => .int 1
      | .int n => .int n
      | .float repr => intOfFloat repr
      | .str text =>
        match int? text.toList with
        | some n => .int n
        | none => .valueError
      | _ => .valueError
    else .int 0

/-- Positive less negative news; `none` is an OverflowError, which is not caught. -/
def newsSentimentSkew (evidence : Evidence) : Option Int :=
  match evidenceOf "news_evidence" evidence with
  | none => some 0
  | some news =>
    match countOf intOfFloat (Json.get? "positive_count" news) with
    | .overflowError => none
    | .valueError => some 0
    | .int positive =>
      match countOf intOfFloat (Json.get? "negative_count" news) with
      | .overflowError => none
      | .valueError => some 0
      | .int negative => some (positive - negative)

def scoresEvidence (snapshot : ScoreSnapshot) : List (String × Json) :=
  [("total_score", scoreText snapshot.totalScore),
    ("fundamental_score", scoreText snapshot.fundamentalScore),
    ("news_score", scoreText snapshot.newsScore),
    ("earnings_score", scoreText snapshot.earningsScore),
    ("risk_level", (snapshot.riskLevel.map Json.str).getD .null)]

def buyConditionsMet (snapshot : ScoreSnapshot) : Bool :=
  snapshot.totalScore.any (totalBuy ≤ ·) && snapshot.fundamentalScore.any (fundamentalMin ≤ ·) &&
    snapshot.newsScore.any (newsMin ≤ ·) && snapshot.earningsScore.all (earningsMin ≤ ·)

def buySignal (snapshot : ScoreSnapshot) (skew : Int) : StrategySignal :=
  let beat := match earningsSurpriseType snapshot.evidence with
    | some (.str text) => text == "BEAT"
    | _ => false
  let shown (score : Option ℚ) := (score.map (fixed 4)).getD "None"
  strategySignal .buy
    (7 / 10 + (if beat then 1 / 10 else 0) + (if 0 < skew then 5 / 100 else 0))
    (String.intercalate "; "
      (["total=" ++ shown snapshot.totalScore, "fundamental=" ++ shown snapshot.fundamentalScore,
        "news=" ++ shown snapshot.newsScore,
        "earnings=" ++ (snapshot.earningsScore.map (fixed 4)).getD "N/A"] ++
        (if beat then ["earnings BEAT boost"] else []) ++
        (if 0 < skew then ["news sentiment skew positive"] else [])))
    (scoresEvidence snapshot)

def evaluate (snapshot : ScoreSnapshot) : Option StrategySignal :=
  if upperText snapshot.riskLevel = "HIGH" then
    some (strategySignal .avoid (85 / 100) "risk_level=HIGH"
      [("risk_level", (snapshot.riskLevel.map Json.str).getD .null)])
  else if hasRiskDisclosure snapshot then
    some (strategySignal .avoid (85 / 100) "RISK_DISCLOSURE flag"
      [("risk_flags", .list (snapshot.riskFlags.map Json.str))])
  else if snapshot.totalScore.any (· ≤ totalAvoid) then
    some (strategySignal .avoid (7 / 10)
      ("total_score=" ++ fixed 4 (snapshot.totalScore.getD 0) ++ " <= 35")
      [("total_score", scoreText snapshot.totalScore)])
  else if buyConditionsMet snapshot then
    (newsSentimentSkew intOfFloat snapshot.evidence).map (buySignal snapshot)
  else
    some (strategySignal .pass neutralConfidence "conditions not met for BUY/AVOID"
      (scoresEvidence snapshot))

end MultiSignalStrategy

/-- `STRATEGY_REGISTRY` -/
inductive KnownStrategy where
  | topGrade | highScore | multiSignal
  deriving DecidableEq, Repr

namespace KnownStrategy

variable (intOfFloat : FloatRepr → FloatInt)

/-- The signal, or nothing where evaluating raises. -/
def evaluate : KnownStrategy → ScoreSnapshot → Option StrategySignal
  | topGrade, snapshot => some (TopGradeStrategy.evaluate snapshot)
  | highScore, snapshot => some (HighScoreStrategy.evaluate snapshot)
  | multiSignal, snapshot => MultiSignalStrategy.evaluate intOfFloat snapshot

def name : KnownStrategy → String
  | topGrade => "TopGradeStrategy"
  | highScore => "HighScoreStrategy"
  | multiSignal => "MultiSignalStrategy"

/-- The strategy on the snapshots it does not raise on. -/
def total (strategy : KnownStrategy) : Strategy where
  name := strategy.name
  version := "v1.0.0"
  evaluate snapshot :=
    (strategy.evaluate intOfFloat snapshot).getD
      (strategySignal .pass neutralConfidence "" [])

theorem total_evaluate {intOfFloat : FloatRepr → FloatInt} {strategy : KnownStrategy}
    {snapshot : ScoreSnapshot} {signal : StrategySignal}
    (h : strategy.evaluate intOfFloat snapshot = some signal) :
    (strategy.total intOfFloat).evaluate snapshot = signal := by
  change (strategy.evaluate intOfFloat snapshot).getD _ = signal
  rw [h]
  rfl

end KnownStrategy

end StockAiPlatform.Strategies
