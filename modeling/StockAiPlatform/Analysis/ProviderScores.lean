import StockAiPlatform.Analysis.ScoreProducers
import StockAiPlatform.Data.NewsItemRepository
import StockAiPlatform.Python.Json
import StockAiPlatform.Python.Rounding
import StockAiPlatform.Scoring.ScoreDelta
import StockAiPlatform.Transaction.Upsert

/-! # Producers that read data

The news, fundamental and earnings producers each replace one score of the
producer they wrap, and add to its metadata. What they record as evidence is
opaque here.
-/

namespace StockAiPlatform.Decision
set_option autoImplicit false

open Python Feeds Scoring Transaction

def newsLookbackDays : Int := 7
def newsLookbackLimit : Nat := 50

def recencyFactor (now publishedAt : Int) : ℚ :=
  let delta := now - publishedAt
  if delta ≤ hours 24 then 1
  else if delta ≤ days 3 then 7 / 10
  else if delta ≤ days 7 then 3 / 10
  else 0

def sentimentValue (sentiment : Option String) : ℚ :=
  if sentiment = some "POSITIVE" then 1 else if sentiment = some "NEGATIVE" then -1 else 0

def calculateNewsScore (now : Int) (rows : List NewsItem) : ℚ :=
  if rows = [] then neutralScore
  else
    let weighted := (rows.map fun row =>
      sentimentValue row.sentiment * recencyFactor now row.publishedAt).sum
    let raw := divide (neutralScore + divide (weighted * 5) (max rows.length 1 : Nat)) 1
    max (min raw 100) 0

def clipScore (value : ℚ) : ℚ := max (min value 100) 0

def scoreRoe (roe : ℚ) : ℚ := min (max roe (-10)) 25 * (6 / 10)

def scorePer (per : ℚ) : ℚ :=
  if per ≤ 8 then 8
  else if per ≤ 15 then 4
  else if per ≤ 25 then 0
  else if per ≤ 40 then -6
  else -12

def scorePbr (pbr : ℚ) : ℚ :=
  if pbr ≤ 1 then 4 else if 4 ≤ pbr then -8 else if 5 / 2 ≤ pbr then -4 else 0

def scoreRevenueGrowth (growth : ℚ) : ℚ := min (max growth (-20)) 30 * (1 / 4)

def scoreOperatingIncomeGrowth (growth : ℚ) : ℚ := min (max growth (-30)) 50 * (1 / 4)

def scoreDebtRatio (debtRatio : ℚ) : ℚ :=
  if 200 ≤ debtRatio then -15 else if 100 ≤ debtRatio then -8 else if debtRatio ≤ 50 then 3 else 0

def scoreDividendYield (dividendYield : ℚ) : ℚ :=
  if 0 < dividendYield then min dividendYield 5 * (8 / 10) else 0

/-- A missing value neither adds nor takes. -/
def scoreFundamentalSnapshot : Option FundamentalSnapshot → ℚ
  | none => neutralScore
  | some snapshot =>
    clipScore (neutralScore + (snapshot.roe.map scoreRoe).getD 0 +
      (snapshot.per.map scorePer).getD 0 + (snapshot.pbr.map scorePbr).getD 0 +
      (snapshot.revenueGrowthYoy.map scoreRevenueGrowth).getD 0 +
      (snapshot.operatingIncomeGrowthYoy.map scoreOperatingIncomeGrowth).getD 0 +
      (snapshot.debtRatio.map scoreDebtRatio).getD 0 +
      (snapshot.dividendYield.map scoreDividendYield).getD 0)

def recencyMultiplier (eventDate asOf : Int) : ℚ :=
  let ageDays := asOf - eventDate
  if ageDays < 0 then 1 / 2
  else if ageDays ≤ 30 then 1
  else if ageDays ≤ 90 then 6 / 10
  else 3 / 10

def scoreEarningsEvent (asOf : Int) : Option SourcedEarningsEvent → ℚ
  | none => neutralScore
  | some event =>
    let baseDelta : ℚ :=
      if event.surpriseType = some "BEAT" then 10
      else if event.surpriseType = some "MISS" then -10
      else 0
    let surpriseDelta := (event.surprisePct.map fun pct => max (min (pct * (1 / 2)) 10) (-10)).getD 0
    clipScore (neutralScore + (baseDelta + surpriseDelta) * recencyMultiplier event.eventDate asOf)

structure ProviderTables where
  newsItems : List NewsItem
  fundamentalSnapshots : List FundamentalSnapshot
  earningsEvents : List SourcedEarningsEvent

namespace ProviderTables

/-- A missing quarter comes after every other. -/
def isNewer (a b : FundamentalSnapshot) : Bool :=
  if a.snapshotDate ≠ b.snapshotDate then b.snapshotDate < a.snapshotDate
  else if a.fiscalYear ≠ b.fiscalYear then b.fiscalYear < a.fiscalYear
  else match a.fiscalQuarter, b.fiscalQuarter with
    | _, none => true
    | none, some _ => false
    | some quarter, some quarter' => quarter' ≤ quarter

def latestFundamental (tables : ProviderTables) (symbol : String) : Option FundamentalSnapshot :=
  ((tables.fundamentalSnapshots.filter fun row => row.symbol == symbol).insertionSort
    fun a b => isNewer a b = true).head?

def latestEarnings (tables : ProviderTables) (symbol : String) : Option SourcedEarningsEvent :=
  ((tables.earningsEvents.filter fun row => row.symbol == symbol).insertionSort fun a b =>
    b.eventDate < a.eventDate ∨ (a.eventDate = b.eventDate ∧ b.id ≤ a.id)).head?

end ProviderTables

/-- What is recorded beside the scores for a reader. -/
structure Evidence where
  recommendationRules : StockIndicator → Json
  holdingRules : StockIndicator → Json
  news : Int → List NewsItem → Json
  fundamental : Option FundamentalSnapshot → Json
  earnings : Option SourcedEarningsEvent → Json

abbrev Metadata := List (String × Json)

structure RecordedRecommendation extends RecommendationComponentScores where
  metadata : Metadata

structure RecordedHolding extends HoldingComponentScores where
  metadata : Metadata

/-- `{**metadata, key: value}` -/
def extend (metadata : Metadata) (key : String) (value : Json) : Metadata :=
  upsertBy Prod.fst metadata (key, value)

/-- A producer with those it wraps. Those that read the clock carry its instant or day. -/
inductive ProducerChain where
  | dummy
  | news (now : Int) (newsDataSource : Option String) (fallback : ProducerChain)
  | fundamental (fallback : ProducerChain)
  | earnings (asOf : Int) (fallback : ProducerChain)

namespace ProducerChain

def recentNews (now : Int) (tables : ProviderTables) (symbol : String) : List NewsItem :=
  NewsItemRepository.listRecentBySymbol symbol (some (now - days newsLookbackDays))
    newsLookbackLimit tables.newsItems

variable (policy : ProviderScorePolicy) (tables : ProviderTables) (evidence : Evidence)

def scoreRecommendation (stock : Stock) (indicator : StockIndicator) :
    ProducerChain → RecordedRecommendation
  | dummy =>
    { dummyScoreProducer.scoreRecommendation stock indicator with
      metadata := [("producer", .str "DummyScoreProducer"), ("mode", .str "rule_based_dummy"),
        ("symbol", .str stock.symbol), ("rules", evidence.recommendationRules indicator)] }
  | news now newsDataSource fallback =>
    let base := fallback.scoreRecommendation stock indicator
    let rows := recentNews now tables stock.symbol
    { base with
      newsScore := policy.applyPolicy (calculateNewsScore now rows) newsDataSource
      metadata := extend (extend base.metadata "news_producer" (.str "RealNewsScoreProducer"))
        "news_evidence" (evidence.news now rows) }
  | fundamental fallback =>
    let base := fallback.scoreRecommendation stock indicator
    let snapshot := tables.latestFundamental stock.symbol
    { base with
      fundamentalScore := policy.applyPolicy (scoreFundamentalSnapshot snapshot)
        (snapshot.bind FundamentalSnapshot.dataSource)
      metadata := extend (extend base.metadata "fundamental_producer"
        (.str "RealFundamentalScoreProducer")) "fundamental_evidence" (evidence.fundamental snapshot) }
  | earnings _ fallback => fallback.scoreRecommendation stock indicator

def scoreHolding (holding : Holding) (indicator : StockIndicator) : ProducerChain → RecordedHolding
  | dummy =>
    { dummyScoreProducer.scoreHolding holding indicator with
      metadata := [("producer", .str "DummyScoreProducer"), ("mode", .str "rule_based_dummy"),
        ("symbol", .str holding.symbol), ("rules", evidence.holdingRules indicator)] }
  | news now newsDataSource fallback =>
    let base := fallback.scoreHolding holding indicator
    let rows := recentNews now tables holding.symbol
    { base with
      newsScore := policy.applyPolicy (calculateNewsScore now rows) newsDataSource
      metadata := extend (extend base.metadata "news_producer" (.str "RealNewsScoreProducer"))
        "news_evidence" (evidence.news now rows) }
  | fundamental fallback => fallback.scoreHolding holding indicator
  | earnings asOf fallback =>
    let base := fallback.scoreHolding holding indicator
    let event := tables.latestEarnings holding.symbol
    { base with
      earningsScore := policy.applyPolicy (scoreEarningsEvent asOf event)
        (event.bind SourcedEarningsEvent.dataSource)
      metadata := extend (extend base.metadata "earnings_producer"
        (.str "RealEarningsScoreProducer")) "earnings_evidence" (evidence.earnings event) }

/-- What the engines are given. -/
def producer (chain : ProducerChain) : ScoreProducer where
  scoreRecommendation stock indicator :=
    (chain.scoreRecommendation policy tables evidence stock indicator).toRecommendationComponentScores
  scoreHolding holding indicator :=
    (chain.scoreHolding policy tables evidence holding indicator).toHoldingComponentScores

end ProducerChain

end StockAiPlatform.Decision
