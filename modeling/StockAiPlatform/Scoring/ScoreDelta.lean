import StockAiPlatform.Python.Decimal
import StockAiPlatform.Python.Json

/-! # Score deltas

What the provider score policy takes off the component scores of a candidate,
and how the recommendation engine records it in the snapshot of the candidate.
-/

namespace StockAiPlatform.Scoring
set_option autoImplicit false

open Python

def dataSourceReliability : List (String × ℚ) :=
  [("PROVIDER", 1), ("CSV", 9 / 10), ("MANUAL", 8 / 10)]

def bypassSources : List String := ["FAKE"]

def factorOf (dataSource : String) : ℚ :=
  ((dataSourceReliability.find? fun entry => entry.1 == dataSource).map Prod.snd).getD 1

structure ProviderScorePolicy where
  enabled : Bool := false

namespace ProviderScorePolicy

def applyPolicy (policy : ProviderScorePolicy) (score : ℚ) (dataSource : Option String) : ℚ :=
  if !policy.enabled then score
  else if dataSource.any bypassSources.contains then score
  else quantize 4 (score * factorOf (dataSource.getD ""))

/-- The factor that is recorded. -/
def effectiveFactor (policy : ProviderScorePolicy) (dataSource : Option String) : ℚ :=
  if !policy.enabled then 1
  else if dataSource = some "FAKE" ∨ dataSource.getD "" = "" then 1
  else factorOf (dataSource.getD "")

end ProviderScorePolicy

structure ComponentDelta where
  name : String
  dataSource : Option String
  factor : ℚ
  before : ℚ
  after : ℚ

def ComponentDelta.asDict (component : ComponentDelta) : List (String × Json) :=
  [("name", .str component.name),
    ("data_source", (component.dataSource.map Json.str).getD .null),
    ("factor", .str (fixed 2 component.factor)),
    ("before", .str (fixed 4 component.before)),
    ("after", .str (fixed 4 component.after))]

structure ScoreDeltaResult where
  policyEnabled : Bool
  scoreBefore : ℚ
  scoreAfter : ℚ
  delta : ℚ
  components : List ComponentDelta

def ScoreDeltaResult.asDict (result : ScoreDeltaResult) : List (String × Json) :=
  [("policy_enabled", .bool result.policyEnabled),
    ("score_before", .str (fixed 4 result.scoreBefore)),
    ("score_after", .str (fixed 4 result.scoreAfter)),
    ("delta", .str (fixed 4 result.delta)),
    ("components", .list (result.components.map fun component => .dict component.asDict))]

/-- A component score with the provenance its producer gives. -/
structure ScoredComponent where
  name : String
  score : ℚ
  dataSource : Option String

def componentDelta (policy : ProviderScorePolicy) (component : ScoredComponent) : ComponentDelta where
  name := component.name
  dataSource := component.dataSource
  factor := policy.effectiveFactor component.dataSource
  before := quantize 4 component.score
  after := quantize 4 (policy.applyPolicy component.score component.dataSource)

def computeScoreDelta (components : List ScoredComponent) (policy : ProviderScorePolicy) :
    ScoreDeltaResult :=
  let deltas := components.map (componentDelta policy)
  let before := quantize 4 (deltas.map ComponentDelta.before).sum
  let after := quantize 4 (deltas.map ComponentDelta.after).sum
  { policyEnabled := policy.enabled
    scoreBefore := before
    scoreAfter := after
    delta := quantize 4 (after - before)
    components := deltas }

/-- What a run knows of a candidate beside its scores when it stores the snapshot. -/
structure CandidateContext where
  universeName : String
  runDate : String
  runId : Int
  phase : String
  componentScoreMetadata : Json
  riskSummary : Json
  reportEvidence : Json
  newsEvidence : Json
  fundamentalEvidence : Json
  disclosureRiskEvidence : Json

/-- `_src(name)`: the provenance the metadata gives a component, or FAKE. -/
def componentSource (metadata : List (String × Json)) (name : String) : Option String :=
  match Json.get? "mode" metadata with
  | some (.str "rule_based_dummy") => some "FAKE"
  | _ =>
    match Json.get? (name ++ "_data_source") metadata with
    | some (.str source) => some (if source = "" then "FAKE" else source)
    | _ => some "FAKE"

def recommendationDeltaComponents (newsScore supplyScore fundamentalScore aiScore : ℚ)
    (metadata : List (String × Json)) : List ScoredComponent :=
  [⟨"news", newsScore, componentSource metadata "news"⟩,
    ⟨"supply", supplyScore, componentSource metadata "supply"⟩,
    ⟨"fundamental", fundamentalScore, componentSource metadata "fundamental"⟩,
    ⟨"ai", aiScore, componentSource metadata "ai"⟩]

/-- The `market_context_json` that `_persist_candidate` stores. -/
def marketContext (context : CandidateContext) (scoreDelta : Option ScoreDeltaResult) :
    List (String × Json) :=
  [("universe", .str context.universeName),
    ("run_date", .str context.runDate),
    ("run_id", .int context.runId),
    ("phase", .str context.phase),
    ("component_score_metadata", context.componentScoreMetadata),
    ("risk_summary", context.riskSummary),
    ("report_evidence", context.reportEvidence),
    ("news_evidence", context.newsEvidence),
    ("fundamental_evidence", context.fundamentalEvidence),
    ("disclosure_risk_evidence", context.disclosureRiskEvidence),
    ("score_delta", (scoreDelta.map fun result => Json.dict result.asDict).getD .null)]

end StockAiPlatform.Scoring
