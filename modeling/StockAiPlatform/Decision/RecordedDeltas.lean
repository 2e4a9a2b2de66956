import StockAiPlatform.Analysis.ProviderScores
import StockAiPlatform.Decision.RecommendationEngine

/-! # What a recorded score delta says

The recorder looks up the provenance of a component in the metadata of the
producers. It finds none there, and the scores it is given are attenuated.
-/

namespace StockAiPlatform.Decision
set_option autoImplicit false

open Python Feeds Scoring Transaction

namespace ProducerChain

variable {policy : ProviderScorePolicy} {tables : ProviderTables} {evidence : Evidence}
  {stock : Stock} {indicator : StockIndicator} {score factor : ℚ} {source : Option String}

theorem get?_extend (metadata : Metadata) (key key' : String) (value : Json) :
    Json.get? key (extend metadata key' value) =
      if key' = key then some value else Json.get? key metadata := by
  have hGet : ∀ entries : Metadata, Json.get? key entries =
      (lookup Prod.fst key entries).map Prod.snd := by
    intro entries
    rw [Json.get?, lookup]
    congr 2
  rw [hGet, hGet, extend, lookup_upsertBy]
  split
  · rfl
  · rfl

/-- No producer of a chain replaces the mode of the dummy producer at its end. -/
theorem mode_scoreRecommendation (chain : ProducerChain) : Json.get? "mode"
    (chain.scoreRecommendation policy tables evidence stock indicator).metadata =
      some (.str "rule_based_dummy") := by
  induction chain with
  | dummy => rfl
  | news now newsDataSource fallback ih =>
    simp only [scoreRecommendation, get?_extend]
    exact ih
  | fundamental fallback ih =>
    simp only [scoreRecommendation, get?_extend]
    exact ih
  | earnings asOf fallback ih => exact ih

theorem componentSource_scoreRecommendation (chain : ProducerChain) (name : String) :
    componentSource (chain.scoreRecommendation policy tables evidence stock indicator).metadata name =
      some "FAKE" := by
  rw [componentSource, mode_scoreRecommendation]
  rfl

theorem applyPolicy_fake : policy.applyPolicy score (some "FAKE") = score := by
  rw [ProviderScorePolicy.applyPolicy]
  split
  · rfl
  · rfl

theorem componentDelta_fake (component : ScoredComponent) (h : component.dataSource = some "FAKE") :
    (componentDelta policy component).after = (componentDelta policy component).before := by
  rw [componentDelta, h, applyPolicy_fake]

/-- Nothing is taken off scores of no provider. -/
theorem delta_computeScoreDelta {components : List ScoredComponent}
    (h : ∀ component ∈ components, component.dataSource = some "FAKE") :
    (computeScoreDelta components policy).delta = 0 := by
  have hSame : (components.map (componentDelta policy)).map ComponentDelta.after =
      (components.map (componentDelta policy)).map ComponentDelta.before := by
    rw [List.map_map, List.map_map]
    exact List.map_congr_left fun component hMem => componentDelta_fake component (h component hMem)
  simp only [computeScoreDelta, hSame, sub_self]
  decide +kernel

def scoreDelta (policy : ProviderScorePolicy) (tables : ProviderTables) (evidence : Evidence)
    (stock : Stock) (indicator : StockIndicator) (chain : ProducerChain) : ScoreDeltaResult :=
  let scores := chain.scoreRecommendation policy tables evidence stock indicator
  computeScoreDelta (recommendationDeltaComponents scores.newsScore scores.supplyScore
    scores.fundamentalScore scores.aiScore scores.metadata) policy

def rounded (scores : RecommendationComponentScores) : List (String × ℚ) :=
  [("news", quantize 4 scores.newsScore), ("supply", quantize 4 scores.supplyScore),
    ("fundamental", quantize 4 scores.fundamentalScore), ("ai", quantize 4 scores.aiScore)]

section Recorded

variable (policy tables evidence stock indicator)

theorem before_scoreDelta (chain : ProducerChain) :
    (chain.scoreDelta policy tables evidence stock indicator).components.map
      (fun component => (component.name, component.before)) =
        rounded ((chain.producer policy tables evidence).scoreRecommendation stock indicator) := rfl

/-- The attenuated scores are not attenuated again. -/
theorem after_scoreDelta (chain : ProducerChain) :
    (chain.scoreDelta policy tables evidence stock indicator).components.map
      (fun component => (component.name, component.after)) =
        rounded ((chain.producer policy tables evidence).scoreRecommendation stock indicator) := by
  simp only [scoreDelta, computeScoreDelta, recommendationDeltaComponents, componentDelta,
    componentSource_scoreRecommendation, applyPolicy_fake, List.map_cons, List.map_nil]
  rfl

theorem delta_scoreDelta (chain : ProducerChain) :
    (chain.scoreDelta policy tables evidence stock indicator).delta = 0 := by
  apply delta_computeScoreDelta
  simp only [recommendationDeltaComponents, componentSource_scoreRecommendation,
    List.forall_mem_cons, List.not_mem_nil, false_implies, implies_true, and_self]

end Recorded

theorem divide_whole : divide (-5) 1 = -5 ∧ divide 45 1 = 45 := by decide +kernel

theorem sentimentValue_bounds (sentiment : Option String) :
    -1 ≤ sentimentValue sentiment ∧ sentimentValue sentiment ≤ 1 := by
  rw [sentimentValue]
  split
  · norm_num
  · split
    · norm_num
    · norm_num

theorem recencyFactor_bounds (now publishedAt : Int) :
    0 ≤ recencyFactor now publishedAt ∧ recencyFactor now publishedAt ≤ 1 := by
  simp only [recencyFactor]
  split_ifs <;> norm_num

theorem neg_length_le_weighted (now : Int) (rows : List NewsItem) : -(rows.length : ℚ) ≤
    (rows.map fun row => sentimentValue row.sentiment * recencyFactor now row.publishedAt).sum := by
  induction rows with
  | nil => simp
  | cons row rows ih =>
    obtain ⟨hLow, -⟩ := sentimentValue_bounds row.sentiment
    obtain ⟨hNonneg, hOne⟩ := recencyFactor_bounds now row.publishedAt
    rw [List.map_cons, List.sum_cons, List.length_cons]
    push_cast
    have hProduct : -1 ≤ sentimentValue row.sentiment * recencyFactor now row.publishedAt := by
      nlinarith
    linarith

/-- Recent news moves the score by five points at most. -/
theorem le_calculateNewsScore (now : Int) (rows : List NewsItem) :
    45 ≤ calculateNewsScore now rows := by
  rw [calculateNewsScore]
  split
  · norm_num [neutralScore]
  · rename_i hSome
    have hLength : 1 ≤ rows.length := List.length_pos_iff.mpr hSome
    have hCount : (0 : ℚ) < rows.length := by exact_mod_cast hLength
    have hWeighted := neg_length_le_weighted now rows
    obtain ⟨hFive, hLow⟩ := divide_whole
    simp only [max_eq_left hLength]
    refine le_max_of_le_left (le_min ?_ (by norm_num))
    rw [← hLow]
    apply divide_mono
    have hMean : divide (-5) 1 ≤ divide ((rows.map fun row =>
        sentimentValue row.sentiment * recencyFactor now row.publishedAt).sum * 5) rows.length := by
      apply divide_mono
      rw [div_one, le_div_iff₀ hCount]
      linarith
    rw [hFive] at hMean
    rw [div_one, div_one, neutralScore]
    linarith

theorem factorOf_cases (source : String) : factorOf source = 1 ∨
    (0 ≤ factorOf source ∧ factorOf source ≤ 9 / 10) := by
  simp only [factorOf, dataSourceReliability, List.find?_cons, List.find?_nil]
  split
  · exact .inl rfl
  · split
    · exact .inr (by norm_num)
    · split
      · exact .inr (by norm_num)
      · exact .inl rfl

theorem factorOf_nonneg (source : String) : 0 ≤ factorOf source := by
  rcases factorOf_cases source with hOne | hLess
  · rw [hOne]
    exact zero_le_one
  · exact hLess.1

theorem quantize_applyPolicy (hEnabled : policy.enabled = true) :
    quantize 4 (policy.applyPolicy score source) = quantize 4 (score * factorOf (source.getD "")) := by
  rw [ProviderScorePolicy.applyPolicy, hEnabled]
  simp only [Bool.not_true, Bool.false_eq_true, if_false]
  split
  · rename_i hBypass
    obtain ⟨name, rfl, hMem⟩ := (Option.any_eq_true _ _).mp hBypass
    obtain rfl : name = "FAKE" := List.mem_singleton.mp (List.contains_iff_mem.mp hMem)
    rw [show factorOf ((some "FAKE").getD "") = 1 from rfl, mul_one]
  · exact quantize_quantize 4 _

theorem quantize_mul_eq_iff (hScore : 1 ≤ score) (hNonneg : 0 ≤ factor)
    (hFactor : factor = 1 ∨ factor ≤ 9 / 10) :
    quantize 4 (score * factor) = quantize 4 score ↔ factor = 1 := by
  constructor
  · intro hSame
    refine hFactor.resolve_right fun hLess => ?_
    have hPos : 0 ≤ score := by linarith
    obtain ⟨hBelow, -⟩ := quantize_near 4 hPos
    obtain ⟨-, hAbove⟩ := quantize_near 4 (mul_nonneg hPos hNonneg)
    have hProduct : score * factor ≤ score * (9 / 10) := mul_le_mul_of_nonneg_left hLess hPos
    rw [hSame] at hAbove
    linarith
  · rintro rfl
    rw [mul_one]

def newsFactor : ProducerChain → ℚ
  | dummy => 1
  | news _ newsDataSource _ => factorOf (newsDataSource.getD "")
  | fundamental fallback => fallback.newsFactor
  | earnings _ fallback => fallback.newsFactor

def readsFundamentals : ProducerChain → Bool
  | dummy => false
  | news _ _ fallback => fallback.readsFundamentals
  | fundamental _ => true
  | earnings _ fallback => fallback.readsFundamentals

/-- The snapshot's factor takes nothing off its score at four places. -/
def FundamentalUnattenuated (tables : ProviderTables) (symbol : String) : Prop :=
  let snapshot := tables.latestFundamental symbol
  let source := (snapshot.bind FundamentalSnapshot.dataSource).getD ""
  quantize 4 (scoreFundamentalSnapshot snapshot * factorOf source) =
    quantize 4 (scoreFundamentalSnapshot snapshot)

structure Unattenuated (tables : ProviderTables) (symbol : String) (chain : ProducerChain) : Prop where
  news : chain.newsFactor = 1
  fundamental : chain.readsFundamentals = true → FundamentalUnattenuated tables symbol

section Attenuation

variable (tables evidence stock indicator)

theorem applyPolicy_off : (ProviderScorePolicy.mk false).applyPolicy score source = score := rfl

theorem newsScore_unchanged_iff (hEnabled : policy.enabled = true) (chain : ProducerChain) :
    quantize 4 (chain.scoreRecommendation policy tables evidence stock indicator).newsScore =
      quantize 4 (chain.scoreRecommendation ⟨false⟩ tables evidence stock indicator).newsScore ↔
        chain.newsFactor = 1 := by
  induction chain with
  | dummy => exact iff_of_true rfl rfl
  | news now newsDataSource fallback ih =>
    have hScore := le_calculateNewsScore now (recentNews now tables stock.symbol)
    simp only [scoreRecommendation, newsFactor, applyPolicy_off]
    rw [quantize_applyPolicy hEnabled]
    exact quantize_mul_eq_iff (by linarith) (factorOf_nonneg _)
      ((factorOf_cases _).imp_right And.right)
  | fundamental fallback ih => exact ih
  | earnings asOf fallback ih => exact ih

theorem fundamentalScore_unchanged_iff (hEnabled : policy.enabled = true) (chain : ProducerChain) :
    quantize 4 (chain.scoreRecommendation policy tables evidence stock indicator).fundamentalScore =
      quantize 4 (chain.scoreRecommendation ⟨false⟩ tables evidence stock
        indicator).fundamentalScore ↔
        (chain.readsFundamentals = true → FundamentalUnattenuated tables stock.symbol) := by
  induction chain with
  | dummy => exact iff_of_true rfl fun h => absurd h Bool.false_ne_true
  | news now newsDataSource fallback ih => exact ih
  | fundamental fallback ih =>
    simp only [scoreRecommendation, applyPolicy_off]
    rw [quantize_applyPolicy hEnabled]
    exact ⟨fun h _ => h, fun h => h rfl⟩
  | earnings asOf fallback ih => exact ih

variable (policy) in
theorem otherScores_unchanged (chain : ProducerChain) :
    (chain.scoreRecommendation policy tables evidence stock indicator).supplyScore =
        (chain.scoreRecommendation ⟨false⟩ tables evidence stock indicator).supplyScore ∧
      (chain.scoreRecommendation policy tables evidence stock indicator).aiScore =
        (chain.scoreRecommendation ⟨false⟩ tables evidence stock indicator).aiScore := by
  induction chain with
  | dummy => exact ⟨rfl, rfl⟩
  | news now newsDataSource fallback ih => exact ih
  | fundamental fallback ih => exact ih
  | earnings asOf fallback ih => exact ih

theorem rounded_eq_iff {scores scores' : RecommendationComponentScores}
    (hSupply : scores.supplyScore = scores'.supplyScore) (hAi : scores.aiScore = scores'.aiScore) :
    rounded scores = rounded scores' ↔
      quantize 4 scores.newsScore = quantize 4 scores'.newsScore ∧
        quantize 4 scores.fundamentalScore = quantize 4 scores'.fundamentalScore := by
  simp only [rounded, hSupply, hAi, List.cons.injEq, Prod.mk.injEq, true_and, and_true]

theorem rounded_unchanged_iff (hEnabled : policy.enabled = true) (chain : ProducerChain) :
    rounded ((chain.producer policy tables evidence).scoreRecommendation stock indicator) =
      rounded ((chain.producer ⟨false⟩ tables evidence).scoreRecommendation stock indicator) ↔
        chain.Unattenuated tables stock.symbol := by
  obtain ⟨hSupply, hAi⟩ :=
    otherScores_unchanged policy tables evidence stock indicator chain
  refine (rounded_eq_iff hSupply hAi).trans ?_
  constructor
  · rintro ⟨hNews, hFundamental⟩
    exact ⟨(newsScore_unchanged_iff tables evidence stock indicator hEnabled chain).mp hNews,
      (fundamentalScore_unchanged_iff tables evidence stock indicator hEnabled chain).mp hFundamental⟩
  · rintro ⟨hNews, hFundamental⟩
    exact ⟨(newsScore_unchanged_iff tables evidence stock indicator hEnabled chain).mpr hNews,
      (fundamentalScore_unchanged_iff tables evidence stock indicator hEnabled chain).mpr
        hFundamental⟩

end Attenuation

/-- The delta of a chain tells its scores with the policy off from the scores that are used. -/
structure RecordsEffect (policy : ProviderScorePolicy) (tables : ProviderTables)
    (evidence : Evidence) (stock : Stock) (indicator : StockIndicator) (chain : ProducerChain)
    (used : RecommendationComponentScores) : Prop where
  before : (chain.scoreDelta policy tables evidence stock indicator).components.map
    (fun component => (component.name, component.before)) =
      rounded ((chain.producer ⟨false⟩ tables evidence).scoreRecommendation stock indicator)
  after : (chain.scoreDelta policy tables evidence stock indicator).components.map
    (fun component => (component.name, component.after)) = rounded used
  delta : (chain.scoreDelta policy tables evidence stock indicator).delta = 0 ↔
    rounded used =
      rounded ((chain.producer ⟨false⟩ tables evidence).scoreRecommendation stock indicator)

theorem recordsEffect_iff (policy : ProviderScorePolicy) (hEnabled : policy.enabled = true)
    (tables : ProviderTables) (evidence : Evidence) (chain : ProducerChain)
    (engine : RecommendationEngine) (runDate : Date) (stock : Stock) (indicator : StockIndicator)
    (db : Decision.Database) : RecordsEffect policy tables evidence stock indicator chain
      (RecommendationEngine.candidateOf
        { engine with scoreProducer := chain.producer policy tables evidence } runDate stock
          indicator db).components ↔ chain.Unattenuated tables stock.symbol := by
  have hUnchanged := rounded_unchanged_iff tables evidence stock indicator hEnabled chain
  constructor
  · intro h
    exact hUnchanged.mp ((before_scoreDelta policy tables evidence stock indicator chain).symm.trans
      h.before)
  · intro h
    have hSame := hUnchanged.mpr h
    exact
      { before := (before_scoreDelta policy tables evidence stock indicator chain).trans hSame
        after := after_scoreDelta policy tables evidence stock indicator chain
        delta := iff_of_true (delta_scoreDelta policy tables evidence stock indicator chain) hSame }

def noTables : ProviderTables := ⟨[], [], []⟩

def noEvidence : Evidence := ⟨fun _ => .null, fun _ => .null, fun _ _ => .null, fun _ => .null,
  fun _ => .null⟩

def kospiStock : Stock := ⟨"005930", "KOSPI", "A"⟩

def indicatorDay : Date := ⟨2026, 5, 4, validDate_mayFourth⟩

def bareIndicator : StockIndicator := ⟨"005930", indicatorDay, none, none, none, none⟩

def csvNews : ProducerChain := .news 0 (some "CSV") .dummy

theorem recordsEffect_iff_csvNews : RecordsEffect ⟨true⟩ noTables noEvidence kospiStock bareIndicator
    csvNews (RecommendationEngine.candidateOf
      { scoreProducer := csvNews.producer ⟨true⟩ noTables noEvidence } indicatorDay kospiStock
        bareIndicator Database.empty).components ↔ csvNews.Unattenuated noTables kospiStock.symbol :=
  recordsEffect_iff ⟨true⟩ rfl noTables noEvidence csvNews {} indicatorDay kospiStock bareIndicator
    Database.empty

theorem not_recordsEffect_csvNews : ¬ ∀ (policy : ProviderScorePolicy), policy.enabled = true →
    ∀ (tables : ProviderTables) (evidence : Evidence) (chain : ProducerChain)
      (engine : RecommendationEngine) (runDate : Date) (stock : Stock) (indicator : StockIndicator)
      (db : Decision.Database), RecordsEffect policy tables evidence stock indicator chain
        (RecommendationEngine.candidateOf
          { engine with scoreProducer := chain.producer policy tables evidence } runDate stock
            indicator db).components := by
  intro h
  have hBefore := (h ⟨true⟩ rfl noTables noEvidence csvNews {} indicatorDay kospiStock bareIndicator
    Database.empty).before
  exact absurd hBefore (by decide +kernel)

end ProducerChain

end StockAiPlatform.Decision
