import StockAiPlatform.Api.ValidationRoutes
import Mathlib.Algebra.Order.BigOperators.Group.List

/-! # Malformed score deltas

What a result adds to the counts of the report depends on its own evidence
alone. The report is returned exactly if no evidence holds a delta that is no
number, components that cannot be walked or a data source without a hash, and
the deltas have an average the response can carry.
-/

namespace StockAiPlatform.ValidationRoutes
set_option autoImplicit false

open Backtest Transaction Python

section Conditions

variable (decimal : String → Option DecimalValue)

/-- A component without a data source that is a list or a dict. -/
def Hashable : Json → Prop
  | .dict component => ∀ value, Json.get? "data_source" component = some value →
      match value with
      | .list _ => False
      | .dict _ => False
      | _ => True
  | _ => True

/-- Components a loop can run through. -/
def Walkable : Json → Prop
  | .list items => ∀ item ∈ items, Hashable item
  | .str _ => True
  | .dict _ => True
  | _ => False

/-- A score delta whose delta, if it is read as a decimal, is a number. -/
structure Readable (scoreDelta : List (String × Json)) : Prop where
  delta : ∀ value, safeDecimal decimal (Json.get? "delta" scoreDelta) = some value → value.IsFinite
  components : ∀ value, Json.get? "components" scoreDelta = some value → Walkable value

/-- The delta that an evidence adds to the average. -/
def deltaOf (evidence : Option Json) : Option DecimalValue :=
  (extractScoreDelta evidence).bind fun scoreDelta =>
    safeDecimal decimal (Json.get? "delta" scoreDelta)

def deltaNumber (evidence : Option Json) : Option ℚ :=
  (deltaOf decimal evidence).bind DecimalValue.number?

/-- What the report needs of the tables to be returned. -/
structure Answerable (tables : BacktestTables) : Prop where
  winRates : Averageable (winRates tables.runs)
  avgReturns : Averageable (avgReturns tables.runs)
  readable : ∀ result ∈ tables.results, ∀ scoreDelta,
    extractScoreDelta result.evidenceJson = some scoreDelta → Readable decimal scoreDelta
  deltas : Averageable
    ((tables.results.map BacktestResult.evidenceJson).filterMap (deltaNumber decimal))

/-- The counts of the summary. -/
inductive Count where
  | scored | policyEnabled | positive | negative | neutral
  | dataSource (name : String)

namespace Count

def ofTally : Count → Tally → Nat
  | scored, tally => tally.totalScored
  | policyEnabled, tally => tally.policyEnabledCount
  | positive, tally => tally.positive
  | negative, tally => tally.negative
  | neutral, tally => tally.neutral
  | dataSource name, tally => tally.dataSources.count name

def ofSummary : Count → ScoreDeltaSummary → Nat
  | scored, summary => summary.totalScored
  | policyEnabled, summary => summary.policyEnabledCount
  | positive, summary => summary.positiveDeltaCount
  | negative, summary => summary.negativeDeltaCount
  | neutral, summary => summary.neutralDeltaCount
  | dataSource name, summary =>
    ((summary.dataSourceCounts.find? fun entry => entry.1 == name).map Prod.snd).getD 0

/-- What a result adds to a count, by its evidence alone. -/
def contribution (count : Count) (evidence : Option Json) : Nat :=
  match tallyEvidence decimal evidence with
  | .ok tally => count.ofTally tally
  | .error _ => 0

end Count

/-- The tables with other evidence in one result. -/
def withEvidence (tables : BacktestTables) (before after : List BacktestResult)
    (result : BacktestResult) (evidence : Option Json) : BacktestTables :=
  { tables with results := before ++ { result with evidenceJson := evidence } :: after }

/-- The report is returned, counts no more signs than deltas, and what is in the evidence of one
result changes nothing in what the others add to the counts. -/
structure SkipsMalformed (tables : BacktestTables) : Prop where
  returns : ∃ report, getValidationReport decimal tables = .ok report ∧
    report.scoreDelta.positiveDeltaCount + report.scoreDelta.negativeDeltaCount +
      report.scoreDelta.neutralDeltaCount ≤ report.scoreDelta.totalScored
  isolated : ∀ before result after, tables.results = before ++ result :: after →
    ∀ evidence report report', getValidationReport decimal tables = .ok report →
      getValidationReport decimal (withEvidence tables before after result evidence) = .ok report' →
      ∀ count : Count, ∃ others,
        others = ((before ++ after).map fun other =>
          count.contribution decimal other.evidenceJson).sum ∧
        count.ofSummary report.scoreDelta =
          others + count.contribution decimal result.evidenceJson ∧
        count.ofSummary report'.scoreDelta = others + count.contribution decimal evidence

end Conditions

section Counting

variable {decimal : String → Option DecimalValue} {tally more : Tally} {evidence : Option Json}

@[simp] theorem ofTally_add (count : Count) :
    count.ofTally (tally.add more) = count.ofTally tally + count.ofTally more := by
  cases count with
  | dataSource name => exact List.count_append
  | _ => rfl

@[simp] theorem ofTally_empty (count : Count) : count.ofTally {} = 0 := by
  cases count with
  | _ => rfl

theorem ofTally_foldl (count : Count) (tallies : List Tally) (start : Tally) :
    count.ofTally (tallies.foldl Tally.add start) =
      count.ofTally start + (tallies.map count.ofTally).sum := by
  induction tallies generalizing start with
  | nil => rfl
  | cons tally tallies ih =>
    rw [List.foldl_cons, ih, ofTally_add, List.map_cons, List.sum_cons, Nat.add_assoc]

theorem contribution_of_ok (count : Count) (h : tallyEvidence decimal evidence = .ok tally) :
    count.contribution decimal evidence = count.ofTally tally := by
  rw [Count.contribution, h]

theorem ofTally_tallyAll (count : Count) {rows : List (Option Json)}
    (h : tallyAll decimal rows = .ok tally) :
    count.ofTally tally = (rows.map (count.contribution decimal)).sum := by
  obtain ⟨tallies, hTallies, rfl⟩ := foldlM_eq_ok.mp h
  rw [ofTally_foldl, ofTally_empty, Nat.zero_add]
  refine congrArg List.sum (map_of_mapM ?_ hTallies)
  intro evidence tally hTally
  exact (contribution_of_ok count hTally).symm

theorem ofSummary_of_summarize (count : Count) {summary : ScoreDeltaSummary}
    (h : summarize tally = .ok summary) : count.ofSummary summary = count.ofTally tally := by
  obtain ⟨avgDelta, -, hSummary⟩ := except_bind_eq_ok.mp h
  rw [← Except.ok.inj hSummary]
  cases count with
  | dataSource name =>
    simp only [Count.ofSummary, Count.ofTally, List.find?_map]
    cases hFound : (keysOf id tally.dataSources).find?
        ((fun entry : String × Nat => entry.1 == name) ∘ fun source =>
          (source, tally.dataSources.count source)) with
    | none =>
      refine (List.count_eq_zero.mpr fun hMem => ?_).symm
      have hKey : name ∈ keysOf id tally.dataSources := mem_keysOf.mpr ⟨name, hMem, rfl⟩
      exact List.find?_eq_none.mp hFound name hKey (beq_self_eq_true name)
    | some source =>
      have hSame := List.find?_some hFound
      change (source == name) = true at hSame
      rw [eq_of_beq hSame]
      rfl
  | _ => rfl

/-- A pass of the loop counts a sign at most where it counts a delta. -/
theorem ofTally_signOf {value : DecimalValue} (h : signOf value = .ok tally) :
    tally.positive + tally.negative + tally.neutral = 1 := by
  obtain ⟨sign, -, hSign⟩ := except_bind_eq_ok.mp h
  cases sign with
  | _ =>
    cases hSign
    rfl

theorem signs_le_of_tallyEvidence (h : tallyEvidence decimal evidence = .ok tally) :
    tally.positive + tally.negative + tally.neutral ≤ tally.totalScored := by
  rw [tallyEvidence] at h
  split at h
  · cases h
    exact le_refl 0
  · rw [tallyScoreDelta] at h
    obtain ⟨signs, hSigns, hThen⟩ := except_bind_eq_ok.mp h
    obtain ⟨components, -, hRest⟩ := except_bind_eq_ok.mp hThen
    obtain ⟨dataSources, -, hTally⟩ := except_bind_eq_ok.mp hRest
    rw [← Except.ok.inj hTally]
    cases hDelta : safeDecimal decimal (Json.get? "delta" _) with
    | none =>
      rw [hDelta] at hSigns
      cases hSigns
      exact Nat.zero_le _
    | some value =>
      rw [hDelta] at hSigns
      have hOne := ofTally_signOf hSigns
      simp only [Tally.add]
      omega

theorem signs_le_of_tallyAll {rows : List (Option Json)} (h : tallyAll decimal rows = .ok tally) :
    tally.positive + tally.negative + tally.neutral ≤ tally.totalScored := by
  have hPositive := ofTally_tallyAll .positive h
  have hNegative := ofTally_tallyAll .negative h
  have hNeutral := ofTally_tallyAll .neutral h
  have hScored := ofTally_tallyAll .scored h
  simp only [Count.ofTally] at hPositive hNegative hNeutral hScored
  rw [hPositive, hNegative, hNeutral, hScored, ← List.sum_map_add, ← List.sum_map_add]
  refine List.sum_le_sum fun evidence _ => ?_
  simp only [Count.contribution]
  split
  · rename_i tally hTally
    exact signs_le_of_tallyEvidence hTally
  · exact le_refl 0

end Counting

section Returning

variable {decimal : String → Option DecimalValue} {tally : Tally} {evidence : Option Json}

theorem dataSourceBucket_ok_iff (component : List (String × Json)) :
    (∃ bucket, dataSourceBucket (Json.get? "data_source" component) = .ok bucket) ↔
      Hashable (.dict component) := by
  rw [Hashable]
  cases Json.get? "data_source" component with
  | none => exact ⟨fun _ value h => (nomatch h), fun _ => ⟨_, rfl⟩⟩
  | some value =>
    constructor
    · rintro ⟨bucket, hBucket⟩ value hValue
      cases hValue
      cases value with
      | list items => cases hBucket
      | dict entries => cases hBucket
      | _ => trivial
    · intro hHash
      have hValue := hHash value rfl
      cases value with
      | list items => exact hValue.elim
      | dict entries => exact hValue.elim
      | _ => exact ⟨_, rfl⟩

theorem componentBuckets_ok_iff (items : List Json) :
    (∃ buckets, componentBuckets items = .ok buckets) ↔ ∀ item ∈ items, Hashable item := by
  induction items with
  | nil => exact ⟨fun _ item h => absurd h List.not_mem_nil, fun _ => ⟨[], rfl⟩⟩
  | cons item items ih =>
    rw [List.forall_mem_cons, ← ih]
    cases item with
    | dict component =>
      rw [← dataSourceBucket_ok_iff]
      constructor
      · rintro ⟨buckets, hBuckets⟩
        obtain ⟨bucket, hBucket, hThen⟩ := except_bind_eq_ok.mp hBuckets
        obtain ⟨rest, hRest, -⟩ := except_bind_eq_ok.mp hThen
        exact ⟨⟨bucket, hBucket⟩, rest, hRest⟩
      · rintro ⟨⟨bucket, hBucket⟩, rest, hRest⟩
        exact ⟨bucket :: rest, except_bind_eq_ok.mpr
          ⟨bucket, hBucket, except_bind_eq_ok.mpr ⟨rest, hRest, rfl⟩⟩⟩
    | _ => exact ⟨fun h => ⟨trivial, h⟩, fun h => h.2⟩

/-- Texts, as a loop over a text or a dict meets them, are no components. -/
theorem hashable_texts {α : Type} (text : α → String) (items : List α) :
    ∀ item ∈ items.map fun a => Json.str (text a), Hashable item := by
  intro item hItem
  obtain ⟨a, -, rfl⟩ := List.mem_map.mp hItem
  trivial

theorem walkable_iff (value : Json) :
    (∃ buckets, (iterate value >>= componentBuckets) = .ok buckets) ↔ Walkable value := by
  cases value with
  | list items => exact componentBuckets_ok_iff items
  | str text =>
    exact iff_of_true ((componentBuckets_ok_iff _).mpr
      (hashable_texts (fun c => String.ofList [c]) text.toList)) trivial
  | dict entries =>
    exact iff_of_true ((componentBuckets_ok_iff _).mpr (hashable_texts Prod.fst entries)) trivial
  | null => exact ⟨fun ⟨_, h⟩ => (nomatch h), False.elim⟩
  | bool value => exact ⟨fun ⟨_, h⟩ => (nomatch h), False.elim⟩
  | int value => exact ⟨fun ⟨_, h⟩ => (nomatch h), False.elim⟩
  | float repr => exact ⟨fun ⟨_, h⟩ => (nomatch h), False.elim⟩

theorem tallyDelta_ok_iff (delta : Option DecimalValue) :
    (∃ tally, tallyDelta delta = .ok tally) ↔ ∀ value ∈ delta, value ≠ .nan := by
  cases delta with
  | none => exact ⟨fun _ value h => (nomatch h), fun _ => ⟨_, rfl⟩⟩
  | some value =>
    cases value with
    | nan => exact ⟨fun ⟨_, h⟩ => (nomatch h), fun h => absurd rfl (h .nan rfl)⟩
    | infinite negative =>
      refine ⟨fun _ value h => ?_, fun _ => ?_⟩
      · cases h
        rintro ⟨⟩
      · cases negative with
        | _ => exact ⟨_, rfl⟩
    | finite number =>
      refine ⟨fun _ value h => ?_, fun _ => ?_⟩
      · cases h
        rintro ⟨⟩
      · simp only [tallyDelta, signOf, DecimalValue.compareZero, raised]
        split
        · exact ⟨_, rfl⟩
        · split
          · exact ⟨_, rfl⟩
          · exact ⟨_, rfl⟩

theorem deltas_of_tallyDelta {delta : Option DecimalValue} (h : tallyDelta delta = .ok tally) :
    tally.deltas = delta.toList ∧ tally.dataSources = [] := by
  cases delta with
  | none =>
    cases h
    exact ⟨rfl, rfl⟩
  | some value =>
    obtain ⟨sign, -, hSign⟩ := except_bind_eq_ok.mp h
    cases sign with
    | _ =>
      cases hSign
      exact ⟨rfl, rfl⟩

theorem deltas_of_tallyEvidence (h : tallyEvidence decimal evidence = .ok tally) :
    tally.deltas = (deltaOf decimal evidence).toList := by
  rw [tallyEvidence] at h
  rw [deltaOf]
  split at h
  · rename_i hNone
    cases h
    rw [hNone]
    rfl
  · rename_i scoreDelta hSome
    rw [tallyScoreDelta] at h
    obtain ⟨signs, hSigns, hThen⟩ := except_bind_eq_ok.mp h
    obtain ⟨components, -, hRest⟩ := except_bind_eq_ok.mp hThen
    obtain ⟨dataSources, -, hTally⟩ := except_bind_eq_ok.mp hRest
    rw [← Except.ok.inj hTally, hSome]
    simp only [Tally.add, (deltas_of_tallyDelta hSigns).1]
    exact List.append_nil _

theorem tallyEvidence_ok_iff (evidence : Option Json) :
    (∃ tally, tallyEvidence decimal evidence = .ok tally) ↔
      (∀ value ∈ deltaOf decimal evidence, value ≠ .nan) ∧
        ∀ scoreDelta, extractScoreDelta evidence = some scoreDelta →
          ∀ value, Json.get? "components" scoreDelta = some value → Walkable value := by
  rw [tallyEvidence, deltaOf]
  cases hExtract : extractScoreDelta evidence with
  | none =>
    exact iff_of_true ⟨_, rfl⟩ ⟨fun value h => (nomatch h), fun scoreDelta h => nomatch h⟩
  | some scoreDelta =>
    have hWalk : (∃ buckets, (iterate ((Json.get? "components" scoreDelta).getD (.list [])) >>=
        componentBuckets) = .ok buckets) ↔
        ∀ value, Json.get? "components" scoreDelta = some value → Walkable value := by
      rw [walkable_iff]
      cases Json.get? "components" scoreDelta with
      | none => exact iff_of_true (fun item h => absurd h List.not_mem_nil) fun value h => nomatch h
      | some value => exact ⟨fun h other hOther => Option.some.inj hOther ▸ h, fun h => h value rfl⟩
    have hDelta := tallyDelta_ok_iff (safeDecimal decimal (Json.get? "delta" scoreDelta))
    change (∃ tally, tallyScoreDelta decimal scoreDelta = .ok tally) ↔ _
    rw [tallyScoreDelta]
    constructor
    · rintro ⟨tally, hTally⟩
      obtain ⟨signs, hSigns, hThen⟩ := except_bind_eq_ok.mp hTally
      obtain ⟨components, hComponents, hRest⟩ := except_bind_eq_ok.mp hThen
      obtain ⟨dataSources, hSources, -⟩ := except_bind_eq_ok.mp hRest
      refine ⟨hDelta.mp ⟨signs, hSigns⟩, fun other hOther => ?_⟩
      cases hOther
      exact hWalk.mp ⟨dataSources, except_bind_eq_ok.mpr ⟨components, hComponents, hSources⟩⟩
    · rintro ⟨hNumber, hComponents⟩
      obtain ⟨signs, hSigns⟩ := hDelta.mpr hNumber
      obtain ⟨dataSources, hBuckets⟩ := hWalk.mpr (hComponents scoreDelta rfl)
      obtain ⟨components, hIterate, hSources⟩ := except_bind_eq_ok.mp hBuckets
      exact ⟨_, except_bind_eq_ok.mpr ⟨signs, hSigns, except_bind_eq_ok.mpr
        ⟨components, hIterate, except_bind_eq_ok.mpr ⟨dataSources, hSources, rfl⟩⟩⟩⟩

theorem raised_ok_iff {α : Type} {outcome : Except DecimalSignal α} :
    (∃ value, raised outcome = .ok value) ↔ ∃ value, outcome = .ok value := by
  cases outcome with
  | ok value => exact iff_of_true ⟨value, rfl⟩ ⟨value, rfl⟩
  | error signal => exact ⟨fun ⟨_, h⟩ => (nomatch h), fun ⟨_, h⟩ => (nomatch h)⟩

theorem avgStr_ok_iff {values : List DecimalValue} (hValues : ∀ a ∈ values, a ≠ .nan) :
    (∃ average, avgStr values = .ok average) ↔
      (∀ a ∈ values, a.IsFinite) ∧ Averageable (values.filterMap DecimalValue.number?) := by
  cases values with
  | nil =>
    exact iff_of_true ⟨none, rfl⟩ ⟨fun a h => absurd h List.not_mem_nil, averageable_nil⟩
  | cons value values =>
    rw [← averageFour_ok_iff hValues, ← raised_ok_iff, avgStr]
    · cases raised (DecimalValue.averageFour (value :: values)) with
      | ok average => exact iff_of_true ⟨some average, rfl⟩ ⟨average, rfl⟩
      | error error => exact ⟨fun ⟨_, h⟩ => (nomatch h), fun ⟨_, h⟩ => (nomatch h)⟩
    · exact fun h => (nomatch h)

theorem avgColumn_ok_iff (numbers : List ℚ) :
    (∃ average, avgColumn numbers = .ok average) ↔ Averageable numbers := by
  have hFinite : ∀ a ∈ numbers.map DecimalValue.finite, a.IsFinite := by
    intro a ha
    obtain ⟨number, -, rfl⟩ := List.mem_map.mp ha
    trivial
  have hNumbers : (numbers.map DecimalValue.finite).filterMap DecimalValue.number? = numbers := by
    rw [List.filterMap_map]
    exact List.filterMap_some
  rw [avgColumn, avgStr_ok_iff, hNumbers, and_iff_right hFinite]
  rintro a ha rfl
  exact hFinite .nan ha

theorem deltas_of_tallyAll {rows : List (Option Json)} (h : tallyAll decimal rows = .ok tally) :
    tally.deltas = rows.filterMap (deltaOf decimal) := by
  obtain ⟨tallies, hTallies, rfl⟩ := foldlM_eq_ok.mp h
  have hFold : ∀ (tallies : List Tally) (start : Tally),
      (tallies.foldl Tally.add start).deltas = start.deltas ++ tallies.flatMap Tally.deltas := by
    intro tallies
    induction tallies with
    | nil => exact fun start => (List.append_nil _).symm
    | cons tally tallies ih =>
      intro start
      rw [List.foldl_cons, ih, List.flatMap_cons, ← List.append_assoc]
      rfl
  have hEach : tallies.map Tally.deltas = rows.map fun row => (deltaOf decimal row).toList :=
    map_of_mapM (fun _ _ hTally => deltas_of_tallyEvidence hTally) hTallies
  rw [hFold, List.flatMap_def, hEach, ← List.flatMap_def, ← List.filterMap_eq_flatMap_toList]
  rfl

theorem tallyAll_ok_iff (rows : List (Option Json)) :
    (∃ tally, tallyAll decimal rows = .ok tally) ↔
      ∀ row ∈ rows, ∃ tally, tallyEvidence decimal row = .ok tally := by
  rw [← mapM_ok_iff]
  constructor
  · rintro ⟨tally, hTally⟩
    obtain ⟨tallies, hTallies, -⟩ := foldlM_eq_ok.mp hTally
    exact ⟨tallies, hTallies⟩
  · rintro ⟨tallies, hTallies⟩
    exact ⟨_, foldlM_eq_ok.mpr ⟨tallies, hTallies, rfl⟩⟩

variable (decimal) in
theorem mem_deltas_iff {rows : List (Option Json)} {value : DecimalValue} :
    value ∈ rows.filterMap (deltaOf decimal) ↔ ∃ row ∈ rows, ∃ scoreDelta,
      extractScoreDelta row = some scoreDelta ∧
        safeDecimal decimal (Json.get? "delta" scoreDelta) = some value := by
  rw [List.mem_filterMap]
  refine exists_congr fun row => and_congr_right fun _ => ?_
  rw [deltaOf, Option.bind_eq_some_iff]

theorem readable_iff {rows : List (Option Json)} :
    (∀ row ∈ rows, ∀ scoreDelta, extractScoreDelta row = some scoreDelta →
      Readable decimal scoreDelta) ↔
      (∀ value ∈ rows.filterMap (deltaOf decimal), value.IsFinite) ∧
        ∀ row ∈ rows, ∀ scoreDelta, extractScoreDelta row = some scoreDelta →
          ∀ value, Json.get? "components" scoreDelta = some value → Walkable value := by
  constructor
  · intro h
    refine ⟨fun value hValue => ?_, fun row hRow scoreDelta hExtract =>
      (h row hRow scoreDelta hExtract).components⟩
    obtain ⟨row, hRow, scoreDelta, hExtract, hDelta⟩ := (mem_deltas_iff decimal).mp hValue
    exact (h row hRow scoreDelta hExtract).delta value hDelta
  · rintro ⟨hFinite, hWalkable⟩ row hRow scoreDelta hExtract
    refine ⟨fun value hDelta => ?_, hWalkable row hRow scoreDelta hExtract⟩
    exact hFinite value ((mem_deltas_iff decimal).mpr ⟨row, hRow, scoreDelta, hExtract, hDelta⟩)

theorem tallied_iff (rows : List (Option Json)) :
    (∃ tally, tallyAll decimal rows = .ok tally) ↔
      (∀ value ∈ rows.filterMap (deltaOf decimal), value ≠ .nan) ∧
        ∀ row ∈ rows, ∀ scoreDelta, extractScoreDelta row = some scoreDelta →
          ∀ value, Json.get? "components" scoreDelta = some value → Walkable value := by
  rw [tallyAll_ok_iff]
  simp only [tallyEvidence_ok_iff]
  constructor
  · intro h
    refine ⟨fun value hValue => ?_, fun row hRow => (h row hRow).2⟩
    obtain ⟨row, hRow, hDelta⟩ := List.mem_filterMap.mp hValue
    exact (h row hRow).1 value hDelta
  · rintro ⟨hNan, hWalkable⟩ row hRow
    exact ⟨fun value hDelta => hNan value (List.mem_filterMap.mpr ⟨row, hRow, hDelta⟩),
      hWalkable row hRow⟩

/-- The score deltas can be summarized if each can be read and their average can be carried. -/
theorem aggregate_ok_iff (results : List BacktestResult) :
    (∃ summary, aggregateScoreDelta decimal results = .ok summary) ↔
      (∀ result ∈ results, ∀ scoreDelta, extractScoreDelta result.evidenceJson = some scoreDelta →
        Readable decimal scoreDelta) ∧
      Averageable ((results.map BacktestResult.evidenceJson).filterMap (deltaNumber decimal)) := by
  have hNumbers : ∀ rows : List (Option Json), rows.filterMap (deltaNumber decimal) =
      (rows.filterMap (deltaOf decimal)).filterMap DecimalValue.number? := by
    intro rows
    rw [List.filterMap_filterMap]
    rfl
  have hRows : (∀ result ∈ results, ∀ scoreDelta,
      extractScoreDelta result.evidenceJson = some scoreDelta → Readable decimal scoreDelta) ↔
      ∀ row ∈ results.map BacktestResult.evidenceJson, ∀ scoreDelta,
        extractScoreDelta row = some scoreDelta → Readable decimal scoreDelta := by
    rw [List.forall_mem_map]
  rw [hNumbers, hRows, readable_iff]
  constructor
  · rintro ⟨summary, hSummary⟩
    obtain ⟨tally, hTally, hSummarize⟩ := except_bind_eq_ok.mp hSummary
    obtain ⟨average, hAverage, -⟩ := except_bind_eq_ok.mp hSummarize
    obtain ⟨hNan, hWalkable⟩ := (tallied_iff _).mp ⟨tally, hTally⟩
    rw [← deltas_of_tallyAll hTally] at hNan ⊢
    obtain ⟨hFinite, hAverageable⟩ := (avgStr_ok_iff hNan).mp ⟨average, hAverage⟩
    exact ⟨⟨hFinite, hWalkable⟩, hAverageable⟩
  · rintro ⟨⟨hFinite, hWalkable⟩, hAverageable⟩
    have hNan : ∀ value ∈ (results.map BacktestResult.evidenceJson).filterMap (deltaOf decimal),
        value ≠ .nan := by
      rintro value hValue rfl
      exact hFinite .nan hValue
    obtain ⟨tally, hTally⟩ := (tallied_iff _).mpr ⟨hNan, hWalkable⟩
    rw [← deltas_of_tallyAll hTally] at hFinite hNan hAverageable
    obtain ⟨average, hAverage⟩ := (avgStr_ok_iff hNan).mpr ⟨hFinite, hAverageable⟩
    exact ⟨_, except_bind_eq_ok.mpr ⟨tally, hTally, except_bind_eq_ok.mpr ⟨average, hAverage, rfl⟩⟩⟩

theorem report_ok_iff (tables : BacktestTables) :
    (∃ report, getValidationReport decimal tables = .ok report) ↔ Answerable decimal tables := by
  constructor
  · rintro ⟨report, hReport⟩
    obtain ⟨winRate, hWinRate, hThen⟩ := except_bind_eq_ok.mp hReport
    obtain ⟨avgReturn, hAvgReturn, hRest⟩ := except_bind_eq_ok.mp hThen
    obtain ⟨summary, hSummary, -⟩ := except_bind_eq_ok.mp hRest
    obtain ⟨hReadable, hDeltas⟩ := (aggregate_ok_iff tables.results).mp ⟨summary, hSummary⟩
    exact ⟨(avgColumn_ok_iff _).mp ⟨winRate, hWinRate⟩,
      (avgColumn_ok_iff _).mp ⟨avgReturn, hAvgReturn⟩, hReadable, hDeltas⟩
  · intro h
    obtain ⟨winRate, hWinRate⟩ := (avgColumn_ok_iff _).mpr h.winRates
    obtain ⟨avgReturn, hAvgReturn⟩ := (avgColumn_ok_iff _).mpr h.avgReturns
    obtain ⟨summary, hSummary⟩ := (aggregate_ok_iff tables.results).mpr ⟨h.readable, h.deltas⟩
    exact ⟨_, except_bind_eq_ok.mpr ⟨winRate, hWinRate, except_bind_eq_ok.mpr
      ⟨avgReturn, hAvgReturn, except_bind_eq_ok.mpr ⟨summary, hSummary, rfl⟩⟩⟩⟩

theorem tally_of_report {tables : BacktestTables} {report : ValidationReport}
    (h : getValidationReport decimal tables = .ok report) :
    ∃ tally, tallyAll decimal (tables.results.map BacktestResult.evidenceJson) = .ok tally ∧
      summarize tally = .ok report.scoreDelta := by
  obtain ⟨winRate, -, hThen⟩ := except_bind_eq_ok.mp h
  obtain ⟨avgReturn, -, hRest⟩ := except_bind_eq_ok.mp hThen
  obtain ⟨summary, hSummary, hReport⟩ := except_bind_eq_ok.mp hRest
  obtain ⟨tally, hTally, hSummarize⟩ := except_bind_eq_ok.mp hSummary
  refine ⟨tally, hTally, ?_⟩
  rw [← Except.ok.inj hReport, hSummarize]

/-- Each count of a report is the sum of what its results add to it. -/
theorem ofSummary_report {tables : BacktestTables} {report : ValidationReport}
    (h : getValidationReport decimal tables = .ok report) (count : Count) :
    count.ofSummary report.scoreDelta =
      (tables.results.map fun result => count.contribution decimal result.evidenceJson).sum := by
  obtain ⟨tally, hTally, hSummarize⟩ := tally_of_report h
  rw [ofSummary_of_summarize count hSummarize, ofTally_tallyAll count hTally, List.map_map]
  rfl

theorem sum_replaced (weight : BacktestResult → Nat) (before after : List BacktestResult)
    (result : BacktestResult) :
    ((before ++ result :: after).map weight).sum =
      ((before ++ after).map weight).sum + weight result := by
  rw [List.map_append, List.map_cons, List.sum_append, List.sum_cons, List.map_append,
    List.sum_append]
  omega

theorem skipsMalformed_iff (decimal : String → Option DecimalValue) (tables : BacktestTables) :
    SkipsMalformed decimal tables ↔ Answerable decimal tables := by
  rw [← report_ok_iff]
  constructor
  · rintro ⟨⟨report, hReport, -⟩, -⟩
    exact ⟨report, hReport⟩
  · rintro ⟨report, hReport⟩
    refine ⟨⟨report, hReport, ?_⟩, ?_⟩
    · obtain ⟨tally, hTally, hSummarize⟩ := tally_of_report hReport
      have hSigns := signs_le_of_tallyAll hTally
      have hPositive := ofSummary_of_summarize .positive hSummarize
      have hNegative := ofSummary_of_summarize .negative hSummarize
      have hNeutral := ofSummary_of_summarize .neutral hSummarize
      have hScored := ofSummary_of_summarize .scored hSummarize
      simp only [Count.ofSummary, Count.ofTally] at hPositive hNegative hNeutral hScored
      omega
    · intro before result after hResults evidence first second hFirst hSecond count
      refine ⟨_, rfl, ?_, ?_⟩
      · rw [ofSummary_report hFirst, hResults]
        exact sum_replaced _ before after result
      · rw [ofSummary_report hSecond]
        exact sum_replaced _ before after { result with evidenceJson := evidence }

/-- A result whose score delta has `null` for its components. -/
def nullComponents : BacktestTables where
  runs := []
  results :=
    [{ backtestRunId := 1, symbol := "005930", signalAction := .pass, recommendationId := 1
       recommendationResultId := none, confidence := 1 / 2, reason := "", grade := none
       totalScore := none, returnAt := fun _ => none, maxDrawdown := none, resultStatus := none
       costAdjustedReturn5d := none, regime := none
       evidenceJson := some (.dict [("score_delta", .dict [("components", .null)])]) }]

theorem getValidationReport_nullComponents :
    getValidationReport (fun _ => none) nullComponents = .error .typeError := rfl

end Returning

end StockAiPlatform.ValidationRoutes
