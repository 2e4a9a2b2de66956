import StockAiPlatform.Decision.LookAhead

/-! # The score drop of consecutive checks

A check compares its total before the penalty with the total that the check
before it stored, which has lost its own penalty. A fall of the totals before
the penalties that is not deep enough to make up for it goes unflagged.
-/

namespace StockAiPlatform.Decision
set_option autoImplicit false

open Transaction Python

namespace HoldingCheckRepository

variable {symbol : String} {check other : HoldingCheck} {checks : List HoldingCheck}
  {beforeDate : Date} {beforeType : CheckType}

def IsLast (symbol : String) (check : HoldingCheck) (checks : List HoldingCheck) : Prop :=
  (check ∈ checks ∧ check.symbol = symbol) ∧
    ∀ other ∈ checks, other.symbol = symbol → other ≠ check → rankOf other < rankOf check

theorem findPrevious_of_isLast (h : IsLast symbol check checks)
    (hLater : rankOf check < rank beforeDate beforeType) :
    findPreviousForSymbol symbol beforeDate beforeType checks = some check := by
  obtain ⟨⟨hCheck, hSymbol⟩, hLast⟩ := h
  apply getLast?_eq_some (List.pairwise_insertionSort _ _)
  · rw [List.mem_insertionSort, List.mem_filter, isEarlier, Bool.and_eq_true, beq_iff_eq,
      decide_eq_true_iff]
    exact ⟨hCheck, hSymbol, hLater⟩
  · intro other hOther hApart
    rw [List.mem_insertionSort, List.mem_filter, isEarlier, Bool.and_eq_true, beq_iff_eq] at hOther
    exact hLast other hOther.1 hOther.2.1 hApart

theorem mem_upsert : other ∈ upsert check checks ↔
    other = check ∨ (other ∈ checks ∧ checkKey other ≠ checkKey check) := by
  rw [upsert_eq_upsertBy, mem_upsertBy]

theorem mem_upsert_of_ne (h : other.symbol ≠ check.symbol) :
    other ∈ upsert check checks ↔ other ∈ checks := by
  have hKey : checkKey other ≠ checkKey check := fun hSame => h (checkKey_eq_iff.mp hSame).2
  have hSelf : other ≠ check := fun hSame => h (congrArg HoldingCheck.symbol hSame)
  simp [mem_upsert, hKey, hSelf]

/-- The checks of other symbols may be stored in between. -/
theorem IsLast.upsert_other (h : IsLast symbol check checks) (hOther : other.symbol ≠ symbol) :
    IsLast symbol check (upsert other checks) := by
  have hSame : ∀ row : HoldingCheck, row.symbol = symbol →
      (row ∈ upsert other checks ↔ row ∈ checks) := by
    intro row hRow
    apply mem_upsert_of_ne
    rw [hRow]
    exact hOther.symm
  refine ⟨⟨(hSame check h.1.2).mpr h.1.1, h.1.2⟩, fun row hRow hSymbol hApart => ?_⟩
  exact h.2 row ((hSame row hSymbol).mp hRow) hSymbol hApart

theorem isLast_upsert (hSymbol : check.symbol = symbol)
    (hEarlier : ∀ other ∈ checks, other.symbol = symbol → rankOf other < rankOf check) :
    IsLast symbol check (upsert check checks) := by
  refine ⟨⟨mem_upsert.mpr (.inl rfl), hSymbol⟩, fun other hOther hOtherSymbol hApart => ?_⟩
  rcases mem_upsert.mp hOther with hSelf | hOld
  · exact absurd hSelf hApart
  · exact hEarlier other hOld.1 hOtherSymbol

end HoldingCheckRepository

namespace HoldingCheckEngine

open HoldingCheckRepository

/-- A check of a symbol by an engine, and those of other symbols that are stored since the one before
it. -/
structure CheckStep where
  engine : HoldingCheckEngine
  checkDate : Date
  checkType : CheckType
  holding : Holding
  price : DailyPrice
  indicator : StockIndicator
  others : List HoldingCheck := []

def CheckStep.rank (step : CheckStep) : Date ×ₗ Nat :=
  HoldingCheckRepository.rank step.checkDate step.checkType

structure Checked where
  weighted : ℚ
  assessed : Assessed

/-- `weighted_only.total_score` -/
def CheckStep.weightedTotal (step : CheckStep) : ℚ :=
  (ScoringEngine.scoreHolding (holdingScoreInputs step.indicator
    (step.engine.scoreProducer.scoreHolding step.holding step.indicator) none)).totalScore

def storeOthers (others : List HoldingCheck) (db : Database) : Database :=
  { db with
    holdingChecks := others.foldl (fun checks check => upsert check checks) db.holdingChecks }

def CheckStep.check (step : CheckStep) (db : Database) : Checked where
  weighted := step.weightedTotal
  assessed := step.engine.assess step.checkDate step.checkType step.holding step.price step.indicator
    (previousTotalScore step.holding.symbol step.checkDate step.checkType db)

def checksOf : List CheckStep → Database → List Checked
  | [], _ => []
  | step :: rest, db =>
    let before := storeOthers step.others db
    let checked := step.check before
    checked :: checksOf rest (persist checked.assessed before)

/-- The steps check one symbol, each later than the one before and than what is stored of it. -/
structure Consecutive (symbol : String) (steps : List CheckStep) (db : Database) : Prop where
  sameSymbol : ∀ step ∈ steps, step.holding.symbol = symbol
  others : ∀ step ∈ steps, ∀ check ∈ step.others, check.symbol ≠ symbol
  ordered : steps.IsChain fun a b => a.rank < b.rank
  later : ∀ step ∈ steps.head?, ∀ check ∈ db.holdingChecks, check.symbol = symbol →
    rankOf check < step.rank

def flagged (checked : Checked) : Prop := .scoreDrop ∈ checked.assessed.assessment.riskFlags

instance (checked : Checked) : Decidable (flagged checked) :=
  inferInstanceAs (Decidable (_ ∈ _))

def storedTotal (checked : Checked) : ℚ := checked.assessed.check.totalScore.getD 0

variable {symbol : String} {step next : CheckStep}
  {steps : List CheckStep} {db : Database} {others : List HoldingCheck}

theorem mem_rule {applies : Bool} {flag flag' : RiskFlag} {penalty : ℚ} :
    flag ∈ (RiskEngine.rule applies flag' penalty).map Prod.fst ↔ applies = true ∧ flag = flag' := by
  cases applies <;> simp [RiskEngine.rule]

theorem flagged_check : flagged (step.check db) ↔
    ∃ previous, previousTotalScore step.holding.symbol step.checkDate step.checkType db =
        some previous ∧
      RiskEngine.scoreDropThreshold ≤ previous - (step.check db).weighted := by
  simp only [flagged, CheckStep.check, assess, RiskEngine.evaluateHolding, RiskEngine.assess,
    List.map_append, List.mem_append, mem_rule, Option.any_eq_true, decide_eq_true_iff]
  simp [CheckStep.weightedTotal]

theorem storedTotal_le : storedTotal (step.check db) ≤ (step.check db).weighted :=
  ScoringEngine.totalScore_compose_anti _ (normalizePenalty_nonneg _)

theorem isLast_storeOthers {check : HoldingCheck} (h : IsLast symbol check db.holdingChecks)
    (hOthers : ∀ check ∈ others, check.symbol ≠ symbol) :
    IsLast symbol check (storeOthers others db).holdingChecks := by
  simp only [storeOthers]
  generalize db.holdingChecks = checks at h
  induction others generalizing checks with
  | nil => exact h
  | cons other others ih =>
    rw [List.forall_mem_cons] at hOthers
    exact ih hOthers.2 _ (h.upsert_other hOthers.1)

theorem mem_storeOthers {check : HoldingCheck} (hSymbol : check.symbol = symbol)
    (hOthers : ∀ check ∈ others, check.symbol ≠ symbol) :
    check ∈ (storeOthers others db).holdingChecks ↔ check ∈ db.holdingChecks := by
  simp only [storeOthers]
  generalize db.holdingChecks = checks
  induction others generalizing checks with
  | nil => exact Iff.rfl
  | cons other others ih =>
    rw [List.forall_mem_cons] at hOthers
    rw [List.foldl_cons, ih hOthers.2, mem_upsert_of_ne]
    rw [hSymbol]
    exact hOthers.1.symm

def AllEarlier (symbol : String) (step : CheckStep) (db : Database) : Prop :=
  ∀ check ∈ db.holdingChecks, check.symbol = symbol → rankOf check < step.rank

theorem isLast_persist (hSymbol : step.holding.symbol = symbol) (hEarlier : AllEarlier symbol step db) :
    ∃ check, IsLast symbol check (persist (step.check db).assessed db).holdingChecks ∧
      rankOf check = step.rank ∧ check.totalScore = some (storedTotal (step.check db)) :=
  ⟨_, isLast_upsert hSymbol hEarlier, rfl, rfl⟩

theorem allEarlier_of_isLast {check : HoldingCheck} (h : IsLast symbol check db.holdingChecks)
    (hLater : rankOf check < step.rank) : AllEarlier symbol step db := by
  intro other hOther hSymbol
  by_cases hSame : other = check
  · rw [hSame]
    exact hLater
  · exact (h.2 other hOther hSymbol hSame).trans hLater

theorem allEarlier_storeOthers (h : AllEarlier symbol step db)
    (hOthers : ∀ check ∈ others, check.symbol ≠ symbol) :
    AllEarlier symbol step (storeOthers others db) :=
  fun check hCheck hSymbol => h check ((mem_storeOthers hSymbol hOthers).mp hCheck) hSymbol

/-- A check compares with what the check before it stored. -/
def Linked (a b : Checked) : Prop :=
  storedTotal a ≤ a.weighted ∧
    (flagged b ↔ RiskEngine.scoreDropThreshold ≤ storedTotal a - b.weighted)

theorem linked_check (hSymbol : step.holding.symbol = symbol) (hNext : next.holding.symbol = symbol)
    (hOthers : ∀ check ∈ next.others, check.symbol ≠ symbol) (hLater : step.rank < next.rank)
    (hEarlier : AllEarlier symbol step db) :
    Linked (step.check db) (next.check
      (storeOthers next.others (persist (step.check db).assessed db))) := by
  refine ⟨storedTotal_le, ?_⟩
  obtain ⟨check, hLast, hRank, hTotal⟩ := isLast_persist hSymbol hEarlier
  have hPrevious : previousTotalScore next.holding.symbol next.checkDate next.checkType
      (storeOthers next.others (persist (step.check db).assessed db)) =
        some (storedTotal (step.check db)) := by
    rw [previousTotalScore, hNext, findPrevious_of_isLast (isLast_storeOthers hLast hOthers)
      (hRank.trans_lt hLater)]
    exact hTotal
  rw [flagged_check, hPrevious]
  simp only [Option.some.injEq, exists_eq_left']

theorem isChain_linked (h : Consecutive symbol steps db) :
    (checksOf steps db).IsChain Linked := by
  induction steps generalizing db with
  | nil => exact List.IsChain.nil
  | cons step steps ih =>
    obtain ⟨hSymbol, hSymbols⟩ := List.forall_mem_cons.mp h.sameSymbol
    obtain ⟨hOthers, hRest⟩ := List.forall_mem_cons.mp h.others
    have hEarlier := allEarlier_storeOthers (h.later step rfl) hOthers
    cases steps with
    | nil => exact List.IsChain.singleton _
    | cons next steps =>
      obtain ⟨hLater, hOrdered⟩ := List.isChain_cons_cons.mp h.ordered
      refine List.isChain_cons_cons.mpr ⟨?_, ih ⟨hSymbols, hRest, hOrdered, ?_⟩⟩
      · exact linked_check hSymbol (List.forall_mem_cons.mp hSymbols).1
          (List.forall_mem_cons.mp hRest).1 hLater hEarlier
      · intro first hFirst
        obtain rfl := Option.mem_some_iff.mp hFirst
        obtain ⟨check, hLast, hRank, -⟩ := isLast_persist hSymbol hEarlier
        exact allEarlier_of_isLast hLast (hRank.trans_lt hLater)

/-- The flag says whether the totals before the penalties fell by the threshold. -/
def FlagsFall (a b : Checked) : Prop :=
  flagged b ↔ RiskEngine.scoreDropThreshold ≤ a.weighted - b.weighted

/-- The fall misses the threshold, or exceeds it by all that the earlier penalty took off. -/
def FallClear (a b : Checked) : Prop :=
  a.weighted - b.weighted < RiskEngine.scoreDropThreshold ∨
    RiskEngine.scoreDropThreshold + (a.weighted - storedTotal a) ≤ a.weighted - b.weighted

theorem flagsFall_iff {a b : Checked} (h : Linked a b) : FlagsFall a b ↔ FallClear a b := by
  obtain ⟨hStored, hFlag⟩ := h
  rw [FlagsFall, FallClear, hFlag]
  constructor
  · intro hSame
    rcases lt_or_ge (a.weighted - b.weighted) RiskEngine.scoreDropThreshold with hLess | hDeep
    · exact .inl hLess
    · exact .inr (by linarith [hSame.mpr hDeep])
  · rintro (hLess | hDeep)
    · exact ⟨fun hDrop => by linarith, fun hFall => absurd hFall (not_le.mpr hLess)⟩
    · exact ⟨fun hDrop => by linarith, fun hFall => by linarith⟩

theorem isChain_congr {α : Type} {r p q : α → α → Prop} {l : List α} (h : l.IsChain r)
    (hSame : ∀ a b, r a b → (p a b ↔ q a b)) : l.IsChain p ↔ l.IsChain q := by
  induction h with
  | nil => exact iff_of_true .nil .nil
  | singleton a => exact iff_of_true (.singleton a) (.singleton a)
  | cons_cons hFirst _ ih =>
    rw [List.isChain_cons_cons, List.isChain_cons_cons, ih, hSame _ _ hFirst]

theorem flagsFall_run_iff (symbol : String) (steps : List CheckStep) (db : Database)
    (h : Consecutive symbol steps db) :
    (checksOf steps db).IsChain FlagsFall ↔ (checksOf steps db).IsChain FallClear :=
  isChain_congr (isChain_linked h) fun _ _ => flagsFall_iff

/-- The first day costs a penalty for the loss, the second a technical score of 50 points. -/
def fallingSteps : List CheckStep :=
  [⟨{}, runDay, .preMarket, ⟨"005930", 100, true⟩, .flat "005930" runDay 90, indicatorOn runDay 80, []⟩,
    ⟨{}, laterDay, .preMarket, ⟨"005930", 100, true⟩, .flat "005930" laterDay 90,
      indicatorOn laterDay 30, []⟩]

theorem consecutive_fallingSteps : Consecutive "005930" fallingSteps .empty where
  sameSymbol := by decide
  others := by simp [fallingSteps]
  ordered := by
    refine List.isChain_cons_cons.mpr ⟨?_, List.IsChain.singleton _⟩
    exact Prod.Lex.toLex_lt_toLex.mpr (.inl runDay_lt_laterDay)
  later _ _ _ hNone := absurd hNone List.not_mem_nil

theorem flagsFall_run_iff_fallingSteps :
    (checksOf fallingSteps .empty).IsChain FlagsFall ↔
      (checksOf fallingSteps .empty).IsChain FallClear :=
  flagsFall_run_iff "005930" fallingSteps .empty consecutive_fallingSteps

/-- The total before the penalty falls by 17.5 points, which is not flagged. -/
theorem not_flagsFall_fallingSteps : ¬ ∀ (symbol : String) (steps : List CheckStep) (db : Database),
    Consecutive symbol steps db → (checksOf steps db).IsChain FlagsFall := by
  intro h
  have hRun := h "005930" fallingSteps .empty consecutive_fallingSteps
  have hTwo : ∃ first second, checksOf fallingSteps .empty = [first, second] ∧
      first.weighted = 111 / 2 ∧ second.weighted = 38 ∧ ¬ flagged second :=
    ⟨_, _, rfl, by decide +kernel, by decide +kernel, by decide +kernel⟩
  obtain ⟨first, second, hChecks, hFirst, hSecond, hUnflagged⟩ := hTwo
  rw [hChecks] at hRun
  refine hUnflagged ((List.isChain_cons_cons.mp hRun).1.mpr ?_)
  rw [hFirst, hSecond, RiskEngine.scoreDropThreshold]
  norm_num

end HoldingCheckEngine

end StockAiPlatform.Decision
