import StockAiPlatform.Analysis.ReportScoreCalculator
import Mathlib.Algebra.Order.BigOperators.Group.List

/-! # Theme signals push the score their own way

A mapping or an event moves the score with its signed strength. A warning that
joins the events also joins their average, which a weak one may lift.
-/

namespace StockAiPlatform.Decision
set_option autoImplicit false

open Python

namespace ThemeSignals

def themePoint (mapping : ThemeStockMapping) : ℚ :=
  directionWeight mapping.impactDirection * strengthWeight mapping.impactStrength

def eventPoint (event : ReportSignalEvent) : ℚ :=
  directionWeight event.direction * strengthWeight event.strength

/-- Ten times the average of the points, and nothing for none. -/
def bonus (points : List ℚ) : ℚ := (averageSignalPoints points points.length).getD 0

def penalty (signalEvents : List ReportSignalEvent) : ℚ :=
  quantize 2 (clip (signalEvents.countP isRiskWarning * (5 / 2)) 0 10)

def balance (themeMappings : List ThemeStockMapping) (signalEvents : List ReportSignalEvent) : ℚ :=
  50 + bonus (themeMappings.map themePoint) + bonus (signalEvents.map eventPoint) -
    penalty signalEvents

def scoreOf (themeMappings : List ThemeStockMapping) (signalEvents : List ReportSignalEvent) :
    Option ℚ :=
  (calculateThemeSignalScore themeMappings signalEvents).themeSignalScore

variable {themeMappings : List ThemeStockMapping} {signalEvents : List ReportSignalEvent}
  {points points' : List ℚ}

theorem bonus_perm (h : points.Perm points') : bonus points = bonus points' := by
  rw [bonus, bonus, averageSignalPoints, averageSignalPoints, h.length_eq, h.sum_eq]

theorem average_mono {a b c d : ℚ} (h : a / b ≤ c / d) :
    quantize 2 (divide a b * 10) ≤ quantize 2 (divide c d * 10) := by
  apply quantize_mono
  apply mul_le_mul_of_nonneg_right _ (by norm_num)
  exact divide_mono h

/-- More points on the whole, of as many signals. -/
theorem bonus_mono (hLength : points.length = points'.length) (h : points.sum ≤ points'.sum) :
    bonus points ≤ bonus points' := by
  rw [bonus, bonus, averageSignalPoints, averageSignalPoints, hLength]
  split
  · exact le_refl _
  · exact average_mono (div_le_div_of_nonneg_right h (Nat.cast_nonneg _))

theorem sum_replace_le {before after : List ℚ} {point point' : ℚ} (h : point ≤ point') :
    (before ++ point :: after).sum ≤ (before ++ point' :: after).sum := by
  rw [List.sum_append, List.sum_append, List.sum_cons, List.sum_cons]
  linarith

theorem bonus_replace (before after : List ℚ) {point point' : ℚ} (h : point ≤ point') :
    bonus (before ++ point :: after) ≤ bonus (before ++ point' :: after) := by
  apply bonus_mono
  · rw [List.length_append, List.length_append, List.length_cons, List.length_cons]
  · exact sum_replace_le h

theorem penalty_perm {signalEvents' : List ReportSignalEvent} (h : signalEvents.Perm signalEvents') :
    penalty signalEvents = penalty signalEvents' := by
  rw [penalty, penalty, h.countP_eq]

theorem penalty_cons_ge (signalEvents : List ReportSignalEvent) (event : ReportSignalEvent) :
    penalty signalEvents ≤ penalty (event :: signalEvents) := by
  rw [penalty, penalty]
  apply quantize_mono
  apply clip_mono
  have hCount : signalEvents.countP isRiskWarning ≤ (event :: signalEvents).countP isRiskWarning := by
    rw [List.countP_cons]
    exact Nat.le_add_right _ _
  have hCast : (signalEvents.countP isRiskWarning : ℚ) ≤ (event :: signalEvents).countP isRiskWarning := by
    exact_mod_cast hCount
  linarith

theorem directionWeight_bounds (direction : String) :
    -1 ≤ directionWeight direction ∧ directionWeight direction ≤ 1 := by
  simp only [directionWeight]
  split_ifs <;> norm_num

theorem strengthWeight_bounds (strength : Option ℚ) :
    0 ≤ strengthWeight strength ∧ strengthWeight strength ≤ 1 := by
  cases strength with
  | none => norm_num [strengthWeight]
  | some value => exact clip_bounds value (by norm_num)

theorem point_bounds (direction : String) (strength : Option ℚ) :
    -1 ≤ directionWeight direction * strengthWeight strength ∧
      directionWeight direction * strengthWeight strength ≤ 1 := by
  obtain ⟨hLow, hHigh⟩ := directionWeight_bounds direction
  obtain ⟨hNonneg, hOne⟩ := strengthWeight_bounds strength
  constructor <;> nlinarith

theorem averageSignalPoints_one : quantize 2 (divide (-1) 1 * 10) = -10 ∧
    quantize 2 (divide 1 1 * 10) = 10 := by decide +kernel

theorem bonus_bounds (h : ∀ point ∈ points, -1 ≤ point ∧ point ≤ 1) :
    -10 ≤ bonus points ∧ bonus points ≤ 10 := by
  rw [bonus, averageSignalPoints]
  split
  · norm_num
  · rename_i hSome
    have hCount : (0 : ℚ) < points.length := by exact_mod_cast Nat.pos_of_ne_zero hSome
    have hLow : points.length • (-1 : ℚ) ≤ points.sum :=
      List.card_nsmul_le_sum points (-1) fun point hMem => (h point hMem).1
    have hHigh : points.sum ≤ points.length • (1 : ℚ) :=
      List.sum_le_card_nsmul points 1 fun point hMem => (h point hMem).2
    rw [nsmul_eq_mul] at hLow hHigh
    obtain ⟨hTen, hTen'⟩ := averageSignalPoints_one
    constructor
    · refine hTen.symm.trans_le (average_mono ?_)
      rw [div_one, le_div_iff₀ hCount]
      linarith
    · refine (average_mono ?_).trans_eq hTen'
      rw [div_one, div_le_iff₀ hCount]
      linarith

theorem penalty_bounds (signalEvents : List ReportSignalEvent) :
    0 ≤ penalty signalEvents ∧ penalty signalEvents ≤ 10 := by
  obtain ⟨hLow, hHigh⟩ := clip_bounds (signalEvents.countP isRiskWarning * (5 / 2))
    (show (0 : ℚ) ≤ 10 by norm_num)
  exact quantize_bounds 2 hLow hHigh

theorem bonus_hundredths (points : List ℚ) : ∃ n : Int, bonus points = n / 10 ^ 2 := by
  rw [bonus, averageSignalPoints]
  split
  · exact ⟨0, by norm_num⟩
  · exact quantize_eq_places 2 _

theorem balance_hundredths (themeMappings : List ThemeStockMapping)
    (signalEvents : List ReportSignalEvent) :
    ∃ n : Int, balance themeMappings signalEvents = n / 10 ^ 2 := by
  obtain ⟨themes, hThemes⟩ := bonus_hundredths (themeMappings.map themePoint)
  obtain ⟨events, hEvents⟩ := bonus_hundredths (signalEvents.map eventPoint)
  obtain ⟨risk, hRisk⟩ :=
    quantize_eq_places 2 (clip (signalEvents.countP isRiskWarning * (5 / 2)) 0 10)
  refine ⟨5000 + themes + events - risk, ?_⟩
  rw [balance, hThemes, hEvents, penalty, hRisk]
  push_cast
  ring

theorem balance_bounds (themeMappings : List ThemeStockMapping)
    (signalEvents : List ReportSignalEvent) : 20 ≤ balance themeMappings signalEvents ∧
      balance themeMappings signalEvents ≤ 70 := by
  have hThemes : ∀ point ∈ themeMappings.map themePoint, -1 ≤ point ∧ point ≤ 1 := by
    intro point hPoint
    obtain ⟨mapping, -, rfl⟩ := List.mem_map.mp hPoint
    exact point_bounds _ _
  have hEvents : ∀ point ∈ signalEvents.map eventPoint, -1 ≤ point ∧ point ≤ 1 := by
    intro point hPoint
    obtain ⟨event, -, rfl⟩ := List.mem_map.mp hPoint
    exact point_bounds _ _
  have hThemeBonus := bonus_bounds hThemes
  have hEventBonus := bonus_bounds hEvents
  have hPenalty := penalty_bounds signalEvents
  rw [balance]
  constructor <;> linarith [hThemeBonus.1, hThemeBonus.2, hEventBonus.1, hEventBonus.2]

/-- The clip and the last rounding change nothing. -/
theorem quantize_clip_balance (themeMappings : List ThemeStockMapping)
    (signalEvents : List ReportSignalEvent) :
    quantize 2 (clip (balance themeMappings signalEvents) 0 100) =
      balance themeMappings signalEvents := by
  obtain ⟨hLow, hHigh⟩ := balance_bounds themeMappings signalEvents
  obtain ⟨n, hExact⟩ := balance_hundredths themeMappings signalEvents
  rw [clip, min_eq_right (by linarith), max_eq_right (by linarith), hExact, quantize_of_places]

theorem scoreOf_eq (h : themeMappings ≠ [] ∨ signalEvents ≠ []) :
    scoreOf themeMappings signalEvents = some (balance themeMappings signalEvents) := by
  have hSome : ¬ (themeMappings.length = 0 ∧ signalEvents.length = 0) := by
    rw [List.length_eq_zero_iff, List.length_eq_zero_iff]
    tauto
  rw [← quantize_clip_balance]
  simp only [scoreOf, calculateThemeSignalScore, if_neg hSome, balance, bonus, penalty,
    List.length_map]
  rfl

/-- A signal no stronger than the average of the others does not lift it. -/
theorem bonus_cons_le {point : ℚ} (hNeg : point ≤ 0) (h : points.length * point ≤ points.sum) :
    bonus (point :: points) ≤ bonus points := by
  rw [bonus, bonus, averageSignalPoints, averageSignalPoints, List.length_cons, List.sum_cons,
    if_neg (Nat.succ_ne_zero _)]
  split
  · rename_i hNone
    obtain rfl := List.length_eq_zero_iff.mp hNone
    have hZero : quantize 2 (divide 0 1 * 10) = 0 := by decide +kernel
    refine (average_mono ?_).trans_eq hZero
    norm_num
    exact hNeg
  · rename_i hSome
    have hCount : (0 : ℚ) < points.length := by exact_mod_cast Nat.pos_of_ne_zero hSome
    apply average_mono
    push_cast
    rw [div_le_div_iff₀ (by linarith) hCount]
    linarith

/-- Both scores are given, and the first is not above the second. -/
def AtMost (score score' : Option ℚ) : Prop :=
  ∃ value value', score = some value ∧ score' = some value' ∧ value ≤ value'

theorem atMost_iff {themeMappings' : List ThemeStockMapping} {signalEvents' : List ReportSignalEvent}
    (h : themeMappings ≠ [] ∨ signalEvents ≠ []) (h' : themeMappings' ≠ [] ∨ signalEvents' ≠ []) :
    AtMost (scoreOf themeMappings signalEvents) (scoreOf themeMappings' signalEvents') ↔
      balance themeMappings signalEvents ≤ balance themeMappings' signalEvents' := by
  rw [scoreOf_eq h, scoreOf_eq h']
  constructor
  · rintro ⟨value, value', hValue, hValue', hLe⟩
    rwa [Option.some.inj hValue, Option.some.inj hValue']
  · exact fun hLe => ⟨_, _, rfl, rfl, hLe⟩

structure IsNegativeWarning (event : ReportSignalEvent) : Prop where
  warning : isRiskWarning event = true
  negative : upper event.direction.toList = "NEGATIVE".toList

theorem IsNegativeWarning.eventPoint_eq {event : ReportSignalEvent} (h : IsNegativeWarning event) :
    eventPoint event = -strengthWeight event.strength := by
  have hOther : "NEGATIVE".toList ≠ "POSITIVE".toList := by decide
  simp only [eventPoint, directionWeight, h.negative, if_neg hOther, if_true, neg_one_mul]

structure PushTheirWay (themeMappings : List ThemeStockMapping)
    (signalEvents : List ReportSignalEvent) : Prop where
  bounded : ∃ score, scoreOf themeMappings signalEvents = some score ∧ 0 ≤ score ∧ score ≤ 100
  unordered : ∀ themeMappings' signalEvents', themeMappings'.Perm themeMappings →
    signalEvents'.Perm signalEvents →
      scoreOf themeMappings' signalEvents' = scoreOf themeMappings signalEvents
  mapping : ∀ before mapping mapping' after, themeMappings = before ++ mapping :: after →
    themePoint mapping ≤ themePoint mapping' →
      AtMost (scoreOf themeMappings signalEvents)
        (scoreOf (before ++ mapping' :: after) signalEvents)
  event : ∀ before event event' after, signalEvents = before ++ event :: after →
    event'.eventType = event.eventType → eventPoint event ≤ eventPoint event' →
      AtMost (scoreOf themeMappings signalEvents)
        (scoreOf themeMappings (before ++ event' :: after))
  warning : ∀ event, IsNegativeWarning event →
    (AtMost (scoreOf themeMappings (event :: signalEvents)) (scoreOf themeMappings signalEvents) ↔
      bonus ((event :: signalEvents).map eventPoint) - bonus (signalEvents.map eventPoint) ≤
        penalty (event :: signalEvents) - penalty signalEvents)
  strongWarning : ∀ event, IsNegativeWarning event →
    signalEvents.length * eventPoint event ≤ (signalEvents.map eventPoint).sum →
      AtMost (scoreOf themeMappings (event :: signalEvents)) (scoreOf themeMappings signalEvents)
  fullWarning : ∀ event, IsNegativeWarning event → strengthWeight event.strength = 1 →
    AtMost (scoreOf themeMappings (event :: signalEvents)) (scoreOf themeMappings signalEvents)

theorem balance_perm {themeMappings' : List ThemeStockMapping}
    {signalEvents' : List ReportSignalEvent} (hMappings : themeMappings'.Perm themeMappings)
    (hEvents : signalEvents'.Perm signalEvents) :
    balance themeMappings' signalEvents' = balance themeMappings signalEvents := by
  rw [balance, balance, bonus_perm (hMappings.map themePoint), bonus_perm (hEvents.map eventPoint),
    penalty_perm hEvents]

theorem balance_replace_mapping {before after : List ThemeStockMapping}
    {mapping mapping' : ThemeStockMapping} (h : themePoint mapping ≤ themePoint mapping') :
    balance (before ++ mapping :: after) signalEvents ≤
      balance (before ++ mapping' :: after) signalEvents := by
  have hBonus := bonus_replace (before.map themePoint) (after.map themePoint) h
  rw [balance, balance, List.map_append, List.map_append, List.map_cons, List.map_cons]
  linarith

theorem penalty_replace {before after : List ReportSignalEvent} {event event' : ReportSignalEvent}
    (hType : event'.eventType = event.eventType) :
    penalty (before ++ event' :: after) = penalty (before ++ event :: after) := by
  have hSame : isRiskWarning event' = isRiskWarning event := by
    rw [isRiskWarning, isRiskWarning, hType]
  simp only [penalty, List.countP_append, List.countP_cons, hSame]

theorem balance_replace_event {before after : List ReportSignalEvent}
    {event event' : ReportSignalEvent} (hType : event'.eventType = event.eventType)
    (h : eventPoint event ≤ eventPoint event') :
    balance themeMappings (before ++ event :: after) ≤
      balance themeMappings (before ++ event' :: after) := by
  have hBonus := bonus_replace (before.map eventPoint) (after.map eventPoint) h
  rw [balance, balance, penalty_replace hType, List.map_append, List.map_append, List.map_cons,
    List.map_cons]
  linarith

theorem balance_cons_le_iff (event : ReportSignalEvent) :
    balance themeMappings (event :: signalEvents) ≤ balance themeMappings signalEvents ↔
      bonus ((event :: signalEvents).map eventPoint) - bonus (signalEvents.map eventPoint) ≤
        penalty (event :: signalEvents) - penalty signalEvents := by
  rw [balance, balance]
  constructor
  · intro h
    linarith
  · intro h
    linarith

theorem balance_cons_le {event : ReportSignalEvent} (hNeg : eventPoint event ≤ 0)
    (h : signalEvents.length * eventPoint event ≤ (signalEvents.map eventPoint).sum) :
    balance themeMappings (event :: signalEvents) ≤ balance themeMappings signalEvents := by
  have hBonus : bonus ((event :: signalEvents).map eventPoint) ≤ bonus (signalEvents.map eventPoint) :=
    bonus_cons_le hNeg (by rwa [List.length_map])
  rw [balance_cons_le_iff]
  linarith [penalty_cons_ge signalEvents event]

theorem pushTheirWay (themeMappings : List ThemeStockMapping) (signalEvents : List ReportSignalEvent)
    (h : themeMappings ≠ [] ∨ signalEvents ≠ []) : PushTheirWay themeMappings signalEvents := by
  have hCons : ∀ event : ReportSignalEvent, themeMappings ≠ [] ∨ event :: signalEvents ≠ [] :=
    fun event => .inr (List.cons_ne_nil _ _)
  have hNeg : ∀ event, IsNegativeWarning event → eventPoint event ≤ 0 := by
    intro event hEvent
    rw [hEvent.eventPoint_eq]
    linarith [(strengthWeight_bounds event.strength).1]
  obtain ⟨hLow, hHigh⟩ := balance_bounds themeMappings signalEvents
  refine ⟨⟨_, scoreOf_eq h, by linarith, by linarith⟩, ?_, ?_, ?_, ?_, ?_, ?_⟩
  · intro themeMappings' signalEvents' hMappings hEvents
    have h' : themeMappings' ≠ [] ∨ signalEvents' ≠ [] :=
      h.imp (fun hSome hNone => hSome (hNone ▸ hMappings).nil_eq.symm)
        (fun hSome hNone => hSome (hNone ▸ hEvents).nil_eq.symm)
    rw [scoreOf_eq h, scoreOf_eq h', balance_perm hMappings hEvents]
  · rintro before mapping mapping' after rfl hPoint
    have hSome : before ++ mapping' :: after ≠ [] :=
      List.append_ne_nil_of_right_ne_nil _ (List.cons_ne_nil _ _)
    exact (atMost_iff h (.inl hSome)).mpr (balance_replace_mapping hPoint)
  · rintro before event event' after rfl hType hPoint
    have hSome : before ++ event' :: after ≠ [] :=
      List.append_ne_nil_of_right_ne_nil _ (List.cons_ne_nil _ _)
    exact (atMost_iff h (.inr hSome)).mpr (balance_replace_event hType hPoint)
  · intro event _
    exact (atMost_iff (hCons event) h).trans (balance_cons_le_iff event)
  · intro event hEvent hStrong
    exact (atMost_iff (hCons event) h).mpr (balance_cons_le (hNeg event hEvent) hStrong)
  · intro event hEvent hFull
    apply (atMost_iff (hCons event) h).mpr
    apply balance_cons_le (hNeg event hEvent)
    have hPoint : eventPoint event = -1 := by rw [hEvent.eventPoint_eq, hFull]
    have hSum := List.card_nsmul_le_sum (signalEvents.map eventPoint) (-1) fun point hMem => by
      obtain ⟨other, -, rfl⟩ := List.mem_map.mp hMem
      exact (point_bounds _ _).1
    rwa [List.length_map, nsmul_eq_mul, ← hPoint] at hSum

def reportDay : Date := ⟨2026, 5, 4, validDate_mayFourth⟩

def eventOf (eventType : String) (strength : ℚ) : ReportSignalEvent where
  symbol := some "005930"
  publishedAt := reportDay
  eventType := eventType
  direction := "NEGATIVE"
  strength := some strength

def fallingMargin : List ReportSignalEvent := [eventOf "MARGIN_PRESSURE" 1]

theorem pushTheirWay_fallingMargin : PushTheirWay [] fallingMargin :=
  pushTheirWay [] fallingMargin (.inr (List.cons_ne_nil _ _))

/-- A warning without strength lifts the score from 40 to 42.5. -/
theorem not_warning_atMost : ¬ ∀ (themeMappings : List ThemeStockMapping)
    (signalEvents : List ReportSignalEvent), themeMappings ≠ [] ∨ signalEvents ≠ [] →
      ∀ event, IsNegativeWarning event →
        AtMost (scoreOf themeMappings (event :: signalEvents)) (scoreOf themeMappings signalEvents) := by
  intro h
  obtain ⟨after, before, hAfter, hBefore, hLe⟩ := h [] fallingMargin (.inr (List.cons_ne_nil _ _))
    (eventOf "RISK_WARNING" 0) ⟨by decide, by decide⟩
  have hLifted : scoreOf [] (eventOf "RISK_WARNING" 0 :: fallingMargin) = some (85 / 2) := by
    decide +kernel
  have hFirst : scoreOf [] fallingMargin = some 40 := by decide +kernel
  rw [← Option.some.inj (hLifted.symm.trans hAfter), ← Option.some.inj (hFirst.symm.trans hBefore)] at hLe
  norm_num at hLe

end ThemeSignals

end StockAiPlatform.Decision
