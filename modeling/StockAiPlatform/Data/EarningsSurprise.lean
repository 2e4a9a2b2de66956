import StockAiPlatform.Data.MetricCells

/-! # The surprise of an earnings event

How far the operating income lies from the consensus, in percent of it and in
the decimal arithmetic of the default context. Numbers that are not finite, that
overflow or that vanish raise, and so does a percentage of too many digits.
-/

namespace StockAiPlatform.MetricImport
set_option autoImplicit false

open Python Transaction

section Surprise

/-- A result under the default context: 28 digits, and below the least normal exponent fewer. -/
def contextValue (value : ℚ) : ℚ :=
  if |value| < 1 / 10 ^ 999999 then
    let rounded : ℚ := roundHalfEven (|value| * 10 ^ 1000026) / 10 ^ 1000026
    if value < 0 then -rounded else rounded
  else divide value 1

def inContext (value : ℚ) : Except ImportError DecimalValue :=
  if |contextValue value| < overflowLimit then .ok (.finite (contextValue value)) else .error .overflow

def subtract : DecimalValue → DecimalValue → Except ImportError DecimalValue
  | .nan, _ => .ok .nan
  | _, .nan => .ok .nan
  | .infinite a, .infinite b => if a = b then .error .invalidOperation else .ok (.infinite a)
  | .infinite a, .finite _ => .ok (.infinite a)
  | .finite _, .infinite b => .ok (.infinite (!b))
  | .finite a, .finite b => inContext (a - b)

def absolute : DecimalValue → Except ImportError DecimalValue
  | .nan => .ok .nan
  | .infinite _ => .ok (.infinite false)
  | .finite a => inContext |a|

/-- `a / b` for a divisor that is not negative -/
def quotient : DecimalValue → DecimalValue → Except ImportError DecimalValue
  | .nan, _ => .ok .nan
  | _, .nan => .ok .nan
  | .infinite _, .infinite _ => .error .invalidOperation
  | .infinite a, .finite _ => .ok (.infinite a)
  | .finite _, .infinite _ => .ok (.finite 0)
  | .finite a, .finite b =>
    if b ≠ 0 then inContext (a / b)
    else if a = 0 then .error .invalidOperation
    else .error .divisionByZero

/-- `value * Decimal("100")` -/
def timesHundred : DecimalValue → Except ImportError DecimalValue
  | .finite a => inContext (a * 100)
  | other => .ok other

/-- `value.quantize(DECIMAL_SCALE)` -/
def quantizeScale : DecimalValue → Except ImportError DecimalValue
  | .nan => .ok .nan
  | .infinite _ => .error .invalidOperation
  | .finite a =>
    if |quantizeHalfEven 4 a| < 10 ^ 24 then .ok (.finite (quantizeHalfEven 4 a))
    else .error .invalidOperation

/-- The comparisons with five percent and minus five. -/
def surpriseType : DecimalValue → Except ImportError String
  | .nan => .error .invalidOperation
  | .infinite negative => .ok (if negative then "MISS" else "BEAT")
  | .finite pct => .ok (if 5 ≤ pct then "BEAT" else if pct ≤ -5 then "MISS" else "MEET")

def CellNumber.quiet : CellNumber → Except ImportError DecimalValue
  | .value number => .ok number
  | .signaling => .error .invalidOperation

def surprise (actual consensus : DecimalValue) : Except ImportError (String × Option CellNumber) := do
  let difference ← subtract actual consensus
  let ratio ← quotient difference (← absolute consensus)
  let pct ← quantizeScale (← timesHundred ratio)
  return (← surpriseType pct, some (.value pct))

def calculateSurprise (operatingIncomeActual operatingIncomeConsensus : Option CellNumber) :
    Except ImportError (String × Option CellNumber) :=
  match operatingIncomeActual, operatingIncomeConsensus with
  | none, _ => .ok ("UNKNOWN", none)
  | _, none => .ok ("UNKNOWN", none)
  | some actual, some consensus => do
    let consensus ← consensus.quiet
    if consensus = .finite 0 then return ("UNKNOWN", none)
    else surprise (← actual.quiet) consensus

/-- The quotient as the context computes it. -/
def surpriseRatio (actual consensus : ℚ) : ℚ :=
  contextValue (contextValue (actual - consensus) / contextValue |consensus|)

def surprisePct (actual consensus : ℚ) : ℚ := contextValue (surpriseRatio actual consensus * 100)

/-- No step overflows, the consensus does not vanish, and the percentage has at most 24 digits
before the point. -/
structure Computable (actual consensus : ℚ) : Prop where
  difference : |contextValue (actual - consensus)| < overflowLimit
  magnitude : |contextValue (|consensus|)| < overflowLimit
  nonzero : contextValue |consensus| ≠ 0
  ratio : |surpriseRatio actual consensus| < overflowLimit
  percent : |surprisePct actual consensus| < overflowLimit
  scaled : |quantizeHalfEven 4 (surprisePct actual consensus)| < 10 ^ 24

/-- The surprise is not asked for, or both numbers are finite and it can be computed. -/
def SurpriseComputable (actual consensus : Option CellNumber) : Prop :=
  actual = none ∨ consensus = none ∨ consensus = some (.value (.finite 0)) ∨
    ∃ a c, actual = some (.value (.finite a)) ∧ consensus = some (.value (.finite c)) ∧ Computable a c

theorem inContext_eq_ok_iff {number : ℚ} {value : DecimalValue} : inContext number = .ok value ↔
    |contextValue number| < overflowLimit ∧ value = .finite (contextValue number) := by
  rw [inContext]
  split
  · rename_i hSmall
    exact ⟨fun h => ⟨hSmall, (Except.ok.inj h).symm⟩, fun h => congrArg Except.ok h.2.symm⟩
  · rename_i hLarge
    exact ⟨fun h => (nomatch h), fun h => absurd h.1 hLarge⟩

theorem quantizeScale_finite_iff {number : ℚ} {value : DecimalValue} :
    quantizeScale (.finite number) = .ok value ↔
      |quantizeHalfEven 4 number| < 10 ^ 24 ∧ value = .finite (quantizeHalfEven 4 number) := by
  rw [quantizeScale]
  split
  · rename_i hSmall
    exact ⟨fun h => ⟨hSmall, (Except.ok.inj h).symm⟩, fun h => congrArg Except.ok h.2.symm⟩
  · rename_i hLarge
    exact ⟨fun h => (nomatch h), fun h => absurd h.1 hLarge⟩

theorem surprise_finite_iff {a c : ℚ} :
    (∃ result, surprise (.finite a) (.finite c) = .ok result) ↔ Computable a c := by
  constructor
  · rintro ⟨result, h⟩
    obtain ⟨difference, hDifference, h⟩ := except_bind_eq_ok.mp h
    obtain ⟨magnitude, hMagnitude, h⟩ := except_bind_eq_ok.mp h
    obtain ⟨ratio, hRatio, h⟩ := except_bind_eq_ok.mp h
    obtain ⟨percent, hPercent, h⟩ := except_bind_eq_ok.mp h
    obtain ⟨pct, hPct, -⟩ := except_bind_eq_ok.mp h
    obtain ⟨hDifferenceSmall, rfl⟩ := inContext_eq_ok_iff.mp hDifference
    obtain ⟨hMagnitudeSmall, rfl⟩ := inContext_eq_ok_iff.mp hMagnitude
    rw [quotient] at hRatio
    split at hRatio
    · rename_i hNonzero
      obtain ⟨hRatioSmall, rfl⟩ := inContext_eq_ok_iff.mp hRatio
      obtain ⟨hPercentSmall, rfl⟩ := inContext_eq_ok_iff.mp hPercent
      exact ⟨hDifferenceSmall, hMagnitudeSmall, hNonzero, hRatioSmall, hPercentSmall,
        (quantizeScale_finite_iff.mp hPct).1⟩
    · split at hRatio <;> cases hRatio
  · intro h
    have hRatio : quotient (.finite (contextValue (a - c))) (.finite (contextValue |c|)) =
        .ok (.finite (surpriseRatio a c)) := by
      rw [quotient, if_pos h.nonzero]
      exact inContext_eq_ok_iff.mpr ⟨h.ratio, rfl⟩
    exact ⟨_, except_bind_eq_ok.mpr ⟨_, inContext_eq_ok_iff.mpr ⟨h.difference, rfl⟩,
      except_bind_eq_ok.mpr ⟨_, inContext_eq_ok_iff.mpr ⟨h.magnitude, rfl⟩,
      except_bind_eq_ok.mpr ⟨_, hRatio,
      except_bind_eq_ok.mpr ⟨_, inContext_eq_ok_iff.mpr ⟨h.percent, rfl⟩,
      except_bind_eq_ok.mpr ⟨_, quantizeScale_finite_iff.mpr ⟨h.scaled, rfl⟩, rfl⟩⟩⟩⟩⟩⟩

/-- A quotient that is no finite number ends in an exception. -/
theorem finite_of_ratio {ratio : DecimalValue} {result : String × Option CellNumber}
    (h : (do
      let pct ← quantizeScale (← timesHundred ratio)
      return (← surpriseType pct, some (.value pct)) : Except ImportError (String × Option CellNumber)) =
        .ok result) : ∃ number, ratio = .finite number := by
  cases ratio with
  | finite number => exact ⟨number, rfl⟩
  | infinite negative => cases h
  | nan => cases h

theorem finite_of_surprise {actual consensus : DecimalValue} {result : String × Option CellNumber}
    (h : surprise actual consensus = .ok result) :
    ∃ a c, actual = .finite a ∧ consensus = .finite c := by
  obtain ⟨difference, hDifference, h⟩ := except_bind_eq_ok.mp h
  obtain ⟨magnitude, hMagnitude, h⟩ := except_bind_eq_ok.mp h
  obtain ⟨ratio, hRatio, h⟩ := except_bind_eq_ok.mp h
  obtain ⟨number, rfl⟩ := finite_of_ratio h
  cases consensus with
  | nan =>
    cases hMagnitude
    cases actual <;> cases hDifference <;> cases hRatio
  | infinite negative =>
    cases hMagnitude
    cases actual with
    | nan =>
      cases hDifference
      cases hRatio
    | finite a =>
      cases hDifference
      cases hRatio
    | infinite other =>
      rw [subtract] at hDifference
      split at hDifference <;> cases hDifference
      cases hRatio
  | finite c =>
    obtain ⟨-, rfl⟩ := inContext_eq_ok_iff.mp hMagnitude
    cases actual with
    | nan =>
      cases hDifference
      cases hRatio
    | finite a => exact ⟨a, c, rfl, rfl⟩
    | infinite negative =>
      cases hDifference
      cases hRatio

theorem calculateSurprise_ok_iff {actual consensus : Option CellNumber} :
    (∃ result, calculateSurprise actual consensus = .ok result) ↔ SurpriseComputable actual consensus := by
  cases actual with
  | none => exact iff_of_true ⟨_, rfl⟩ (.inl rfl)
  | some actual =>
    cases consensus with
    | none => exact iff_of_true ⟨_, rfl⟩ (.inr (.inl rfl))
    | some consensus =>
      cases consensus with
      | signaling =>
        refine iff_of_false (fun ⟨result, h⟩ => (nomatch h)) ?_
        rintro (h | h | h | ⟨a, c, -, h, -⟩) <;> cases h
      | value consensus =>
        by_cases hZero : consensus = .finite 0
        · subst hZero
          exact iff_of_true ⟨("UNKNOWN", none), rfl⟩ (.inr (.inr (.inl rfl)))
        · have hCalculate : calculateSurprise (some actual) (some (.value consensus)) =
              actual.quiet >>= fun actual => surprise actual consensus := if_neg hZero
          rw [hCalculate]
          constructor
          · rintro ⟨result, h⟩
            obtain ⟨number, hQuiet, h⟩ := except_bind_eq_ok.mp h
            obtain ⟨a, c, rfl, rfl⟩ := finite_of_surprise h
            cases actual with
            | signaling => cases hQuiet
            | value actual =>
              cases hQuiet
              exact .inr (.inr (.inr ⟨a, c, rfl, rfl, surprise_finite_iff.mp ⟨result, h⟩⟩))
          · rintro (h | h | h | ⟨a, c, hActual, hConsensus, hComputable⟩)
            · cases h
            · cases h
            · cases h
              exact absurd rfl hZero
            · cases hActual
              cases hConsensus
              exact surprise_finite_iff.mpr hComputable

theorem uncaught_inContext (value : ℚ) : Uncaught (inContext value) := by
  rw [inContext]
  split
  · exact uncaught_ok _
  · exact uncaught_error id

theorem uncaught_subtract (a b : DecimalValue) : Uncaught (subtract a b) := by
  fun_cases subtract a b
  case case1 => exact uncaught_ok _
  case case2 => exact uncaught_ok _
  case case3 => exact uncaught_error id
  case case4 => exact uncaught_ok _
  case case5 => exact uncaught_ok _
  case case6 => exact uncaught_ok _
  case case7 => exact uncaught_inContext _

theorem uncaught_absolute (a : DecimalValue) : Uncaught (absolute a) := by
  cases a with
  | finite number => exact uncaught_inContext _
  | infinite negative => exact uncaught_ok _
  | nan => exact uncaught_ok _

theorem uncaught_quotient (a b : DecimalValue) : Uncaught (quotient a b) := by
  fun_cases quotient a b
  case case1 => exact uncaught_ok _
  case case2 => exact uncaught_ok _
  case case3 => exact uncaught_error id
  case case4 => exact uncaught_ok _
  case case5 => exact uncaught_ok _
  case case6 => exact uncaught_inContext _
  case case7 => exact uncaught_error id
  case case8 => exact uncaught_error id

theorem uncaught_timesHundred (a : DecimalValue) : Uncaught (timesHundred a) := by
  cases a with
  | finite number => exact uncaught_inContext _
  | infinite negative => exact uncaught_ok _
  | nan => exact uncaught_ok _

theorem uncaught_quantizeScale (a : DecimalValue) : Uncaught (quantizeScale a) := by
  fun_cases quantizeScale a
  case case1 => exact uncaught_ok _
  case case2 => exact uncaught_error id
  case case3 => exact uncaught_ok _
  case case4 => exact uncaught_error id

theorem uncaught_surpriseType (a : DecimalValue) : Uncaught (surpriseType a) := by
  cases a with
  | nan => exact uncaught_error id
  | infinite negative => exact uncaught_ok _
  | finite pct => exact uncaught_ok _

theorem uncaught_quiet (number : CellNumber) : Uncaught number.quiet := by
  cases number with
  | value number => exact uncaught_ok _
  | signaling => exact uncaught_error id

theorem uncaught_surprise (actual consensus : DecimalValue) : Uncaught (surprise actual consensus) :=
  (uncaught_subtract _ _).bind fun _ => (uncaught_absolute _).bind fun _ =>
    (uncaught_quotient _ _).bind fun _ => (uncaught_timesHundred _).bind fun _ =>
      (uncaught_quantizeScale _).bind fun _ => (uncaught_surpriseType _).bind fun _ => uncaught_ok _

theorem uncaught_calculateSurprise (actual consensus : Option CellNumber) :
    Uncaught (calculateSurprise actual consensus) := by
  fun_cases calculateSurprise actual consensus
  case case1 => exact uncaught_ok _
  case case2 => exact uncaught_ok _
  case case3 actual consensus =>
    refine (uncaught_quiet consensus).bind fun consensus => ?_
    split
    · exact uncaught_ok _
    · exact (uncaught_quiet actual).bind fun actual => uncaught_surprise actual consensus

/-- Decimal arithmetic raises nothing that is caught. -/
theorem escapes_calculateSurprise_iff {actual consensus : Option CellNumber} :
    Escapes (calculateSurprise actual consensus) ↔ ¬ SurpriseComputable actual consensus := by
  rw [← calculateSurprise_ok_iff]
  exact (uncaught_calculateSurprise actual consensus).escapes_iff

end Surprise

end StockAiPlatform.MetricImport
