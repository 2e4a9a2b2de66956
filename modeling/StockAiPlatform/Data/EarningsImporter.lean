import StockAiPlatform.Data.EarningsSurprise
import StockAiPlatform.Data.MetricImportRuns

/-! # The CSV importer of earnings events

A row that names no surprise gets the one computed from its operating income and
the consensus.
-/

namespace StockAiPlatform.MetricImport
set_option autoImplicit false

open Python Transaction
open AnalystReportCsvImporter (Row requiredStr truncate)

structure EarningsEventDTO where
  symbol : Text
  eventDate : Date
  fiscalYear : Int
  eventType : Text
  companyName : Option Text
  fiscalQuarter : Option Int
  revenueActual : Option CellNumber
  revenueConsensus : Option CellNumber
  operatingIncomeActual : Option CellNumber
  operatingIncomeConsensus : Option CellNumber
  netIncomeActual : Option CellNumber
  netIncomeConsensus : Option CellNumber
  epsActual : Option CellNumber
  epsConsensus : Option CellNumber
  surpriseType : Option Text
  surprisePct : Option CellNumber
  source : Option Text
  memo : Option Text

namespace EarningsCsvImporter

/-! The values the enumerations allow, in the order `sorted` gives them. -/

def eventTypes : List String := ["CONSENSUS", "FINAL", "GUIDANCE", "OTHER", "PRELIMINARY"]

def surpriseTypes : List String := ["BEAT", "MEET", "MISS", "UNKNOWN"]

def numericFields : List String :=
  ["revenue_actual", "revenue_consensus", "operating_income_actual", "operating_income_consensus",
    "net_income_actual", "net_income_consensus", "eps_actual", "eps_consensus", "surprise_pct"]

def nonNegativeFields : List String := ["revenue_actual", "revenue_consensus"]

def memoMaxLen : Nat := 500

/-- The cells that are read before the numbers. -/
structure Head where
  symbol : Text
  eventDate : Date
  fiscalYear : Int
  fiscalQuarter : Option Int
  eventType : Text

section Parse

variable (f : MetricFunctions)

def head (row : Row) : Except String Head := do
  let symbol ← requiredStr "symbol" (row.cell "symbol")
  let eventDate ← date f "event_date" (row.cell "event_date")
  let fiscalYear ← int f "fiscal_year" (row.cell "fiscal_year")
  let fiscalQuarter ← optionalQuarter f (row.cell "fiscal_quarter")
  let eventType ← requiredEnum f "event_type" (row.cell "event_type") eventTypes
  pure ⟨symbol, eventDate, fiscalYear, fiscalQuarter, eventType⟩

def eventOf (row : Row) (head : Head) (values : List (String × Option CellNumber))
    (supplied : Option Text) (calculated : String × Option CellNumber) : EarningsEventDTO where
  symbol := head.symbol
  eventDate := head.eventDate
  fiscalYear := head.fiscalYear
  eventType := head.eventType
  companyName := text? row "company_name"
  fiscalQuarter := head.fiscalQuarter
  revenueActual := number values "revenue_actual"
  revenueConsensus := number values "revenue_consensus"
  operatingIncomeActual := number values "operating_income_actual"
  operatingIncomeConsensus := number values "operating_income_consensus"
  netIncomeActual := number values "net_income_actual"
  netIncomeConsensus := number values "net_income_consensus"
  epsActual := number values "eps_actual"
  epsConsensus := number values "eps_consensus"
  surpriseType := some (supplied.getD calculated.1.toList)
  surprisePct := (number values "surprise_pct").or calculated.2
  source := text? row "source"
  memo := (truncate memoMaxLen (text? row "memo")).1

def parseRow (raw : RawRow) : Except ImportError (EarningsEventDTO × Bool) := do
  let row := normalizeRow f raw
  let head ← validated (head f row)
  let values ← numbers f nonNegativeFields row numericFields
  let supplied ← validated (enum f "surprise_type" (row.cell "surprise_type") surpriseTypes)
  let calculated ← calculateSurprise (number values "operating_income_actual")
    (number values "operating_income_consensus")
  return (eventOf row head values supplied calculated, (truncate memoMaxLen (text? row "memo")).2)

end Parse

/-- `_dto_fields`, in the order the fields are compared. -/
def attributes (dto : EarningsEventDTO) : List Attribute :=
  [.text (some dto.symbol), .date dto.eventDate, .int (some dto.fiscalYear), .text (some dto.eventType),
    .text dto.companyName, .int dto.fiscalQuarter, .number dto.revenueActual,
    .number dto.revenueConsensus, .number dto.operatingIncomeActual,
    .number dto.operatingIncomeConsensus, .number dto.netIncomeActual,
    .number dto.netIncomeConsensus, .number dto.epsActual, .number dto.epsConsensus,
    .text dto.surpriseType, .number dto.surprisePct, .text dto.source, .text dto.memo]

/-- The columns of `uq_earnings_events_symbol_event`. -/
abbrev Key := Text × Date × Int × Option Int × Text

def key (dto : EarningsEventDTO) : Key :=
  (dto.symbol, dto.eventDate, dto.fiscalYear, dto.fiscalQuarter, dto.eventType)

theorem eq_of_attributes {a b : EarningsEventDTO} (h : attributes a = attributes b) : a = b := by
  cases a
  cases b
  simpa [attributes, and_assoc] using h

theorem eq_of_equal {a b : EarningsEventDTO} (h : allEqual (attributes a) (attributes b) = .ok true) :
    a = b := eq_of_attributes (eq_of_allEqual rfl h)

end EarningsCsvImporter

def earningsCsvImporter (f : MetricFunctions) :
    CsvImporter EarningsCsvImporter.Key EarningsEventDTO where
  key := EarningsCsvImporter.key
  attributes := EarningsCsvImporter.attributes
  parseRow := EarningsCsvImporter.parseRow f
  countsSkipped := false
  eq_of_allEqual := EarningsCsvImporter.eq_of_equal

section Traps

open EarningsCsvImporter

/-- The head of the row is valid, and a number field traps or the surprise cannot be computed. -/
def EarningsTraps (f : MetricFunctions) (raw : RawRow) : Prop :=
  let row := normalizeRow f raw
  (∃ fields, head f row = .ok fields) ∧
    (NumbersTrap f nonNegativeFields row numericFields ∨
      ∃ values, numbers f nonNegativeFields row numericFields = .ok values ∧
        (∃ supplied, enum f "surprise_type" (row.cell "surprise_type") surpriseTypes = .ok supplied) ∧
        ¬ SurpriseComputable (number values "operating_income_actual")
          (number values "operating_income_consensus"))

theorem escapes_earnings_iff (f : MetricFunctions) (raw : RawRow) :
    Escapes ((earningsCsvImporter f).parseRow raw) ↔ EarningsTraps f raw := by
  change Escapes (parseRow f raw) ↔ _
  rw [parseRow, escapes_validated_bind_iff]
  refine Iff.trans (exists_congr fun fields => and_congr_right fun _ => ?_) exists_and_right
  rw [escapes_bind_iff, escapes_numbers_iff]
  refine or_congr_right (exists_congr fun values => and_congr_right fun _ => ?_)
  rw [escapes_validated_bind_iff]
  simp only [escapes_bind_pure_iff, escapes_calculateSurprise_iff, exists_and_right]

end Traps

end StockAiPlatform.MetricImport
