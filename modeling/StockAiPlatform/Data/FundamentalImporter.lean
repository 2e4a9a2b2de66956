import StockAiPlatform.Data.MetricImportRuns

/-! # The CSV importer of fundamental snapshots

The rows hold numbers and nothing that is computed from them.
-/

namespace StockAiPlatform.MetricImport
set_option autoImplicit false

open Python Transaction
open AnalystReportCsvImporter (Row requiredStr)

structure FundamentalSnapshotDTO where
  symbol : Text
  snapshotDate : Date
  fiscalYear : Int
  fiscalQuarter : Option Int
  revenue : Option CellNumber
  operatingIncome : Option CellNumber
  netIncome : Option CellNumber
  totalAssets : Option CellNumber
  totalLiabilities : Option CellNumber
  totalEquity : Option CellNumber
  eps : Option CellNumber
  bps : Option CellNumber
  per : Option CellNumber
  pbr : Option CellNumber
  roe : Option CellNumber
  debtRatio : Option CellNumber
  dividendYield : Option CellNumber
  revenueGrowthYoy : Option CellNumber
  operatingIncomeGrowthYoy : Option CellNumber
  source : Option Text

namespace FundamentalCsvImporter

def numericFields : List String :=
  ["revenue", "operating_income", "net_income", "total_assets", "total_liabilities", "total_equity",
    "eps", "bps", "per", "pbr", "roe", "debt_ratio", "dividend_yield", "revenue_growth_yoy",
    "operating_income_growth_yoy"]

def nonNegativeFields : List String := ["revenue", "total_assets", "total_liabilities", "total_equity"]

/-- The cells that are read before the numbers. -/
structure Head where
  symbol : Text
  snapshotDate : Date
  fiscalYear : Int
  fiscalQuarter : Option Int
  source : Text

section Parse

variable (f : MetricFunctions)

def head (row : Row) : Except String Head := do
  let symbol ← requiredStr "symbol" (row.cell "symbol")
  let snapshotDate ← date f "snapshot_date" (row.cell "snapshot_date")
  let fiscalYear ← int f "fiscal_year" (row.cell "fiscal_year")
  let fiscalQuarter ← optionalQuarter f (row.cell "fiscal_quarter")
  let source ← requiredStr "source" (row.cell "source")
  pure ⟨symbol, snapshotDate, fiscalYear, fiscalQuarter, source⟩

def snapshotOf (head : Head) (values : List (String × Option CellNumber)) : FundamentalSnapshotDTO where
  symbol := head.symbol
  snapshotDate := head.snapshotDate
  fiscalYear := head.fiscalYear
  fiscalQuarter := head.fiscalQuarter
  revenue := number values "revenue"
  operatingIncome := number values "operating_income"
  netIncome := number values "net_income"
  totalAssets := number values "total_assets"
  totalLiabilities := number values "total_liabilities"
  totalEquity := number values "total_equity"
  eps := number values "eps"
  bps := number values "bps"
  per := number values "per"
  pbr := number values "pbr"
  roe := number values "roe"
  debtRatio := number values "debt_ratio"
  dividendYield := number values "dividend_yield"
  revenueGrowthYoy := number values "revenue_growth_yoy"
  operatingIncomeGrowthYoy := number values "operating_income_growth_yoy"
  source := some head.source

/-- No note of a snapshot is ever cut. -/
def parseRow (raw : RawRow) : Except ImportError (FundamentalSnapshotDTO × Bool) := do
  let row := normalizeRow f raw
  let head ← validated (head f row)
  let values ← numbers f nonNegativeFields row numericFields
  return (snapshotOf head values, false)

end Parse

/-- `_dto_fields`, in the order the fields are compared. -/
def attributes (dto : FundamentalSnapshotDTO) : List Attribute :=
  [.text (some dto.symbol), .date dto.snapshotDate, .int (some dto.fiscalYear), .int dto.fiscalQuarter,
    .number dto.revenue, .number dto.operatingIncome, .number dto.netIncome, .number dto.totalAssets,
    .number dto.totalLiabilities, .number dto.totalEquity, .number dto.eps, .number dto.bps,
    .number dto.per, .number dto.pbr, .number dto.roe, .number dto.debtRatio,
    .number dto.dividendYield, .number dto.revenueGrowthYoy, .number dto.operatingIncomeGrowthYoy,
    .text dto.source]

/-- The columns of `uq_fundamental_snapshots_symbol_period`. -/
abbrev Key := Text × Date × Int × Option Int

def key (dto : FundamentalSnapshotDTO) : Key :=
  (dto.symbol, dto.snapshotDate, dto.fiscalYear, dto.fiscalQuarter)

theorem eq_of_attributes {a b : FundamentalSnapshotDTO} (h : attributes a = attributes b) : a = b := by
  cases a
  cases b
  simpa [attributes, and_assoc] using h

theorem eq_of_equal {a b : FundamentalSnapshotDTO}
    (h : allEqual (attributes a) (attributes b) = .ok true) : a = b :=
  eq_of_attributes (eq_of_allEqual rfl h)

end FundamentalCsvImporter

def fundamentalCsvImporter (f : MetricFunctions) :
    CsvImporter FundamentalCsvImporter.Key FundamentalSnapshotDTO where
  key := FundamentalCsvImporter.key
  attributes := FundamentalCsvImporter.attributes
  parseRow := FundamentalCsvImporter.parseRow f
  countsSkipped := true
  eq_of_allEqual := FundamentalCsvImporter.eq_of_equal

section Traps

open FundamentalCsvImporter

/-- The head of the row is valid, and a number field traps. -/
def FundamentalTraps (f : MetricFunctions) (raw : RawRow) : Prop :=
  (∃ fields, head f (normalizeRow f raw) = .ok fields) ∧
    NumbersTrap f nonNegativeFields (normalizeRow f raw) numericFields

theorem escapes_fundamental_iff (f : MetricFunctions) (raw : RawRow) :
    Escapes ((fundamentalCsvImporter f).parseRow raw) ↔ FundamentalTraps f raw := by
  change Escapes (parseRow f raw) ↔ _
  rw [parseRow, escapes_validated_bind_iff]
  refine Iff.trans (exists_congr fun fields => and_congr_right fun _ => ?_) exists_and_right
  rw [escapes_bind_pure_iff, escapes_numbers_iff]

end Traps

end StockAiPlatform.MetricImport
