import StockAiPlatform.Data.EarningsImporter
import StockAiPlatform.Data.FundamentalImporter

/-! # When metrics are imported exactly

The two importers are total, accounted for and idempotent on the files whose rows
are harmless, and on no others.
-/

namespace StockAiPlatform.MetricImport
set_option autoImplicit false

open Python Transaction

theorem importsExactly_iff_harmless (f : MetricFunctions) :
    (∀ (columns : Columns (earningsCsvImporter f)) (table : MetricTable columns) (rows : List RawRow),
        ImportsExactly table rows ↔ Harmless (EarningsTraps f) table rows) ∧
      ∀ (columns : Columns (fundamentalCsvImporter f)) (table : MetricTable columns)
        (rows : List RawRow), ImportsExactly table rows ↔ Harmless (FundamentalTraps f) table rows :=
  ⟨fun _ _ _ => importsExactly_iff (escapes_earnings_iff f),
    fun _ _ _ => importsExactly_iff (escapes_fundamental_iff f)⟩

def plainColumns {K V : Type} (importer : CsvImporter K V) : Columns importer where
  accepts _ _ := true
  keep := id
  key_keep _ := rfl
  keep_keep _ := rfl

theorem validDate_eventDay : validDate 2024 5 1 = true := rfl

/-- The functions on the cells of the row below, the only ones they are asked about. -/
def nanCells : MetricFunctions where
  upper := upper
  lower := lower
  strptime text :=
    if text = "2024-05-01".toList then some ⟨2024, 5, 1, validDate_eventDay⟩ else none
  int := int?
  decimal text := if text = "+nan".toList then some (.value .nan) else none

/-- A valid row for either importer, but for its revenue: the sign keeps it from being a null token. -/
def signedNan : RawRow :=
  [("symbol", "005930"), ("event_date", "2024-05-01"), ("snapshot_date", "2024-05-01"),
    ("fiscal_year", "2024"), ("event_type", "FINAL"), ("source", "csv"), ("revenue_actual", "+nan"),
    ("revenue", "+nan")].map fun cell => (some cell.1.toList, some cell.2.toList)

theorem not_importsExactly_signedNan :
    ¬ ImportsExactly ([] : MetricTable (plainColumns (earningsCsvImporter nanCells))) [signedNan] ∧
      ¬ ImportsExactly ([] : MetricTable (plainColumns (fundamentalCsvImporter nanCells)))
        [signedNan] := by
  constructor
  · intro hExactly
    obtain ⟨state, hState⟩ := hExactly.total
    have hRaised : importRows ([] : MetricTable (plainColumns (earningsCsvImporter nanCells)))
        [signedNan] = .error .invalidOperation := rfl
    cases hRaised.symm.trans hState
  · intro hExactly
    obtain ⟨state, hState⟩ := hExactly.total
    have hRaised : importRows ([] : MetricTable (plainColumns (fundamentalCsvImporter nanCells)))
        [signedNan] = .error .invalidOperation := rfl
    cases hRaised.symm.trans hState

end StockAiPlatform.MetricImport
