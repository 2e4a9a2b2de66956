import StockAiPlatform.Python.Date
import StockAiPlatform.Python.Decimal
import StockAiPlatform.Transaction.UniqueKey

/-! # Analyst reports and what is linked to them

Columns the importer leaves at null are left out. A look-up by the unique key
of a table comes before every insert, so no constraint of the tables is ever
what refuses a row.
-/

namespace StockAiPlatform
set_option autoImplicit false

open Transaction Python

structure AnalystReport where
  id : Nat
  brokerName : Text
  publishedAt : Date
  title : Text
  reportType : Text
  extractionMethod : String
  symbol : Option Text
  companyName : Option Text
  market : Option Text
  exchange : Option Text
  country : Option Text
  brokerCountry : Option Text
  analystName : Option Text
  rating : Option Text
  normalizedRating : Option Text
  targetPrice : Option Decimal
  previousTargetPrice : Option Decimal
  currentPriceAtReport : Option Decimal
  currency : Option Text
  summary : Option Text
  positivePoints : Option Text
  riskPoints : Option Text
  sourceUrl : Option Text
  sourceFilePath : Option Text
  language : Option Text

structure ReportTheme where
  id : Nat
  themeName : Text
  themeCategory : Text
  direction : Text
  timeHorizon : Text
  sourceReportId : Nat
  extractionMethod : String

structure ThemeStockMapping where
  id : Nat
  themeId : Nat
  symbol : Text
  impactDirection : Text
  extractionMethod : String
  impactPath : Option Text
  relationType : Option Text
  benefitType : Option Text

structure ReportSignalEvent where
  id : Nat
  reportId : Nat
  eventType : Text
  direction : Text
  timeHorizon : String
  extractionMethod : String
  symbol : Option Text
  themeId : Option Nat
  strength : Option Decimal
  summary : Option Text

instance : Keyed AnalystReport := ⟨AnalystReport.id⟩
instance : Keyed ReportTheme := ⟨ReportTheme.id⟩
instance : Keyed ThemeStockMapping := ⟨ThemeStockMapping.id⟩
instance : Keyed ReportSignalEvent := ⟨ReportSignalEvent.id⟩

/-- `uq_analyst_reports_broker_pub_title`. -/
def AnalystReport.uniqueKey (row : AnalystReport) : Text × Date × Text :=
  (row.brokerName, row.publishedAt, row.title)

/-- `uq_report_themes_report_theme`. -/
def ReportTheme.uniqueKey (row : ReportTheme) : Nat × Text := (row.sourceReportId, row.themeName)

/-- `uq_theme_stock_mappings_theme_symbol`. -/
def ThemeStockMapping.uniqueKey (row : ThemeStockMapping) : Nat × Text := (row.themeId, row.symbol)

/-- The columns of `uq_report_signal_events_report_event_symbol_theme`. The constraint lets rows
with a null among them repeat. -/
def ReportSignalEvent.uniqueKey (row : ReportSignalEvent) :
    Nat × Text × Option Text × Option Nat := (row.reportId, row.eventType, row.symbol, row.themeId)

structure ReportDatabase where
  reports : Table AnalystReport
  themes : Table ReportTheme
  mappings : Table ThemeStockMapping
  events : Table ReportSignalEvent

def ReportDatabase.empty : ReportDatabase := ⟨∅, ∅, ∅, ∅⟩

end StockAiPlatform
