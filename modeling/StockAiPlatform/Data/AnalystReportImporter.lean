import StockAiPlatform.Db.ReportModels
import StockAiPlatform.Python.Json
import StockAiPlatform.Transaction.Raising

/-! # The CSV importer of analyst reports

A row is one report and what is linked to it: a theme, the stocks of the theme
and a signal event. Rows are validated while they are written, and what was
flushed or counted before an exception stays. The caller commits.
-/

namespace StockAiPlatform
set_option autoImplicit false

open Transaction Python

/-- The rows of a file by column name, cells as `str` gives them and `none` for a missing one. -/
abbrev RawRow := List (Option Text × Option Text)

/-- The functions of Python that read a cell. -/
structure CellFunctions where
  upper : Text → Text
  lower : Text → Text
  /-- `datetime.strptime(text, "%Y-%m-%d").date()`, `none` for a `ValueError`. -/
  strptime : Text → Option Date
  /-- `Decimal(text)`, `none` for an `InvalidOperation`. -/
  decimal : Text → Option Decimal

/-- What is raised in an importer. A validation error is caught, and no other one. -/
inductive ImportError where
  | rowValidation (message : String)
  | invalidOperation
  | divisionByZero
  | overflow
  | multipleResultsFound
  | refused
  deriving DecidableEq, Repr

/-- What every importer counts. -/
structure RowCounts where
  totalRows : Nat := 0
  skippedDuplicates : Nat := 0
  validationErrors : Nat := 0
  errorDetails : List (Nat × String) := []
  deriving DecidableEq, Repr

def RowCounts.failed (counts : RowCounts) (index : Nat) (message : String) : RowCounts :=
  { counts with
    validationErrors := counts.validationErrors + 1
    errorDetails := counts.errorDetails ++ [(index, message)] }

structure ImportSummary extends RowCounts where
  insertedReports : Nat := 0
  insertedThemes : Nat := 0
  insertedMappings : Nat := 0
  insertedSignalEvents : Nat := 0
  truncatedSummaries : Nat := 0
  deriving DecidableEq, Repr

/-- The tables an importer writes, and its summary. -/
structure Importing (database summary : Type) where
  db : database
  summary : summary

abbrev ImportState := Importing ReportDatabase ImportSummary

abbrev ImportApp := EStateM ImportError ImportState

def counted (change : ImportSummary → ImportSummary) : ImportApp Unit :=
  modify fun s => { s with summary := change s.summary }

/-- `scalar_one_or_none`. -/
def scalarOneOrNone {m : Type → Type} [Monad m] [MonadExceptOf ImportError m] {α : Type} :
    List α → m (Option α)
  | [] => pure none
  | [row] => pure (some row)
  | _ => throw .multipleResultsFound

namespace AnalystReportRepository

def getByUnique (brokerName : Text) (publishedAt : Date) (title : Text) :
    ImportApp (Option AnalystReport) := do
  scalarOneOrNone ((← get).db.reports.byKey AnalystReport.uniqueKey (brokerName, publishedAt, title))

/-- The row under the key the store hands out. -/
def create (row : Nat → AnalystReport) : ImportApp AnalystReport := do
  let report := row (← get).db.reports.nextKey
  modify fun s => { s with db := { s.db with reports := s.db.reports.insert report } }
  pure report

end AnalystReportRepository

namespace ReportThemeRepository

def getByReportAndName (sourceReportId : Nat) (themeName : Text) :
    ImportApp (Option ReportTheme) := do
  scalarOneOrNone ((← get).db.themes.byKey ReportTheme.uniqueKey (sourceReportId, themeName))

def create (row : Nat → ReportTheme) : ImportApp ReportTheme := do
  let theme := row (← get).db.themes.nextKey
  modify fun s => { s with db := { s.db with themes := s.db.themes.insert theme } }
  pure theme

end ReportThemeRepository

namespace ThemeStockMappingRepository

def getByThemeAndSymbol (themeId : Nat) (symbol : Text) :
    ImportApp (Option ThemeStockMapping) := do
  scalarOneOrNone ((← get).db.mappings.byKey ThemeStockMapping.uniqueKey (themeId, symbol))

def create (row : Nat → ThemeStockMapping) : ImportApp ThemeStockMapping := do
  let mapping := row (← get).db.mappings.nextKey
  modify fun s => { s with db := { s.db with mappings := s.db.mappings.insert mapping } }
  pure mapping

end ThemeStockMappingRepository

namespace ReportSignalEventRepository

def getByUnique (reportId : Nat) (eventType : Text) (symbol : Option Text) (themeId : Option Nat) :
    ImportApp (Option ReportSignalEvent) := do
  scalarOneOrNone
    ((← get).db.events.byKey ReportSignalEvent.uniqueKey (reportId, eventType, symbol, themeId))

def create (row : Nat → ReportSignalEvent) : ImportApp ReportSignalEvent := do
  let event := row (← get).db.events.nextKey
  modify fun s => { s with db := { s.db with events := s.db.events.insert event } }
  pure event

end ReportSignalEventRepository

namespace AnalystReportCsvImporter

/-! The values the enumerations allow, in the order `sorted` gives them. -/

def reportTypes : List String :=
  ["COMMODITY", "COMPANY", "INDUSTRY", "MACRO", "SECTOR", "STRATEGY", "THEME"]

def normalizedRatings : List String := ["BUY", "HOLD", "SELL", "STRONG_BUY", "STRONG_SELL"]

def themeCategories : List String :=
  ["AI", "AUTO", "BATTERY", "BIO", "COMMODITY", "CUSTOM", "DATA_CENTER", "DEFENSE", "ENERGY",
    "MACRO", "POWER_GRID", "SEMICONDUCTOR", "SHIPBUILDING"]

def directions : List String := ["MIXED", "NEGATIVE", "NEUTRAL", "POSITIVE"]

def timeHorizons : List String := ["IMMEDIATE", "LONG_TERM", "MID_TERM", "SHORT_TERM", "UNKNOWN"]

def impactPaths : List String :=
  ["CAPEX_EXPANSION", "COST_PRESSURE", "CUSTOM", "DEMAND_INCREASE", "EXPORT_GROWTH",
    "INVENTORY_CYCLE", "MARGIN_IMPROVEMENT", "POLICY_SUPPORT", "PRICE_INCREASE", "RATE_FX_IMPACT",
    "SUPPLY_SHORTAGE"]

def relationTypes : List String :=
  ["BENEFICIARY", "COMPETITOR", "CONSUMER", "COST_PRESSURE", "CUSTOM", "CUSTOMER", "EQUIPMENT",
    "MATERIAL", "PRODUCER", "SUPPLIER"]

def benefitTypes : List String :=
  ["COST_PASS_THROUGH", "CUSTOM", "DIRECT", "INDIRECT", "SENTIMENT", "SUPPLY_CHAIN"]

def eventTypes : List String :=
  ["ASP_RISE", "CAPEX_EXPANSION", "COMMODITY_PRICE_RISE", "CUSTOM", "DEMAND_RECOVERY",
    "EARNINGS_REVISION_DOWN", "EARNINGS_REVISION_UP", "FX_RATE_IMPACT", "INVENTORY_DRAW_DOWN",
    "MARGIN_IMPROVEMENT", "MARGIN_PRESSURE", "POLICY_SUPPORT", "RATING_DOWNGRADE", "RATING_UPGRADE",
    "RISK_WARNING", "SUPPLY_SHORTAGE", "TARGET_PRICE_DOWN", "TARGET_PRICE_UP"]

def summaryMaxLen : Nat := 500

def textMaxLen : Nat := 500

def extractionMethodCsv : String := "CSV_IMPORT"

/-- A row under lower-case column names. -/
abbrev Row := List (Text × Text)

/-- `row.get(name, "")`: of columns with one name the last one counts. -/
def Row.cell (row : Row) (name : String) : Text :=
  match row.reverse.find? fun column => column.1 == name.toList with
  | some (_, value) => value
  | none => []

def normalize : Option Text → Text
  | none => []
  | some value => strip value

section Cells

variable (f : CellFunctions)

def normalizeRow (raw : RawRow) : Row :=
  raw.map fun (name, value) => (f.lower (strip (name.getD [])), normalize value)

def reprText (value : Text) : String := Json.quote (String.ofList value)

def required (name : String) : String := name ++ " is required (got empty)"

def enum (name : String) (value : Text) (allowed : List String) : Except String (Option Text) :=
  let cleaned := f.upper (strip value)
  if cleaned = [] then .ok none
  else if cleaned ∈ allowed.map String.toList then .ok (some cleaned)
  else .error (name ++ "=" ++ reprText value ++ " is not one of " ++
    (Json.list (allowed.map .str)).repr)

def requiredEnum (name : String) (value : Text) (allowed : List String) : Except String Text := do
  match ← enum f name value allowed with
  | none => .error (required name)
  | some cleaned => .ok cleaned

def requiredStr (name : String) (value : Text) : Except String Text :=
  if strip value = [] then .error (required name) else .ok (strip value)

def optionalStr (value : Text) : Option Text :=
  if strip value = [] then none else some (strip value)

def optionalDecimal (name : String) (value : Text) : Except String (Option Decimal) :=
  if strip value = [] then .ok none
  else
    match f.decimal (strip value) with
    | some number => .ok (some number)
    | none => .error (name ++ "=" ++ reprText value ++ " is not a valid number")

def date (name : String) (value : Text) : Except String Date :=
  if strip value = [] then .error (required name)
  else
    match f.strptime (strip value) with
    | some day => .ok day
    | none => .error (name ++ "=" ++ reprText value ++ " is not ISO date YYYY-MM-DD")

def truncate (limit : Nat) : Option Text → Option Text × Bool
  | none => (none, false)
  | some value =>
    if value.length ≤ limit then (some value, false) else (some (value.take limit), true)

def splitSymbols (value : Text) : List Text :=
  if strip value = [] then []
  else
    let parts := (value.map fun c => if c = ',' then ';' else c).splitOn ';'
    (parts.map strip).filter (· ≠ [])

/-- The cells every row needs. -/
structure Head where
  reportType : Text
  brokerName : Text
  publishedAt : Date
  title : Text

def head (row : Row) : Except String Head := do
  let reportType ← requiredEnum f "report_type" (row.cell "report_type") reportTypes
  let brokerName ← requiredStr "broker_name" (row.cell "broker_name")
  let publishedAt ← date f "published_at" (row.cell "published_at")
  let title ← requiredStr "title" (row.cell "title")
  pure ⟨reportType, brokerName, publishedAt, title⟩

/-- The cells read only where the report is not stored yet. -/
structure Details where
  normalizedRating : Option Text
  targetPrice : Option Decimal
  previousTargetPrice : Option Decimal
  currentPriceAtReport : Option Decimal

def details (row : Row) : Except String Details := do
  let normalizedRating ←
    enum f "normalized_rating" (row.cell "normalized_rating") normalizedRatings
  let targetPrice ← optionalDecimal f "target_price" (row.cell "target_price")
  let previousTargetPrice ←
    optionalDecimal f "previous_target_price" (row.cell "previous_target_price")
  let currentPriceAtReport ←
    optionalDecimal f "current_price_at_report" (row.cell "current_price_at_report")
  pure ⟨normalizedRating, targetPrice, previousTargetPrice, currentPriceAtReport⟩

structure ThemeFields where
  themeCategory : Text
  direction : Text
  timeHorizon : Text

def themeFields (row : Row) : Except String ThemeFields := do
  let themeCategory ← requiredEnum f "theme_category" (row.cell "theme_category") themeCategories
  let direction ← enum f "theme_direction" (row.cell "theme_direction") directions
  let timeHorizon ← enum f "theme_time_horizon" (row.cell "theme_time_horizon") timeHorizons
  pure ⟨themeCategory, direction.getD "NEUTRAL".toList, timeHorizon.getD "UNKNOWN".toList⟩

structure MappingFields where
  impactDirection : Text
  impactPath : Option Text
  relationType : Option Text
  benefitType : Option Text

def mappingFields (row : Row) : Except String MappingFields := do
  let impactDirection ← requiredEnum f "impact_direction" (row.cell "impact_direction") directions
  let impactPath ← enum f "impact_path" (row.cell "impact_path") impactPaths
  let relationType ← enum f "relation_type" (row.cell "relation_type") relationTypes
  let benefitType ← enum f "benefit_type" (row.cell "benefit_type") benefitTypes
  pure ⟨impactDirection, impactPath, relationType, benefitType⟩

/-- `Decimal("0") <= strength <= Decimal("1")`, which a NaN makes raise. -/
def inUnitInterval : DecimalValue → Except ImportError Bool
  | .nan => .error .invalidOperation
  | .infinite _ => .ok false
  | .finite value => .ok (0 ≤ value && value ≤ 1)

def signalStrength (row : Row) : Except ImportError (Option Decimal) := do
  match ← (optionalDecimal f "signal_strength" (row.cell "signal_strength")).mapError
      .rowValidation with
  | none => .ok none
  | some strength =>
    if ← inUnitInterval strength.value then .ok (some strength)
    else .error (.rowValidation
      ("signal_strength=" ++ String.ofList strength.text ++ " must be in [0, 1]"))

structure EventFields where
  eventType : Text
  direction : Text
  strength : Option Decimal

/-- `none` where the row has no event. -/
def eventFields (row : Row) : Except ImportError (Option EventFields) := do
  match ← (enum f "signal_event_type" (row.cell "signal_event_type") eventTypes).mapError
      .rowValidation with
  | none => .ok none
  | some eventType =>
    let direction ← (enum f "signal_direction" (row.cell "signal_direction") directions).mapError
      .rowValidation
    let strength ← signalStrength f row
    pure (some ⟨eventType, direction.getD "NEUTRAL".toList, strength⟩)

end Cells

def checked {α : Type} : Except ImportError α → ImportApp α
  | .ok value => pure value
  | .error error => throw error

def validated {α : Type} (outcome : Except String α) : ImportApp α :=
  checked (outcome.mapError .rowValidation)

def text? (row : Row) (name : String) : Option Text := optionalStr (row.cell name)

def reportOf (head : Head) (details : Details) (row : Row) (id : Nat) : AnalystReport where
  id := id
  brokerName := head.brokerName
  publishedAt := head.publishedAt
  title := head.title
  reportType := head.reportType
  extractionMethod := extractionMethodCsv
  symbol := text? row "symbol"
  companyName := text? row "company_name"
  market := text? row "market"
  exchange := text? row "exchange"
  country := text? row "country"
  brokerCountry := text? row "broker_country"
  analystName := text? row "analyst_name"
  rating := text? row "rating"
  normalizedRating := details.normalizedRating
  targetPrice := details.targetPrice
  previousTargetPrice := details.previousTargetPrice
  currentPriceAtReport := details.currentPriceAtReport
  currency := text? row "currency"
  summary := (truncate summaryMaxLen (text? row "summary")).1
  positivePoints := (truncate textMaxLen (text? row "positive_points")).1
  riskPoints := (truncate textMaxLen (text? row "risk_points")).1
  sourceUrl := text? row "source_url"
  sourceFilePath := text? row "source_file_path"
  language := text? row "language"

def themeOf (themeName : Text) (fields : ThemeFields) (reportId id : Nat) : ReportTheme :=
  ⟨id, themeName, fields.themeCategory, fields.direction, fields.timeHorizon, reportId,
    extractionMethodCsv⟩

def mappingOf (fields : MappingFields) (themeId : Nat) (symbol : Text) (id : Nat) :
    ThemeStockMapping :=
  ⟨id, themeId, symbol, fields.impactDirection, extractionMethodCsv, fields.impactPath,
    fields.relationType, fields.benefitType⟩

def eventOf (fields : EventFields) (reportId : Nat) (themeId : Option Nat) (row : Row) (id : Nat) :
    ReportSignalEvent where
  id := id
  reportId := reportId
  eventType := fields.eventType
  direction := fields.direction
  timeHorizon := "UNKNOWN"
  extractionMethod := extractionMethodCsv
  symbol := text? row "symbol"
  themeId := themeId
  strength := fields.strength
  summary := (truncate textMaxLen (text? row "signal_summary")).1

def truncatedSummary (row : Row) (summary : ImportSummary) : ImportSummary :=
  if (truncate summaryMaxLen (text? row "summary")).2 then
    { summary with truncatedSummaries := summary.truncatedSummaries + 1 }
  else summary

section Import

variable (f : CellFunctions)

def createReport (head : Head) (row : Row) : ImportApp Nat := do
  let details ← validated (details f row)
  counted (truncatedSummary row)
  let report ← AnalystReportRepository.create (reportOf head details row)
  counted fun n => { n with insertedReports := n.insertedReports + 1 }
  pure report.id

def importReport (head : Head) (row : Row) : ImportApp Nat := do
  match ← AnalystReportRepository.getByUnique head.brokerName head.publishedAt head.title with
  | some report =>
    counted fun n => { n with skippedDuplicates := n.skippedDuplicates + 1 }
    pure report.id
  | none => createReport f head row

def createTheme (themeName : Text) (fields : ThemeFields) (reportId : Nat) : ImportApp Nat := do
  let theme ← ReportThemeRepository.create (themeOf themeName fields reportId)
  counted fun n => { n with insertedThemes := n.insertedThemes + 1 }
  pure theme.id

/-- The theme of the row, where it names one. -/
def importTheme (reportId : Nat) (row : Row) : ImportApp (Option Nat) :=
  match text? row "theme_name" with
  | none => pure none
  | some themeName => do
    let fields ← validated (themeFields f row)
    match ← ReportThemeRepository.getByReportAndName reportId themeName with
    | some theme => pure (some theme.id)
    | none => some <$> createTheme themeName fields reportId

def importMapping (fields : MappingFields) (themeId : Nat) (symbol : Text) : ImportApp Unit := do
  match ← ThemeStockMappingRepository.getByThemeAndSymbol themeId symbol with
  | some _ => pure ()
  | none =>
    let _ ← ThemeStockMappingRepository.create (mappingOf fields themeId symbol)
    counted fun n => { n with insertedMappings := n.insertedMappings + 1 }

def importRelated (fields : MappingFields) (themeId : Nat) : List Text → ImportApp Unit
  | [] => pure ()
  | symbol :: related => do
    importMapping fields themeId symbol
    importRelated fields themeId related

def related (row : Row) : List Text := splitSymbols (row.cell "related_symbols")

def importMappings (row : Row) : Option Nat → ImportApp Unit
  | none => pure ()
  | some themeId =>
    if related row = [] then pure ()
    else do
      let fields ← validated (mappingFields f row)
      importRelated fields themeId (related row)

def importEvent (reportId : Nat) (themeId : Option Nat) (row : Row) : ImportApp Unit := do
  match ← checked (eventFields f row) with
  | none => pure ()
  | some fields =>
    match ← ReportSignalEventRepository.getByUnique reportId fields.eventType (text? row "symbol")
        themeId with
    | some _ => pure ()
    | none =>
      let _ ← ReportSignalEventRepository.create (eventOf fields reportId themeId row)
      counted fun n => { n with insertedSignalEvents := n.insertedSignalEvents + 1 }

def importLinked (reportId : Nat) (row : Row) : ImportApp Unit := do
  let themeId ← importTheme f reportId row
  importMappings f row themeId
  importEvent f reportId themeId row

/-- `_import_row`. -/
def importRow (raw : RawRow) : ImportApp Unit := do
  let row := normalizeRow f raw
  let head ← validated (head f row)
  let reportId ← importReport f head row
  importLinked f reportId row

/-- One turn of the loop: a row that fails its validation is counted and left. -/
def importNext (index : Nat) (raw : RawRow) : ImportApp Unit := do
  counted fun n => { n with totalRows := n.totalRows + 1 }
  try importRow f raw
  catch
    | .rowValidation message =>
      counted fun n => { n with toRowCounts := n.toRowCounts.failed index message }
    | error => throw error

def importFrom (index : Nat) : List RawRow → ImportApp Unit
  | [] => pure ()
  | raw :: rows => do
    importNext f index raw
    importFrom (index + 1) rows

/-- `import_rows`, with the state of the session it returns or raises in. -/
def importRows (rows : List RawRow) (db : ReportDatabase) :
    EStateM.Result ImportError ImportState Unit := (importFrom f 1 rows).run ⟨db, {}⟩

end Import

end AnalystReportCsvImporter

end StockAiPlatform
