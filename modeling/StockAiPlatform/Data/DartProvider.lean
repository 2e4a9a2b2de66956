import StockAiPlatform.Python.Date
import StockAiPlatform.Python.Decimal
import StockAiPlatform.Python.Json
import StockAiPlatform.Transaction.Fallible
import Mathlib.Data.List.ReduceOption

/-! # The parsers of DART payloads

A payload is a decoded JSON object whose `list` holds the rows. Two parsers read
the amounts of a statement from it, the third one the disclosures.
-/

namespace StockAiPlatform.Dart
set_option autoImplicit false

open Python Transaction

/-- An object as `json.loads` returns it. -/
abbrev JsonObject := List (String × Json)

inductive DartError where
  | dartParseError (message : String)
  | attributeError
  deriving DecidableEq, Repr

def forbiddenBodyFields : List String :=
  ["body", "content", "full_text", "fulltext", "paragraph", "raw_text", "rawtext", "html_body",
    "html", "본문", "원문", "전문"]

def stripForbiddenFields (payload : JsonObject) : JsonObject :=
  payload.filter fun entry => !forbiddenBodyFields.contains (String.ofList (lower entry.1.toList))

def field (key : String) (row : JsonObject) : Json := (Json.get? key row).getD .null

def orElse (a b : Json) : Json := if a.truthy then a else b

def payloadRows (payload : JsonObject) : Except DartError (List Json) :=
  match orElse (field "list" (stripForbiddenFields payload)) (.list []) with
  | .list rows => .ok rows
  | _ => .error (.dartParseError "DART payload 'list' is not an array")

section Amounts

/-- `Decimal(text)`, `none` for an `InvalidOperation`. -/
abbrev DecimalFunction := Text → Option DecimalValue

def toDecimal (decimal : DecimalFunction) : Json → Option DecimalValue
  | .bool value => decimal (Json.bool value).text.toList
  | .int value => decimal (Json.int value).text.toList
  | .float repr => decimal (Json.float repr).text.toList
  | .str value =>
    if value = "" ∨ value = "-" then none
    else
      let cleaned := strip (value.toList.filter fun c => decide (c ≠ ','))
      if cleaned = [] then none else decimal cleaned
  | _ => none

inductive AccountField where
  | revenue | operatingIncome | netIncome | totalAssets | totalLiabilities | totalEquity
  deriving DecidableEq, Repr

def fundamentalAccountMap : List (String × AccountField) :=
  [("매출액", .revenue), ("수익(매출액)", .revenue), ("영업이익", .operatingIncome),
    ("당기순이익", .netIncome), ("자산총계", .totalAssets), ("부채총계", .totalLiabilities),
    ("자본총계", .totalEquity), ("revenue", .revenue), ("operating_income", .operatingIncome),
    ("net_income", .netIncome), ("total_assets", .totalAssets),
    ("total_liabilities", .totalLiabilities), ("total_equity", .totalEquity)]

/-- `str(row.get("account_nm") or row.get("account") or "")` -/
def accountOf (row : JsonObject) : String :=
  (orElse (orElse (field "account_nm" row) (field "account" row)) (.str "")).text

/-- A dict of the amounts so far, the entry written last in front. -/
abbrev Amounts := List (AccountField × Option DecimalValue)

def Amounts.get (amounts : Amounts) (target : AccountField) : Option DecimalValue :=
  ((amounts.find? fun entry => decide (entry.1 = target)).map Prod.snd).join

/-- One row of the loop in `parse_fundamentals`. -/
def fundamentalRow (decimal : DecimalFunction) (fields : Amounts) : Json → Amounts
  | .dict row =>
    let row := stripForbiddenFields row
    match (fundamentalAccountMap.find? fun entry => entry.1 == accountOf row).map Prod.snd with
    | none => fields
    | some target =>
      (target, toDecimal decimal
        (orElse (orElse (field "thstrm_amount" row) (field "amount" row)) (field "value" row))) :: fields
  | _ => fields

/-- One row of the loop in `parse_earnings`. -/
def earningsRow (decimal : DecimalFunction) (actual : Amounts) : Json → Amounts
  | .dict row =>
    let row := stripForbiddenFields row
    let amount := toDecimal decimal (orElse (field "thstrm_amount" row) (field "amount" row))
    if ["매출액", "수익(매출액)", "revenue"].contains (accountOf row) then (.revenue, amount) :: actual
    else if ["영업이익", "operating_income"].contains (accountOf row) then
      (.operatingIncome, amount) :: actual
    else if ["당기순이익", "net_income"].contains (accountOf row) then (.netIncome, amount) :: actual
    else actual
  | _ => actual

structure FundamentalSnapshotDTO where
  symbol : String
  snapshotDate : Date
  fiscalYear : Int
  fiscalQuarter : Option Int
  revenue : Option DecimalValue
  operatingIncome : Option DecimalValue
  netIncome : Option DecimalValue
  totalAssets : Option DecimalValue
  totalLiabilities : Option DecimalValue
  totalEquity : Option DecimalValue
  source : String
  dataSource : String

structure EarningsEventDTO where
  symbol : String
  eventDate : Date
  fiscalYear : Int
  eventType : String
  companyName : Option String
  fiscalQuarter : Option Int
  revenueActual : Option DecimalValue
  operatingIncomeActual : Option DecimalValue
  netIncomeActual : Option DecimalValue
  source : String
  dataSource : String

variable (decimal : DecimalFunction)

def parseFundamentals (payload : JsonObject) (symbol : String) (snapshotDate : Date)
    (fiscalYear : Int) (fiscalQuarter : Option Int) : Except DartError FundamentalSnapshotDTO := do
  let rows ← payloadRows payload
  let fields := rows.foldl (fundamentalRow decimal) []
  return { symbol, snapshotDate, fiscalYear, fiscalQuarter
           revenue := fields.get .revenue
           operatingIncome := fields.get .operatingIncome
           netIncome := fields.get .netIncome
           totalAssets := fields.get .totalAssets
           totalLiabilities := fields.get .totalLiabilities
           totalEquity := fields.get .totalEquity
           source := "DART"
           dataSource := "PROVIDER" }

def parseEarnings (payload : JsonObject) (symbol : String) (companyName : Option String)
    (eventDate : Date) (fiscalYear : Int) (fiscalQuarter : Option Int) (eventType : String) :
    Except DartError EarningsEventDTO := do
  let rows ← payloadRows payload
  let actual := rows.foldl (earningsRow decimal) []
  return { symbol, eventDate, fiscalYear, eventType, companyName, fiscalQuarter
           revenueActual := actual.get .revenue
           operatingIncomeActual := actual.get .operatingIncome
           netIncomeActual := actual.get .netIncome
           source := "DART"
           dataSource := "PROVIDER" }

end Amounts

section Disclosures

def summaryMaxLen : Nat := 500

/-- `text.strip()` is there for a string only. -/
def shortSummary : Json → Except DartError (Option Text)
  | .null => .ok none
  | .str value =>
    let text := strip value.toList
    .ok (if text = [] then none else some (text.take summaryMaxLen))
  | _ => .error .attributeError

/-- `str(raw).strip() or None`, for a value that is not `None`. -/
def cleanText : Json → Option Text
  | .null => none
  | raw =>
    let text := strip raw.text.toList
    if text = [] then none else some text

structure DisclosureItemDTO where
  title : Text
  url : Json
  provider : String
  publishedAt : Date
  symbol : Option Text
  companyName : Option Text
  disclosureType : Option Text
  summary : Option Text
  dataSource : String

/-- The day the first eight characters of `rcept_dt` name. -/
def receiptDate (rceptDt : Json) : Option Date :=
  let rceptStr := rceptDt.text.toList
  if 8 ≤ rceptStr.length then do
    let year ← int? (rceptStr.take 4)
    let month ← int? ((rceptStr.drop 4).take 2)
    let day ← int? ((rceptStr.drop 6).take 2)
    if h : validDate year.toNat month.toNat day.toNat = true then
      some ⟨year.toNat, month.toNat, day.toNat, h⟩
    else none
  else none

/-- The title and the day of a row that has the essential fields and a date. -/
def essentials (row : JsonObject) : Option (Json × Date) :=
  let title := orElse (field "report_nm" row) (field "title" row)
  let rceptDt := field "rcept_dt" row
  if title.truthy && (field "rcept_no" row).truthy && rceptDt.truthy then
    (receiptDate rceptDt).map fun publishedAt => (title, publishedAt)
  else none

def parseDisclosureItem : Json → Except DartError (Option DisclosureItemDTO)
  | .dict row =>
    let row := stripForbiddenFields row
    match essentials row with
    | none => .ok none
    | some (title, publishedAt) => do
      let summary ← shortSummary (field "summary" row)
      return some
        { title := strip title.text.toList
          url := orElse (field "source_url" row)
            (.str ("https://dart.fss.or.kr/dsaf001/main.do?rcpNo=" ++ (field "rcept_no" row).text))
          provider := "dart"
          publishedAt := publishedAt
          symbol := cleanText (orElse (field "stock_code" row) (field "symbol" row))
          companyName := cleanText (orElse (field "corp_name" row) (field "company_name" row))
          disclosureType := cleanText (orElse (field "report_tp" row) (field "disclosure_type" row))
          summary := summary
          dataSource := "PROVIDER" }
  | _ => .ok none

def parseDisclosures (payload : JsonObject) : Except DartError (List DisclosureItemDTO) := do
  let rows ← payloadRows payload
  return (← rows.mapM parseDisclosureItem).reduceOption

end Disclosures

end StockAiPlatform.Dart
