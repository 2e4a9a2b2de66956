import StockAiPlatform.Data.DartProvider
import StockAiPlatform.Transaction.FirstSeen

/-! # What the DART parsers make of a payload

Both statement parsers keep the last row of an account, and read an amount from
it in different fields. The disclosure parser reads each row for itself, and
raises on a summary that is no text.
-/

namespace StockAiPlatform.Dart
set_option autoImplicit false

open Python Transaction

section Statements

def accountTarget (account : String) : Option AccountField :=
  (fundamentalAccountMap.find? fun entry => entry.1 == account).map Prod.snd

/-- The fields a row names the target with. -/
def naming (target : AccountField) : Json → Option JsonObject
  | .dict row =>
    if accountTarget (accountOf (stripForbiddenFields row)) = some target then
      some (stripForbiddenFields row)
    else none
  | _ => none

def lastNaming (target : AccountField) (rows : List Json) : Option JsonObject :=
  (rows.filterMap (naming target)).getLast?

/-- `row.get("thstrm_amount") or row.get("amount")` -/
def periodAmount (row : JsonObject) : Json := orElse (field "thstrm_amount" row) (field "amount" row)

def statementRows (payload : JsonObject) : List Json := (payloadRows payload).toOption.getD []

variable {decimal : DecimalFunction} {payload : JsonObject} {target : AccountField}

theorem get_cons (entry : AccountField × Option DecimalValue) (amounts : Amounts)
    (target : AccountField) :
    Amounts.get (entry :: amounts) target = if entry.1 = target then entry.2 else amounts.get target := by
  rw [Amounts.get, List.find?_cons]
  by_cases hSame : entry.1 = target
  · rw [if_pos hSame]
    simp [hSame]
  · rw [if_neg hSame]
    simp [hSame, Amounts.get]

theorem contains_iff_accountTarget {names : List String}
    (hNames : ∀ name ∈ names, accountTarget name = some target)
    (hOnly : ∀ entry ∈ fundamentalAccountMap, entry.2 = target → entry.1 ∈ names) (account : String) :
    names.contains account = true ↔ accountTarget account = some target := by
  rw [List.contains_iff_mem]
  constructor
  · exact hNames account
  · intro hTarget
    obtain ⟨entry, hFind, rfl⟩ := Option.map_eq_some_iff.mp hTarget
    have hAccount := List.find?_some hFind
    exact eq_of_beq hAccount ▸ hOnly entry (List.mem_of_find?_eq_some hFind) rfl

theorem contains_revenue (account : String) :
    ["매출액", "수익(매출액)", "revenue"].contains account = true ↔ accountTarget account = some .revenue :=
  contains_iff_accountTarget (by decide) (by decide) account

theorem contains_operatingIncome (account : String) :
    ["영업이익", "operating_income"].contains account = true ↔
      accountTarget account = some .operatingIncome :=
  contains_iff_accountTarget (by decide) (by decide) account

theorem contains_netIncome (account : String) :
    ["당기순이익", "net_income"].contains account = true ↔ accountTarget account = some .netIncome :=
  contains_iff_accountTarget (by decide) (by decide) account

theorem get_fundamentalRow (decimal : DecimalFunction) (target : AccountField) (fields : Amounts)
    (row : Json) :
    (fundamentalRow decimal fields row).get target =
      ((naming target row).map fun row =>
        toDecimal decimal (orElse (periodAmount row) (field "value" row))).getD (fields.get target) := by
  cases row with
  | dict row =>
    have hNamed : (fundamentalAccountMap.find? fun entry =>
        entry.1 == accountOf (stripForbiddenFields row)).map Prod.snd =
          accountTarget (accountOf (stripForbiddenFields row)) := rfl
    simp only [fundamentalRow, naming, hNamed]
    cases accountTarget (accountOf (stripForbiddenFields row)) with
    | none => rfl
    | some named =>
      rw [get_cons]
      by_cases hSame : named = target
      · rw [if_pos hSame, if_pos (congrArg some hSame)]
        rfl
      · rw [if_neg hSame, if_neg fun h => hSame (Option.some.inj h)]
        rfl
  | _ => rfl

/-- The accounts the earnings parser reads. -/
def reported : List AccountField := [.revenue, .operatingIncome, .netIncome]

theorem get_earningsRow (decimal : DecimalFunction) (hTarget : target ∈ reported) (actual : Amounts)
    (row : Json) :
    (earningsRow decimal actual row).get target =
      ((naming target row).map fun row => toDecimal decimal (periodAmount row)).getD
        (actual.get target) := by
  cases row with
  | dict row =>
    simp only [earningsRow, naming, contains_revenue, contains_operatingIncome, contains_netIncome]
    generalize accountTarget (accountOf (stripForbiddenFields row)) = named
    -- The chain of tests compares what the account names with one target after the other.
    simp only [reported, List.mem_cons, List.not_mem_nil, or_false] at hTarget
    rcases hTarget with rfl | rfl | rfl
    all_goals
      cases named with
      | none => rfl
      | some named => cases named <;> rfl
  | _ => rfl

/-- What is read of the last row that names the target. -/
theorem get_lastNaming {step : Amounts → Json → Amounts} {amount : JsonObject → Option DecimalValue}
    (hStep : ∀ fields row, (step fields row).get target =
      ((naming target row).map amount).getD (fields.get target)) (rows : List Json) :
    Amounts.get (rows.foldl step []) target = ((lastNaming target rows).map amount).join := by
  rw [read_foldl_lastWrite (fun fields => Amounts.get fields target) hStep, ← List.map_filterMap,
    List.getLast?_map, lastNaming]
  cases (rows.filterMap (naming target)).getLast? with
  | none => rfl
  | some row => rfl

/-- What both parsers extract from the payload is the same, for any metadata they are given. -/
def StatementsAgree (decimal : DecimalFunction) (payload : JsonObject) : Prop :=
  ∀ fundamentals earnings,
    (∃ symbol snapshotDate fiscalYear fiscalQuarter,
      parseFundamentals decimal payload symbol snapshotDate fiscalYear fiscalQuarter =
        .ok fundamentals) →
    (∃ symbol companyName eventDate fiscalYear fiscalQuarter eventType,
      parseEarnings decimal payload symbol companyName eventDate fiscalYear fiscalQuarter eventType =
        .ok earnings) →
    fundamentals.revenue = earnings.revenueActual ∧
      fundamentals.operatingIncome = earnings.operatingIncomeActual ∧
      fundamentals.netIncome = earnings.netIncomeActual

theorem statementsAgree_iff_get (decimal : DecimalFunction) (payload : JsonObject) :
    StatementsAgree decimal payload ↔
      ∀ target ∈ reported,
        Amounts.get ((statementRows payload).foldl (fundamentalRow decimal) []) target =
          Amounts.get ((statementRows payload).foldl (earningsRow decimal) []) target := by
  rw [StatementsAgree]
  simp only [parseFundamentals, parseEarnings, statementRows, reported, List.forall_mem_cons]
  cases payloadRows payload with
  | error raised =>
    constructor
    · exact fun _ => ⟨rfl, rfl, rfl, List.forall_mem_nil _⟩
    · rintro - fundamentals earnings ⟨_, _, _, _, hFundamentals⟩ -
      exact nomatch hFundamentals
  | ok rows =>
    constructor
    · intro hAgree
      obtain ⟨hRevenue, hOperating, hNet⟩ := hAgree _ _
        ⟨"", ⟨2000, 1, 1, by decide⟩, 0, none, rfl⟩ ⟨"", none, ⟨2000, 1, 1, by decide⟩, 0, none, "", rfl⟩
      exact ⟨hRevenue, hOperating, hNet, List.forall_mem_nil _⟩
    · rintro ⟨hRevenue, hOperating, hNet, -⟩ fundamentals earnings ⟨_, _, _, _, hFundamentals⟩
        ⟨_, _, _, _, _, _, hEarnings⟩
      obtain rfl := Except.ok.inj hFundamentals
      obtain rfl := Except.ok.inj hEarnings
      exact ⟨hRevenue, hOperating, hNet⟩

theorem orElse_of_truthy {a : Json} (h : a.truthy = true) (b : Json) : orElse a b = a := if_pos h

theorem orElse_of_not_truthy {a : Json} (h : ¬ a.truthy = true) (b : Json) : orElse a b = b := if_neg h

theorem periodAmount_of_not_truthy {row : JsonObject} (h : ¬ (periodAmount row).truthy = true) :
    periodAmount row = field "amount" row := by
  apply orElse_of_not_truthy
  intro hThstrm
  rw [periodAmount, orElse_of_truthy hThstrm] at h
  exact h hThstrm

/-- The statement parsers agree exactly if no account of the earnings ends with a row whose amount
is only found under `value`. -/
theorem statementsAgree_iff (decimal : DecimalFunction) (payload : JsonObject) :
    StatementsAgree decimal payload ↔
      ∀ target ∈ reported, ∀ row, lastNaming target (statementRows payload) = some row →
        (periodAmount row).truthy = true ∨
          toDecimal decimal (field "value" row) = toDecimal decimal (field "amount" row) := by
  rw [statementsAgree_iff_get]
  refine forall₂_congr fun target hTarget => ?_
  rw [get_lastNaming (get_fundamentalRow decimal target),
    get_lastNaming (get_earningsRow decimal hTarget)]
  cases lastNaming target (statementRows payload) with
  | none => exact iff_of_true rfl fun row hRow => nomatch hRow
  | some row =>
    simp only [Option.map_some, Option.join_some, Option.some.injEq, forall_eq']
    by_cases hTruthy : (periodAmount row).truthy = true
    · rw [orElse_of_truthy hTruthy]
      exact iff_of_true rfl (.inl hTruthy)
    · rw [orElse_of_not_truthy hTruthy, or_iff_right hTruthy, periodAmount_of_not_truthy hTruthy]

/-- A statement with one row, whose amount stands under `value`. -/
def valueRow : JsonObject :=
  [("list", .list [.dict [("account_nm", .str "매출액"), ("value", .str "100")]])]

/-- `Decimal` of the digits of a number. -/
def digitsOnly : DecimalFunction := fun text => (int? text).map fun value => .finite value

theorem not_statementsAgree_valueRow : ¬ StatementsAgree digitsOnly valueRow := by
  intro hAgree
  obtain ⟨hRevenue, -, -⟩ := hAgree _ _
    ⟨"005930", ⟨2026, 5, 4, by decide⟩, 2026, none, rfl⟩
    ⟨"005930", none, ⟨2026, 5, 4, by decide⟩, 2026, none, "FINAL", rfl⟩
  have hRead : Amounts.get ([.dict [("account_nm", .str "매출액"), ("value", .str "100")]].foldl
      (fundamentalRow digitsOnly) []) .revenue = some (.finite 100) := by rfl
  exact nomatch hRead.symm.trans hRevenue

end Statements

section Disclosures

/-- The fields kept of a row that has the essential ones, with its title. -/
def essentialRow : Json → Option (JsonObject × Json)
  | .dict row =>
    (essentials (stripForbiddenFields row)).map fun found => (stripForbiddenFields row, found.1)
  | _ => none

/-- There is a `strip` for the summary, if the row gets that far. -/
def readable (row : Json) : Bool :=
  (essentialRow row).all fun found =>
    match field "summary" found.1 with
    | .null => true
    | .str _ => true
    | _ => false

def titled (row : Json) : Bool :=
  (essentialRow row).all fun found => decide (strip found.2.text.toList ≠ [])

def wellFormed (row : Json) : Bool := (essentialRow row).isSome && readable row && titled row

/-- What a row is returned as. -/
def item? (row : Json) : Option DisclosureItemDTO := (parseDisclosureItem row).toOption.join

/-- The parser answers with a list or its own error, the items are titled and short, and payloads
with the same well-formed rows have the same result. -/
structure Robust (payload payload' : JsonObject) : Prop where
  total : ∀ p ∈ [payload, payload'], (∃ items, parseDisclosures p = .ok items) ∨
    ∃ message, parseDisclosures p = .error (.dartParseError message)
  bounded : ∀ p ∈ [payload, payload'], ∀ items, parseDisclosures p = .ok items →
    ∀ item ∈ items, item.title ≠ [] ∧ ∀ summary ∈ item.summary, summary.length ≤ 500
  independent : ∀ rows rows', payloadRows payload = .ok rows → payloadRows payload' = .ok rows' →
    rows.filter wellFormed = rows'.filter wellFormed →
    parseDisclosures payload = parseDisclosures payload'

variable {row : Json} {rows : List Json} {payload payload' : JsonObject}

theorem shortSummary_length (raw : Json) {summary : Option Text} (h : shortSummary raw = .ok summary) :
    ∀ text ∈ summary, text.length ≤ 500 := by
  cases raw with
  | null =>
    cases h
    exact fun _ hNone => nomatch hNone
  | str value =>
    obtain rfl := Except.ok.inj h
    intro text hText
    by_cases hNil : strip value.toList = []
    · rw [if_pos hNil] at hText
      exact nomatch hText
    · rw [if_neg hNil] at hText
      rw [← Option.some.inj hText]
      exact List.length_take_le _ _
  | _ => exact nomatch h

/-- A row is passed over, raises, or is returned with its title. -/
theorem parseDisclosureItem_cases (row : Json) :
    (essentialRow row = none ∧ parseDisclosureItem row = .ok none) ∨
      (readable row = false ∧ parseDisclosureItem row = .error .attributeError) ∨
      (readable row = true ∧ (essentialRow row).isSome ∧ ∃ item,
        parseDisclosureItem row = .ok (some item) ∧ (∀ summary ∈ item.summary, summary.length ≤ 500) ∧
        (titled row = true ↔ item.title ≠ [])) := by
  cases row with
  | dict row =>
    cases hFound : essentials (stripForbiddenFields row) with
    | none =>
      refine .inl ⟨?_, ?_⟩
      · rw [essentialRow, hFound]
        rfl
      · rw [parseDisclosureItem, hFound]
    | some found =>
      have hRow : essentialRow (.dict row) = some (stripForbiddenFields row, found.1) := by
        rw [essentialRow, hFound]
        rfl
      rw [readable, titled, parseDisclosureItem, hRow, hFound]
      simp only [Option.all_some, Option.isSome_some, decide_eq_true_eq]
      right
      generalize field "summary" (stripForbiddenFields row) = raw
      cases raw with
      | null =>
        exact .inr ⟨rfl, trivial, _, rfl, fun text hNone => absurd hNone (Option.not_mem_none text),
          Iff.rfl⟩
      | str value => exact .inr ⟨rfl, trivial, _, rfl, shortSummary_length (.str value) rfl, Iff.rfl⟩
      | _ => exact .inl ⟨rfl, rfl⟩
  | _ => exact .inl ⟨rfl, rfl⟩

theorem parseDisclosureItem_eq_ok {item : Option DisclosureItemDTO} :
    parseDisclosureItem row = .ok item ↔ readable row = true ∧ item = item? row := by
  obtain ⟨hNone, hRow⟩ | ⟨hUnread, hRow⟩ | ⟨hRead, -, found, hRow, -⟩ := parseDisclosureItem_cases row
  · rw [item?, readable, hNone, hRow]
    exact ⟨fun h => ⟨rfl, (Except.ok.inj h).symm⟩, fun h => congrArg Except.ok h.2.symm⟩
  · rw [hUnread, hRow]
    exact iff_of_false (fun h => nomatch h) fun h => nomatch h.1
  · rw [item?, hRead, hRow]
    exact ⟨fun h => ⟨rfl, (Except.ok.inj h).symm⟩, fun h => congrArg Except.ok h.2.symm⟩

theorem parseDisclosures_eq_ok (hRows : payloadRows payload = .ok rows) {items : List DisclosureItemDTO} :
    parseDisclosures payload = .ok items ↔
      (∀ row ∈ rows, readable row = true) ∧ items = rows.filterMap item? := by
  rw [parseDisclosures, hRows]
  change (rows.mapM parseDisclosureItem >>= fun parsed => pure parsed.reduceOption) = _ ↔ _
  rw [except_bind_eq_ok]
  constructor
  · rintro ⟨parsed, hParsed, hItems⟩
    obtain ⟨hReadable, rfl⟩ := (mapM_eq_ok_map fun _ _ => parseDisclosureItem_eq_ok).mp hParsed
    refine ⟨hReadable, ?_⟩
    rw [← Except.ok.inj hItems, List.reduceOption, List.filterMap_map, Function.id_comp]
  · rintro ⟨hReadable, rfl⟩
    refine ⟨_, (mapM_eq_ok_map fun _ _ => parseDisclosureItem_eq_ok).mpr ⟨hReadable, rfl⟩, ?_⟩
    rw [List.reduceOption, List.filterMap_map, Function.id_comp]
    rfl

/-- The rows raise nothing but the exception that is not handled. -/
theorem mapM_parseDisclosureItem_ne (rows : List Json) (message : String) :
    rows.mapM parseDisclosureItem ≠ .error (.dartParseError message) := by
  induction rows with
  | nil => exact fun h => nomatch h
  | cons row rows ih =>
    intro h
    rw [List.mapM_cons] at h
    cases hRow : parseDisclosureItem row with
    | error raised =>
      rw [hRow] at h
      cases h
      obtain ⟨-, hOk⟩ | ⟨-, hRaised⟩ | ⟨-, -, _, hOk, -⟩ := parseDisclosureItem_cases row
      · exact nomatch hRow.symm.trans hOk
      · exact nomatch hRow.symm.trans hRaised
      · exact nomatch hRow.symm.trans hOk
    | ok item =>
      rw [hRow] at h
      cases hRest : rows.mapM parseDisclosureItem with
      | error raised =>
        rw [hRest] at h
        cases h
        exact ih hRest
      | ok items =>
        rw [hRest] at h
        cases h

theorem parseDisclosures_ne_parseError (hRows : payloadRows payload = .ok rows) (message : String) :
    parseDisclosures payload ≠ .error (.dartParseError message) := by
  rw [parseDisclosures, hRows]
  intro h
  change (rows.mapM parseDisclosureItem >>= fun parsed => pure parsed.reduceOption) = _ at h
  cases hParsed : rows.mapM parseDisclosureItem with
  | error raised =>
    rw [hParsed] at h
    cases h
    exact mapM_parseDisclosureItem_ne rows message hParsed
  | ok parsed =>
    rw [hParsed] at h
    cases h

theorem payloadRows_error {raised : DartError} (h : payloadRows payload = .error raised) :
    ∃ message, raised = .dartParseError message := by
  rw [payloadRows] at h
  split at h
  · exact nomatch h
  · cases h
    exact ⟨_, rfl⟩

theorem item?_eq_some {item : DisclosureItemDTO} (h : item? row = some item) :
    parseDisclosureItem row = .ok (some item) := by
  rw [item?] at h
  cases hRow : parseDisclosureItem row with
  | error raised =>
    rw [hRow] at h
    exact nomatch h
  | ok found =>
    rw [hRow] at h
    exact congrArg Except.ok h

theorem item?_of_not_wellFormed (hReadable : readable row = true) (hTitled : titled row = true)
    (h : wellFormed row = false) : item? row = none := by
  obtain ⟨-, hRow⟩ | ⟨hUnread, -⟩ | ⟨-, hEssential, -⟩ := parseDisclosureItem_cases row
  · rw [item?, hRow]
    rfl
  · exact nomatch hUnread.symm.trans hReadable
  · rw [wellFormed, hEssential, hReadable, hTitled] at h
    exact nomatch h

/-- Rows that are not well-formed leave no trace. -/
theorem filterMap_item?_eq (hRows : ∀ row ∈ rows, readable row = true ∧ titled row = true) :
    rows.filterMap item? = (rows.filter wellFormed).filterMap item? := by
  rw [List.filterMap_filter]
  apply List.filterMap_congr
  intro row hRow
  cases hWell : wellFormed row with
  | true => rfl
  | false => exact item?_of_not_wellFormed (hRows row hRow).1 (hRows row hRow).2 hWell

/-- A payload whose every row with the essential fields has a summary that is no number, truth
value, list or object, and a title that is not blank. -/
def Harmless (payload : JsonObject) : Prop :=
  ∀ row ∈ statementRows payload, readable row = true ∧ titled row = true

theorem statementRows_eq (hRows : payloadRows payload = .ok rows) : statementRows payload = rows := by
  rw [statementRows, hRows]
  rfl

theorem Harmless.parseDisclosures_eq (h : Harmless payload) (hRows : payloadRows payload = .ok rows) :
    parseDisclosures payload = .ok ((rows.filter wellFormed).filterMap item?) := by
  rw [Harmless, statementRows_eq hRows] at h
  rw [parseDisclosures_eq_ok hRows, filterMap_item?_eq h]
  exact ⟨fun row hRow => (h row hRow).1, rfl⟩

theorem Harmless.total (h : Harmless payload) : (∃ items, parseDisclosures payload = .ok items) ∨
    ∃ message, parseDisclosures payload = .error (.dartParseError message) := by
  cases hRows : payloadRows payload with
  | error raised =>
    obtain ⟨message, rfl⟩ := payloadRows_error hRows
    refine .inr ⟨message, ?_⟩
    rw [parseDisclosures, hRows]
    rfl
  | ok rows => exact .inl ⟨_, h.parseDisclosures_eq hRows⟩

theorem Harmless.bounded (h : Harmless payload) {items : List DisclosureItemDTO}
    (hItems : parseDisclosures payload = .ok items) :
    ∀ item ∈ items, item.title ≠ [] ∧ ∀ summary ∈ item.summary, summary.length ≤ 500 := by
  obtain ⟨rows, hRows, -⟩ := except_bind_eq_ok.mp hItems
  rw [parseDisclosures_eq_ok hRows] at hItems
  rw [Harmless, statementRows_eq hRows] at h
  intro item hItem
  obtain ⟨row, hRow, hFound⟩ := List.mem_filterMap.mp (hItems.2 ▸ hItem)
  obtain ⟨-, hNone⟩ | ⟨-, hRaised⟩ | ⟨-, -, found, hOk, hSummary, hTitle⟩ := parseDisclosureItem_cases row
  · exact nomatch hNone.symm.trans (item?_eq_some hFound)
  · exact nomatch hRaised.symm.trans (item?_eq_some hFound)
  · obtain rfl := Option.some.inj (Except.ok.inj (hOk.symm.trans (item?_eq_some hFound)))
    exact ⟨hTitle.mp (h row hRow).2, hSummary⟩

theorem harmless_of_robust (hTotal : (∃ items, parseDisclosures payload = .ok items) ∨
      ∃ message, parseDisclosures payload = .error (.dartParseError message))
    (hBounded : ∀ items, parseDisclosures payload = .ok items →
      ∀ item ∈ items, item.title ≠ [] ∧ ∀ summary ∈ item.summary, summary.length ≤ 500) :
    Harmless payload := by
  cases hRows : payloadRows payload with
  | error raised =>
    rw [Harmless, statementRows, hRows]
    exact fun row hRow => absurd hRow List.not_mem_nil
  | ok rows =>
    obtain ⟨items, hItems⟩ | ⟨message, hRaised⟩ := hTotal
    · obtain ⟨hReadable, hMap⟩ := (parseDisclosures_eq_ok hRows).mp hItems
      rw [Harmless, statementRows_eq hRows]
      intro row hRow
      refine ⟨hReadable row hRow, ?_⟩
      obtain ⟨hNone, -⟩ | ⟨hUnread, -⟩ | ⟨-, -, item, hOk, -, hTitle⟩ := parseDisclosureItem_cases row
      · rw [titled, hNone]
        rfl
      · exact nomatch hUnread.symm.trans (hReadable row hRow)
      · have hItem : item? row = some item := by
          rw [item?, hOk]
          rfl
        have hMem : item ∈ items := hMap ▸ List.mem_filterMap.mpr ⟨row, hRow, hItem⟩
        exact hTitle.mpr (hBounded items hItems item hMem).1
    · exact absurd hRaised (parseDisclosures_ne_parseError hRows message)

/-- The disclosure parser is robust exactly on harmless payloads. -/
theorem robust_iff (payload payload' : JsonObject) :
    Robust payload payload' ↔ Harmless payload ∧ Harmless payload' := by
  constructor
  · intro h
    exact ⟨harmless_of_robust (h.total _ List.mem_cons_self) (h.bounded _ List.mem_cons_self),
      harmless_of_robust (h.total _ (List.mem_cons_of_mem _ List.mem_cons_self))
        (h.bounded _ (List.mem_cons_of_mem _ List.mem_cons_self))⟩
  · rintro ⟨hFirst, hSecond⟩
    refine ⟨?_, ?_, ?_⟩
    · intro p hp
      rcases List.mem_pair.mp hp with rfl | rfl
      · exact hFirst.total
      · exact hSecond.total
    · intro p hp items hItems
      rcases List.mem_pair.mp hp with rfl | rfl
      · exact hFirst.bounded hItems
      · exact hSecond.bounded hItems
    · intro rows rows' hRows hRows' hSame
      rw [hFirst.parseDisclosures_eq hRows, hSecond.parseDisclosures_eq hRows', hSame]

/-- A sound disclosure whose summary is a number. -/
def numberSummary : JsonObject :=
  [("list", .list [.dict [("report_nm", .str "공시"), ("rcept_no", .str "1"),
    ("rcept_dt", .str "20260504"), ("summary", .int 7)]])]

theorem not_robust_numberSummary : ¬ Robust numberSummary [] := by
  intro h
  have hRaised : parseDisclosures numberSummary = .error .attributeError := by rfl
  obtain ⟨items, hItems⟩ | ⟨message, hMessage⟩ := h.total numberSummary List.mem_cons_self
  · exact nomatch hRaised.symm.trans hItems
  · exact nomatch hRaised.symm.trans hMessage

end Disclosures

end StockAiPlatform.Dart
