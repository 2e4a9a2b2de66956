import StockAiPlatform.Python.Text

/-! # Decoded JSON and the conversions `str()` and `int()`

A response body after `json()`. Floats keep their Python `repr`, which is all
that the broker code ever looks at.
-/

namespace StockAiPlatform.Python
set_option autoImplicit false

/-- The `repr` of a float has a point or an exponent, or is `inf` or `nan`. -/
def isFloatRepr (text : String) : Bool := text.toList.any fun c => c = '.' || c = 'e' || c = 'n'

abbrev FloatRepr := { text : String // isFloatRepr text = true }

inductive Json where
  | null
  | bool (value : Bool)
  | int (value : Int)
  | float (repr : FloatRepr)
  | str (value : String)
  | list (items : List Json)
  | dict (entries : List (String × Json))

namespace Json

/-- Python truth: `value or default` keeps a truthy value only. -/
def truthy : Json → Bool
  | .null => false
  | .bool value => value
  | .int value => value != 0
  | .float repr => repr.val != "0.0" && repr.val != "-0.0"
  | .str value => value != ""
  | .list items => !items.isEmpty
  | .dict entries => !entries.isEmpty

/-- How `repr` writes a character between the quotes `q`. -/
def escapeChar (q c : Char) : Text :=
  if c = q || c = '\\' then ['\\', c]
  else if c = '\n' then ['\\', 'n']
  else if c = '\r' then ['\\', 'r']
  else if c = '\t' then ['\\', 't']
  else [c]

/-- `repr` of a string: single quotes unless only they occur inside. -/
def quote (value : String) : String :=
  let q := if value.toList.contains '\'' && !value.toList.contains '"' then '"' else '\''
  String.ofList (q :: value.toList.flatMap (escapeChar q) ++ [q])

mutual
def repr : Json → String
  | .null => "None"
  | .bool value => if value then "True" else "False"
  | .int value => toString value
  | .float text => text.val
  | .str value => quote value
  | .list items => "[" ++ reprItems items ++ "]"
  | .dict entries => "\x7b" ++ reprEntries entries ++ "\x7d"

def reprItems : List Json → String
  | [] => ""
  | [item] => item.repr
  | item :: next :: items => item.repr ++ ", " ++ reprItems (next :: items)

def reprEntries : List (String × Json) → String
  | [] => ""
  | [(key, value)] => quote key ++ ": " ++ value.repr
  | (key, value) :: next :: entries =>
    quote key ++ ": " ++ value.repr ++ ", " ++ reprEntries (next :: entries)
end

/-- `str(value)`. -/
def text : Json → String
  | .str value => value
  | value => value.repr

def get? (key : String) (entries : List (String × Json)) : Option Json :=
  (entries.find? fun entry => entry.1 == key).map Prod.snd

/-- `str(entries.get(key) or default)`. -/
def textOr (default key : String) (entries : List (String × Json)) : String :=
  match get? key entries with
  | some value => if value.truthy then value.text else default
  | none => default

end Json

/-- What `json.loads` makes of a body: an escape may leave a surrogate alone in a string. -/
inductive WireJson where
  | null
  | bool (value : Bool)
  | int (value : Int)
  | float (repr : FloatRepr)
  | str (value : Str)
  | list (items : List WireJson)
  | dict (entries : List (Str × WireJson))

namespace WireJson

def truthy : WireJson → Bool
  | .null => false
  | .bool value => value
  | .int value => value != 0
  | .float repr => repr.val != "0.0" && repr.val != "-0.0"
  | .str value => !value.isEmpty
  | .list items => !items.isEmpty
  | .dict entries => !entries.isEmpty

/-- A surrogate is written as its escape. -/
def escapeCodePoint (q : Char) : CodePoint → Text
  | .scalar c => Json.escapeChar q c
  | .surrogate offset => ['\\', 'u'] ++ Nat.toDigits 16 (0xd800 + offset)

def quote (value : Str) : String :=
  let q := if value.contains (.scalar '\'') && !value.contains (.scalar '"') then '"' else '\''
  String.ofList (q :: value.flatMap (escapeCodePoint q) ++ [q])

mutual
def repr : WireJson → String
  | .null => "None"
  | .bool value => if value then "True" else "False"
  | .int value => toString value
  | .float text => text.val
  | .str value => quote value
  | .list items => "[" ++ reprItems items ++ "]"
  | .dict entries => "\x7b" ++ reprEntries entries ++ "\x7d"

def reprItems : List WireJson → String
  | [] => ""
  | [item] => item.repr
  | item :: next :: items => item.repr ++ ", " ++ reprItems (next :: items)

def reprEntries : List (Str × WireJson) → String
  | [] => ""
  | [(key, value)] => quote key ++ ": " ++ value.repr
  | (key, value) :: next :: entries =>
    quote key ++ ": " ++ value.repr ++ ", " ++ reprEntries (next :: entries)
end

/-- `str(value)`. -/
def text : WireJson → Str
  | .str value => value
  | value => value.repr

def get? (key : String) (entries : List (Str × WireJson)) : Option WireJson :=
  (entries.find? fun entry => entry.1 == (key : Str)).map Prod.snd

/-- `str(entries.get(key) or default)`. -/
def textOr (default key : String) (entries : List (Str × WireJson)) : Str :=
  match get? key entries with
  | some value => if value.truthy then value.text else default
  | none => default

end WireJson

/-- A value of a `dict[str, Any]`: a JSON value, a container, or an object of another type. -/
inductive PyValue where
  | json (value : Json)
  | list (items : List PyValue)
  | dict (entries : List (String × PyValue))
  | object (typeName : String)

namespace PyValue

mutual
/-- `json.dumps`, or the type of the object it raises its `TypeError` about. -/
def dumps : PyValue → Except String Json
  | .json value => .ok value
  | .list items => do return .list (← dumpsItems items)
  | .dict entries => do return .dict (← dumpsEntries entries)
  | .object typeName => .error typeName

def dumpsItems : List PyValue → Except String (List Json)
  | [] => .ok []
  | item :: items => do
    let value ← dumps item
    let values ← dumpsItems items
    return value :: values

def dumpsEntries : List (String × PyValue) → Except String (List (String × Json))
  | [] => .ok []
  | (key, value) :: entries => do
    let dumped ← dumps value
    let rest ← dumpsEntries entries
    return (key, dumped) :: rest
end

/-- A column that holds JSON or `NULL`. -/
def dumpsSummary : Option (List (String × PyValue)) → Except String (Option (List (String × Json)))
  | none => .ok none
  | some entries => (dumpsEntries entries).map some

def IsJson (summary : Option (List (String × PyValue))) : Prop :=
  ∃ dumped, dumpsSummary summary = .ok dumped

def ofJson (entries : List (String × Json)) : List (String × PyValue) :=
  entries.map fun entry => (entry.1, .json entry.2)

def get? (key : String) (entries : List (String × PyValue)) : Option PyValue :=
  (entries.find? fun entry => entry.1 == key).map Prod.snd

theorem get?_ofJson (key : String) (entries : List (String × Json)) :
    get? key (ofJson entries) = (Json.get? key entries).map .json := by
  rw [get?, ofJson, List.find?_map, Option.map_map, Json.get?, Option.map_map]
  rfl

theorem dumpsEntries_ofJson (entries : List (String × Json)) :
    dumpsEntries (ofJson entries) = .ok entries := by
  induction entries with
  | nil => rfl
  | cons entry entries ih =>
    have hRest : dumpsEntries (entries.map fun entry => (entry.1, .json entry.2)) = .ok entries := ih
    rw [ofJson, List.map_cons, dumpsEntries, hRest]
    rfl

end PyValue

/-- First code points of the runs of ten decimal digits (Unicode category Nd). -/
def digitRuns : List Nat :=
  [0x30, 0x660, 0x6f0, 0x7c0, 0x966, 0x9e6, 0xa66, 0xae6, 0xb66, 0xbe6, 0xc66, 0xce6, 0xd66, 0xde6,
    0xe50, 0xed0, 0xf20, 0x1040, 0x1090, 0x17e0, 0x1810, 0x1946, 0x19d0, 0x1a80, 0x1a90, 0x1b50,
    0x1bb0, 0x1c40, 0x1c50, 0xa620, 0xa8d0, 0xa900, 0xa9d0, 0xa9f0, 0xaa50, 0xabf0, 0xff10,
    0x104a0, 0x10d30, 0x11066, 0x110f0, 0x11136, 0x111d0, 0x112f0, 0x11450, 0x114d0, 0x11650,
    0x116c0, 0x11730, 0x118e0, 0x11950, 0x11c50, 0x11d50, 0x11da0, 0x16a60, 0x16ac0, 0x16b50,
    0x1d7ce, 0x1d7d8, 0x1d7e2, 0x1d7ec, 0x1d7f6, 0x1e140, 0x1e2f0, 0x1e950, 0x1fbf0]

def digitValue? (c : Char) : Option Nat :=
  digitRuns.findSome? fun start =>
    if start ≤ c.toNat ∧ c.toNat < start + 10 then some (c.toNat - start) else none

/-- Digits with single underscores between them; `afterDigit` says what came last. -/
def digits? : Bool → Text → Option (List Nat)
  | afterDigit, [] => if afterDigit then some [] else none
  | afterDigit, c :: t =>
    if c = '_' then (if afterDigit then digits? false t else none)
    else match digitValue? c with
      | some d => (digits? true t).map (d :: ·)
      | none => none

/-- `int(text)`; `none` is its `ValueError`, also raised past 4300 digits. -/
def int? (t : Text) : Option Int :=
  let parse (body : Text) : Option Int :=
    match digits? false body with
    | some ds => if ds.length ≤ 4300 then some (ds.foldl (fun n d => 10 * n + d) 0 : Nat) else none
    | none => none
  match strip t with
  | '-' :: body => (parse body).map (- ·)
  | '+' :: body => parse body
  | body => parse body

example : int? " -1_200 ".toList = some (-1200) := by decide
example : int? "10.0".toList = none := by decide

/-- `str(n)`; `none` is the `ValueError` past 4300 digits. -/
def str? (n : Int) : Option Text :=
  if (Nat.toDigits 10 n.natAbs).length ≤ 4300 then some (toString n).toList else none

section Decimal

theorem toNat_of_isDigit {c : Char} (h : c.isDigit = true) : 0x30 ≤ c.toNat ∧ c.toNat ≤ 0x39 := by
  rw [Char.isDigit, Bool.and_eq_true, decide_eq_true_iff, decide_eq_true_iff] at h
  exact ⟨UInt32.le_iff_toNat_le.mp h.1, UInt32.le_iff_toNat_le.mp h.2⟩

theorem digitValue?_of_isDigit {c : Char} (h : c.isDigit = true) :
    digitValue? c = some (c.toNat - '0'.toNat) := by
  have hBounds := toNat_of_isDigit h
  have hRange : 0x30 ≤ c.toNat ∧ c.toNat < 0x30 + 10 := by omega
  rw [digitValue?, digitRuns, List.findSome?_cons, if_pos hRange]
  rfl

theorem digits?_of_isDigit {t : Text} (h : ∀ c ∈ t, c.isDigit = true) {afterDigit : Bool}
    (hStart : t ≠ [] ∨ afterDigit = true) :
    digits? afterDigit t = some (t.map fun c => c.toNat - '0'.toNat) := by
  induction t generalizing afterDigit with
  | nil => simp [digits?, hStart.resolve_left (by simp)]
  | cons c t ih =>
    have hDigit := h c List.mem_cons_self
    have hUnderscore : c ≠ '_' := by
      rintro rfl
      cases hDigit
    have hRest := ih (fun d hd => h d (List.mem_cons_of_mem c hd)) (.inr rfl)
    rw [digits?, if_neg hUnderscore, digitValue?_of_isDigit hDigit]
    simp only [hRest, Option.map_some, List.map_cons]

theorem isSpace_of_isDigit {c : Char} (h : c.isDigit = true) : isSpace c = false := by
  have hDigits : ∀ n ≤ 0x39, 0x30 ≤ n → isSpace (Char.ofNat n) = false := by decide
  have hBounds := toNat_of_isDigit h
  have hSpace := hDigits c.toNat hBounds.2 hBounds.1
  rwa [Char.ofNat_toNat] at hSpace

theorem strip_of_isSpace {t : Text} (h : ∀ c ∈ t, isSpace c = false) : strip t = t := by
  have hHead : t.dropWhile isSpace = t :=
    dropWhile_eq_self fun c hc => h c (List.mem_of_mem_head? hc)
  have hLast : t.reverse.dropWhile isSpace = t.reverse :=
    dropWhile_eq_self fun c hc => h c (List.mem_reverse.mp (List.mem_of_mem_head? hc))
  rw [strip, stripBy, hHead, hLast, List.reverse_reverse]

theorem int?_of_str? {n : Int} {t : Text} (h : str? n = some t) : int? t = some n := by
  rw [str?] at h
  split at h
  case isFalse => cases h
  case isTrue hLength =>
    cases h
    have hDigit : ∀ c ∈ Nat.toDigits 10 n.natAbs, c.isDigit = true := fun c hc =>
      Nat.isDigit_of_mem_toDigits (by decide) (by decide) hc
    have hSpace : ∀ c ∈ Nat.toDigits 10 n.natAbs, isSpace c = false := fun c hc =>
      isSpace_of_isDigit (hDigit c hc)
    have hRead : digits? false (Nat.toDigits 10 n.natAbs) = _ :=
      digits?_of_isDigit hDigit (.inl Nat.toDigits_ne_nil)
    have hValue := Nat.ofDigitChars_ten_toDigits (n := n.natAbs)
    rw [Nat.ofDigitChars_eq_foldl] at hValue
    cases n with
    | ofNat k =>
      have hText : (toString (Int.ofNat k)).toList = Nat.toDigits 10 k := Nat.toList_repr
      rw [hText]
      simp only [Int.ofNat_eq_natCast, Int.natAbs_natCast] at *
      rw [int?, strip_of_isSpace hSpace]
      split
      next hMinus => cases hDigit '-' (hMinus ▸ List.mem_cons_self)
      next hPlus => cases hDigit '+' (hPlus ▸ List.mem_cons_self)
      next => simp only [hRead, List.length_map, if_pos hLength, List.foldl_map, hValue]
    | negSucc k =>
      have hText : (toString (Int.negSucc k)).toList = '-' :: Nat.toDigits 10 (k + 1) := by
        rw [show toString (Int.negSucc k) = "-" ++ Nat.repr (k + 1) from rfl, String.toList_append,
          Nat.toList_repr]
        rfl
      rw [hText]
      simp only [Int.natAbs_negSucc] at *
      have hSigned : ∀ c ∈ '-' :: Nat.toDigits 10 (k + 1), isSpace c = false :=
        List.forall_mem_cons.mpr ⟨by decide, hSpace⟩
      rw [int?, strip_of_isSpace hSigned]
      simp only [hRead, List.length_map, if_pos hLength, List.foldl_map, hValue]
      rfl

theorem mem_str? {n : Int} {t : Text} (h : str? n = some t) {c : Char} (hc : c ∈ t) :
    c = '-' ∨ c.isDigit = true := by
  rw [str?] at h
  split at h
  case isFalse => cases h
  case isTrue hLength =>
    cases h
    have hDigit : ∀ k, ∀ c ∈ Nat.toDigits 10 k, c.isDigit = true := fun k c hc =>
      Nat.isDigit_of_mem_toDigits (by decide) (by decide) hc
    cases n with
    | ofNat k => exact .inr (hDigit k c (Nat.toList_repr (n := k) ▸ hc))
    | negSucc k =>
      have hText : (toString (Int.negSucc k)).toList = '-' :: Nat.toDigits 10 (k + 1) := by
        rw [show toString (Int.negSucc k) = "-" ++ Nat.repr (k + 1) from rfl, String.toList_append,
          Nat.toList_repr]
        rfl
      rw [hText] at hc
      exact (List.mem_cons.mp hc).imp id fun hRest => hDigit _ c hRest

end Decimal

end StockAiPlatform.Python
