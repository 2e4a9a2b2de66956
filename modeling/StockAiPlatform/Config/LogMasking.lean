import StockAiPlatform.Python.Redaction

/-! # Secrets and the log

The filters on the handlers and on the `httpx` logger. What a record says after
them does not depend on the value of a sensitive key.
-/

namespace StockAiPlatform
set_option autoImplicit false

open Python

namespace LogMasking

def queryKeys : List Text :=
  ["crtfc_key", "api_key", "apikey", "access_token", "token", "secret", "password"].map String.toList

def endsValue (c : Char) : Bool := c == '&' || isSpace c || c == '"' || c == '\''

def enders : Text :=
  '&' :: '"' :: '\'' :: ([0x9, 0xa, 0xb, 0xc, 0xd, 0x1c, 0x1d, 0x1e, 0x1f, 0x20, 0x85, 0xa0, 0x1680,
    0x2000, 0x2001, 0x2002, 0x2003, 0x2004, 0x2005, 0x2006, 0x2007, 0x2008, 0x2009, 0x200a, 0x2028,
    0x2029, 0x202f, 0x205f, 0x3000].map Char.ofNat)

theorem mem_enders {c : Char} (h : endsValue c = true) : c ∈ enders := by
  simp only [endsValue, Bool.or_eq_true, beq_iff_eq] at h
  rcases h with ((rfl | hSpace) | rfl) | rfl
  · decide
  · have hCode := List.mem_map_of_mem (f := Char.ofNat) (List.mem_of_elem_eq_true hSpace)
    rw [Char.ofNat_toNat] at hCode
    exact List.mem_cons_of_mem _ (List.mem_cons_of_mem _ (List.mem_cons_of_mem _ hCode))
  · decide
  · decide

/-- No letter of a key ends a value. -/
theorem endsValue_letter : ∀ key ∈ queryKeys, ∀ p ∈ key, ∀ c, sameIgnoringCase p c = true →
    endsValue c = false := by
  have hEnders : (queryKeys.all fun key => key.all fun p =>
      enders.all fun c => !sameIgnoringCase p c) = true := by decide +kernel
  intro key hKey p hp c hSame
  by_contra hEnds
  have hLetters := List.all_eq_true.mp (List.all_eq_true.mp hEnders key hKey) p hp
  have hOther := eq_false_of_all_not hLetters c (mem_enders ((Bool.not_eq_false _).mp hEnds))
  rw [hSame] at hOther
  cases hOther

theorem separator_letter : ∀ key ∈ queryKeys, ∀ p ∈ key, sameIgnoringCase p '=' = false := by
  have hKeys : (queryKeys.all fun key => key.all fun p => !sameIgnoringCase p '=') = true := by decide
  intro key hKey
  exact eq_false_of_all_not (List.all_eq_true.mp hKeys key hKey)

theorem endsValue_mask : ∀ c ∈ "***".toList, endsValue c = false := eq_false_of_all_not (by decide)

/-- `_SENSITIVE_QS_RE` and its replacement `\g<key>=***`. -/
def sensitiveQuery : Redactor where
  keys := queryKeys
  sep := '='
  stop := endsValue
  mask := "***".toList
  sep_key := separator_letter
  stop_key := endsValue_letter
  stop_sep := by decide
  mask_ne_nil := by decide
  stop_mask := endsValue_mask
  sep_mask := by decide

structure LogRecord (Args : Type) where
  msg : Text
  args : Option Args

variable {Args : Type} (percent : Text → Args → Option Text)

/-- `record.getMessage()`. `percent` is `msg % args`, `none` where that raises. -/
def getMessage (record : LogRecord Args) : Option Text :=
  match record.args with
  | none => some record.msg
  | some args => percent record.msg args

/-- `SensitiveQueryStringFilter.filter`. -/
def filterQuery (record : LogRecord Args) : LogRecord Args :=
  match getMessage percent record with
  | none => record
  | some msg =>
    if !msg.contains '=' then record
    else
      let masked := sensitiveQuery.redact msg
      if masked ≠ msg then ⟨masked, none⟩ else record

/-- Past its filters a record says the redacted message; the way around the pattern agrees with it. -/
theorem getMessage_filterQuery (record : LogRecord Args) :
    getMessage percent (filterQuery percent record) =
      (getMessage percent record).map sensitiveQuery.redact := by
  rw [filterQuery]
  cases hMessage : getMessage percent record with
  | none => exact hMessage
  | some msg =>
    simp only
    split
    next hPlain =>
      have hNone : '=' ∉ msg := by simpa using hPlain
      have hSame : sensitiveQuery.redact msg = msg := Redactor.redact_of_sep_notMem hNone
      rw [hMessage, Option.map_some, hSame]
    next =>
      split
      next => rfl
      next hSame =>
        rw [not_not] at hSame
        rw [hMessage, Option.map_some, hSame]

structure Logger where
  installed : Bool
  filters : Nat

/-- `install_sensitive_qs_filter`, which every transport calls that is built. -/
def install (logger : Logger) : Logger :=
  if logger.installed then logger else ⟨true, logger.filters + 1⟩

def emitted (logger : Logger) (record : LogRecord Args) : Option Text :=
  getMessage percent ((filterQuery percent)^[logger.filters] record)

theorem installed_install (logger : Logger) (h : logger.installed = true) (n : Nat) :
    install^[n] logger = logger := by
  induction n with
  | zero => rfl
  | succ n ih => rw [Function.iterate_succ_apply, install, if_pos h, ih]

theorem iterate_install (n : Nat) : install^[n + 1] ⟨false, 0⟩ = ⟨true, 1⟩ := by
  rw [Function.iterate_succ_apply]
  exact installed_install ⟨true, 1⟩ rfl n

theorem emitted_eq {logger : Logger} (h : 0 < logger.filters) (record : LogRecord Args) :
    emitted percent logger record = (getMessage percent record).map sensitiveQuery.redact := by
  rw [emitted]
  obtain ⟨n, hn⟩ := Nat.exists_eq_succ_of_ne_zero h.ne'
  rw [hn]
  clear hn h
  induction n generalizing record with
  | zero => exact getMessage_filterQuery percent record
  | succ n ih =>
    rw [Function.iterate_succ_apply, ih, getMessage_filterQuery, Option.map_map]
    cases getMessage percent record with
    | none => rfl
    | some msg => exact congrArg some (Redactor.redact_redact msg)

variable {percent}

/-- Two records that differ in the value of a sensitive key come out the same, after any number of
installations. -/
theorem emitted_congr {record other : LogRecord Args} {u k v v' rest : Text}
    (hMessage : getMessage percent record = some (u ++ (k ++ '=' :: v) ++ rest))
    (hOther : getMessage percent other = some (u ++ (k ++ '=' :: v') ++ rest))
    (hKey : sensitiveQuery.isKey k = true)
    (hv : v ≠ [] ∧ ∀ c ∈ v, endsValue c = false) (hv' : v' ≠ [] ∧ ∀ c ∈ v', endsValue c = false)
    (hRest : ∀ c ∈ rest.head?, endsValue c = true) (installations : Nat) :
    emitted percent (install^[installations + 1] ⟨false, 0⟩) record =
      emitted percent (install^[installations + 1] ⟨false, 0⟩) other := by
  rw [iterate_install, emitted_eq percent Nat.one_pos, emitted_eq percent Nat.one_pos, hMessage, hOther]
  exact congrArg some (Redactor.redact_congr hKey hv.2 hv.1 hv'.2 hv'.1 hRest)

def sampleRecord (key : String) : LogRecord Text where
  msg := "HTTP Request: GET %s \"HTTP/1.1 200 OK\"".toList
  args := some ("https://opendart.fss.or.kr/api/list.json?CRTFC_KEY=" ++ key ++ "&page_no=1").toList

def samplePercent (msg args : Text) : Option Text :=
  match msg.splitOn '%' with
  | [before, 's' :: after] => some (before ++ args ++ after)
  | _ => none

def sampleMessage (key : String) : Text :=
  "HTTP Request: GET https://opendart.fss.or.kr/api/list.json?".toList ++
    ("CRTFC_KEY".toList ++ '=' :: key.toList) ++ "&page_no=1 \"HTTP/1.1 200 OK\"".toList

theorem emitted_congr_sample :
    emitted samplePercent (install^[2 + 1] ⟨false, 0⟩) (sampleRecord "d41d8cd9") =
      emitted samplePercent (install^[2 + 1] ⟨false, 0⟩) (sampleRecord "hunter2") := by
  have hMessage : getMessage samplePercent (sampleRecord "d41d8cd9") =
      some (sampleMessage "d41d8cd9") := by decide +kernel
  have hOther : getMessage samplePercent (sampleRecord "hunter2") =
      some (sampleMessage "hunter2") := by decide +kernel
  have hRest : ∀ c ∈ some '&', endsValue c = true := by
    rintro c ⟨⟩
    decide
  exact emitted_congr hMessage hOther (by decide) ⟨by decide, eq_false_of_all_not (by decide)⟩
    ⟨by decide, eq_false_of_all_not (by decide)⟩ hRest 2

/-- What comes out is the message with values replaced and no value left. -/
theorem emitted_masks {logger : Logger} (h : 0 < logger.filters) (record : LogRecord Args) {msg : Text}
    (hMessage : getMessage percent record = some msg) :
    ∃ out, emitted percent logger record = some out ∧ sensitiveQuery.Masks msg out ∧
      ∀ u k v rest, out = u ++ (k ++ '=' :: v) ++ rest → sensitiveQuery.isKey k = true →
        (v ≠ [] ∧ ∀ c ∈ v, endsValue c = false) → (∀ c ∈ rest.head?, endsValue c = true) →
        v = "***".toList := by
  refine ⟨sensitiveQuery.redact msg, ?_, Redactor.masks_redact msg, ?_⟩
  · rw [emitted_eq percent h, hMessage, Option.map_some]
  · intro u k v rest hOut hKey hv hRest
    exact Redactor.value_of_redact hOut hKey hv.2 hv.1 hRest

theorem emitted_masks_sample : ∃ out,
    emitted samplePercent ⟨true, 1⟩ (sampleRecord "d41d8cd9") = some out ∧
      sensitiveQuery.Masks (sampleMessage "d41d8cd9") out ∧
      ∀ u k v rest, out = u ++ (k ++ '=' :: v) ++ rest → sensitiveQuery.isKey k = true →
        (v ≠ [] ∧ ∀ c ∈ v, endsValue c = false) → (∀ c ∈ rest.head?, endsValue c = true) →
        v = "***".toList := by
  have hMessage : getMessage samplePercent (sampleRecord "d41d8cd9") =
      some (sampleMessage "d41d8cd9") := by decide +kernel
  exact emitted_masks (by decide) (sampleRecord "d41d8cd9") hMessage

end LogMasking

end StockAiPlatform
