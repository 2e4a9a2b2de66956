import StockAiPlatform.Auth.Security
import StockAiPlatform.Python.Base64
import Mathlib.Data.List.DropRight

/-! # Stored passwords

The hash text `scrypt$<n>$<r>$<p>$<salt>$<derived>` and the operator command that
stores it. A text carries its own costs, so it stays readable when the configured
costs change.
-/

namespace StockAiPlatform
set_option autoImplicit false

open Transaction Python

/-- `hashlib.scrypt` under the fixed `maxmem`. Costs outside its C types are a `TypeError`; no key is
a `ValueError` or an `OverflowError`. -/
structure Scrypt where
  takes : (n r p : Int) → Bool
  derive : (password salt : List UInt8) → (n r p : Int) → (dklen : Nat) → Option (List UInt8)
  length_derive : ∀ password salt n r p dklen, ∀ key ∈ derive password salt n r p dklen,
    key.length = dklen

inductive HashError where
  | typeError
  | valueError (message : String)
  deriving DecidableEq, Repr

/-- The cost parameters of a `PasswordHasher`. -/
structure ScryptCosts where
  n : Int
  r : Int
  p : Int
  deriving DecidableEq

namespace PasswordHash

def scryptPrefix : Text := "scrypt".toList

def derivedKeyBytes : Nat := 32

/-- `_b64encode`, with `rstrip("=")`. -/
def b64encode (bytes : List UInt8) : Text := (Base64.urlsafeB64encode bytes).rdropWhile (· = '=')

/-- `_b64decode`; `raw.encode("ascii")` takes no other code point. -/
def b64decode (raw : Text) : Option (List UInt8) :=
  let padding := 4 - raw.length % 4
  let padded := if padding < 4 then raw ++ List.replicate padding '=' else raw
  if padded.all fun c => c.toNat < 128 then Base64.urlsafeB64decode padded else none

def scryptKey (scrypt : Scrypt) (costs : ScryptCosts) (salt : List UInt8) (dklen : Nat)
    (password : String) : Except HashError (List UInt8) :=
  if scrypt.takes costs.n costs.r costs.p then
    match scrypt.derive password.toUTF8.toList salt costs.n costs.r costs.p dklen with
    | some key => .ok key
    | none => .error (.valueError "scrypt")
  else .error .typeError

def format (n r p salt derived : Text) : Text :=
  scryptPrefix ++ '$' :: n ++ '$' :: r ++ '$' :: p ++ '$' :: salt ++ '$' :: derived

/-- `hash_password`, with the salt that `secrets.token_bytes` gives it. -/
def hashPassword (scrypt : Scrypt) (costs : ScryptCosts) (salt : List UInt8) (password : String) :
    Except HashError String :=
  if password = "" then .error (.valueError "password must not be empty")
  else do
    let derived ← scryptKey scrypt costs salt derivedKeyBytes password
    match str? costs.n, str? costs.r, str? costs.p with
    | some n, some r, some p =>
      .ok (String.ofList (format n r p (b64encode salt) (b64encode derived)))
    | _, _, _ => .error (.valueError "Exceeds the limit (4300 digits) for integer string conversion")

/-- The fields of a hash text. -/
def parse (stored : Text) : Option (ScryptCosts × List UInt8 × List UInt8) :=
  match stored.splitOn '$' with
  | [name, n, r, p, salt, derived] =>
    if name = scryptPrefix then do
      let n ← int? n
      let r ← int? r
      let p ← int? p
      let salt ← b64decode salt
      let expected ← b64decode derived
      some (⟨n, r, p⟩, salt, expected)
    else none
  | _ => none

/-- `verify_password`. A hash text that is malformed verifies nothing; only the `TypeError` of scrypt
gets out. -/
def verifyPassword (scrypt : Scrypt) (password stored : String) : Except HashError Bool :=
  if stored = "" then .ok false
  else match parse stored.toList with
    | none => .ok false
    | some (costs, salt, expected) =>
      match scryptKey scrypt costs salt expected.length password with
      | .ok derived => .ok (derived == expected)
      | .error .typeError => .error .typeError
      | .error (.valueError _) => .ok false

/-! ## The text round trip -/

theorem pad_notMem_digits (bytes : List UInt8) : '=' ∉ Base64.digits bytes :=
  fun h => Base64.pad_notMem (Base64.mem_alphabet_of_mem_digits h)

theorem b64encode_eq (bytes : List UInt8) : b64encode bytes = Base64.digits bytes := by
  rw [b64encode, Base64.urlsafeB64encode, Base64.padding, List.rdropWhile, List.reverse_append,
    List.reverse_replicate, List.dropWhile_append_of_pos]
  · rw [dropWhile_eq_self, List.reverse_reverse]
    intro c hc
    have hMem := List.mem_reverse.mp (List.mem_of_mem_head? hc)
    exact decide_eq_false fun hPad => pad_notMem_digits bytes (hPad ▸ hMem)
  · intro c hc
    exact decide_eq_true (List.eq_of_mem_replicate hc)

theorem ascii_of_mem_alphabet : ∀ c ∈ Base64.alphabet, c.toNat < 128 := by
  have hAll : (Base64.alphabet.all fun c => c.toNat < 128) = true := by decide
  exact fun c hc => of_decide_eq_true (List.all_eq_true.mp hAll c hc)

theorem dollar_notMem_alphabet : '$' ∉ Base64.alphabet := by decide

theorem b64decode_b64encode (bytes : List UInt8) : b64decode (b64encode bytes) = some bytes := by
  have hPadded : (if 4 - (Base64.digits bytes).length % 4 < 4
      then Base64.digits bytes ++ List.replicate (4 - (Base64.digits bytes).length % 4) '='
      else Base64.digits bytes) = Base64.digits bytes ++ Base64.padding (Base64.digits bytes).length := by
    rw [Base64.padding]
    split
    next hShort => rw [Nat.mod_eq_of_lt hShort]
    next => rw [show (4 - (Base64.digits bytes).length % 4) % 4 = 0 by omega, List.replicate_zero,
        List.append_nil]
  have hAscii : (Base64.digits bytes ++ Base64.padding (Base64.digits bytes).length).all
      (fun c => c.toNat < 128) = true := by
    rw [List.all_eq_true]
    intro c hc
    rcases List.mem_append.mp hc with hDigit | hPad
    · exact decide_eq_true (ascii_of_mem_alphabet c (Base64.mem_alphabet_of_mem_digits hDigit))
    · rw [List.eq_of_mem_replicate hPad]
      rfl
  rw [b64encode_eq, b64decode]
  simp only [hPadded, hAscii, if_true]
  exact Base64.urlsafeB64decode_digits bytes

theorem dollar_notMem_str? {n : Int} {t : Text} (h : str? n = some t) : '$' ∉ t := by
  intro hc
  rcases mem_str? h hc with hMinus | hDigit
  · cases hMinus
  · cases hDigit

theorem dollar_notMem_b64encode (bytes : List UInt8) : '$' ∉ b64encode bytes := by
  rw [b64encode_eq]
  exact fun hc => dollar_notMem_alphabet (Base64.mem_alphabet_of_mem_digits hc)

theorem parse_format {costs : ScryptCosts} {n r p : Text} (hN : str? costs.n = some n)
    (hR : str? costs.r = some r) (hP : str? costs.p = some p) (salt derived : List UInt8) :
    parse (format n r p (b64encode salt) (b64encode derived)) = some (costs, salt, derived) := by
  have hJoined : format n r p (b64encode salt) (b64encode derived) =
      ['$'].intercalate [scryptPrefix, n, r, p, b64encode salt, b64encode derived] := by
    simp [format, List.intercalate, List.intersperse]
  have hFree : ∀ part ∈ [scryptPrefix, n, r, p, b64encode salt, b64encode derived], '$' ∉ part := by
    simp only [List.forall_mem_cons]
    exact ⟨by decide, dollar_notMem_str? hN, dollar_notMem_str? hR, dollar_notMem_str? hP,
      dollar_notMem_b64encode salt, dollar_notMem_b64encode derived, List.forall_mem_nil _⟩
  rw [hJoined, parse, List.splitOn_intercalate '$' hFree (List.cons_ne_nil _ _)]
  simp only [if_true, int?_of_str? hN, int?_of_str? hR, int?_of_str? hP, b64decode_b64encode]
  rfl

theorem ok_of_hashPassword {scrypt : Scrypt} {costs : ScryptCosts} {salt : List UInt8}
    {password stored : String} (h : hashPassword scrypt costs salt password = .ok stored) :
    password ≠ "" ∧ stored ≠ "" ∧ ∃ key, scryptKey scrypt costs salt derivedKeyBytes password = .ok key ∧
      key.length = derivedKeyBytes ∧ parse stored.toList = some (costs, salt, key) := by
  rw [hashPassword] at h
  split at h
  case isTrue => cases h
  case isFalse hPassword =>
    obtain ⟨key, hKey, hText⟩ := Transaction.except_bind_eq_ok.mp h
    have hLength : key.length = derivedKeyBytes := by
      rw [scryptKey] at hKey
      split at hKey
      · split at hKey
        next hDerived =>
          cases hKey
          exact scrypt.length_derive _ _ _ _ _ _ _ hDerived
        next => cases hKey
      · cases hKey
    split at hText
    next n r p hN hR hP =>
      cases hText
      refine ⟨hPassword, ?_, key, hKey, hLength, ?_⟩
      · intro hEmpty
        have hNil : format n r p (b64encode salt) (b64encode key) = [] :=
          String.ofList_inj.mp (hEmpty.trans String.ofList_nil.symm)
        simp [format, scryptPrefix] at hNil
      · rw [String.toList_ofList]
        exact parse_format hN hR hP salt key
    next => cases hText

/-- A stored password is opened by exactly the passwords of the same key. -/
theorem verifyPassword_eq_true_iff {scrypt : Scrypt} {costs : ScryptCosts} {salt : List UInt8}
    {password stored : String} (h : hashPassword scrypt costs salt password = .ok stored)
    (given : String) :
    verifyPassword scrypt given stored = .ok true ↔
      scryptKey scrypt costs salt derivedKeyBytes given =
        scryptKey scrypt costs salt derivedKeyBytes password := by
  obtain ⟨-, hStored, key, hKey, hLength, hParse⟩ := ok_of_hashPassword h
  rw [verifyPassword, if_neg hStored, hParse, hKey]
  simp only [hLength]
  cases hGiven : scryptKey scrypt costs salt derivedKeyBytes given with
  | ok derived => simp
  | error error => cases error <;> simp

/-- Costs that took the password once are taken again. -/
theorem verifyPassword_ne_error {scrypt : Scrypt} {costs : ScryptCosts} {salt : List UInt8}
    {password stored : String} (h : hashPassword scrypt costs salt password = .ok stored)
    (given : String) : ∃ answer, verifyPassword scrypt given stored = .ok answer := by
  obtain ⟨-, hStored, key, hKey, hLength, hParse⟩ := ok_of_hashPassword h
  have hTakes : scrypt.takes costs.n costs.r costs.p = true := by
    rw [scryptKey] at hKey
    split at hKey
    · assumption
    · cases hKey
  rw [verifyPassword, if_neg hStored, hParse]
  simp only [scryptKey, hTakes, if_true]
  cases scrypt.derive given.toUTF8.toList salt costs.n costs.r costs.p key.length with
  | none => exact ⟨false, rfl⟩
  | some derived => exact ⟨derived == key, rfl⟩

end PasswordHash

/-! ## The operator command -/

namespace UserRepository

def usernameFree (username : String) (db : UserDatabase) : Bool :=
  db.users.rows.all fun user => user.username != username

def insertRow (user : User) (db : UserDatabase) : UserDatabase :=
  { db with users := db.users.insert user }

def create (username passwordHash : String) (isAdmin isActive : Bool) : UserApp User := do
  if ← Program.query (.constraint "users.username") (usernameFree username) then
    let id ← Program.allocated fun db => db.users.nextKey
    Program.modify (insertRow ⟨id, username, passwordHash, isActive, isAdmin, none⟩)
    pure ⟨id, username, passwordHash, isActive, isAdmin, none⟩
  else .raise .integrity

end UserRepository

namespace CreateAdmin

structure Args where
  username : String
  password : Option String
  noAdmin : Bool
  updateIfExists : Bool

/-- One run of the command: its arguments, `ADMIN_PASSWORD`, what is typed at the two prompts, the
configured costs and the salt that is drawn. -/
structure Call where
  args : Args
  environ : Option String
  prompted : String
  confirmed : String
  costs : ScryptCosts
  salt : List UInt8

inductive Action where
  | created | updated
  deriving DecidableEq, Repr

/-- `_read_password`. -/
def readPassword (call : Call) : Except HashError String := do
  let candidate ← match call.args.password, call.environ with
    | some password, _ => pure password
    | none, some password => pure password
    | none, none =>
      if call.prompted ≠ call.confirmed then .error (.valueError "passwords do not match")
      else pure call.prompted
  if candidate = "" then
    .error (.valueError ("password must not be empty (set --password, ADMIN_PASSWORD env "
      ++ "var, or supply via the interactive prompt)"))
  else .ok candidate

def credentials (passwordHash : String) (isAdmin : Bool) (user : User) : User :=
  { user with passwordHash := passwordHash, isAdmin := isAdmin, isActive := true }

theorem id_credentials (passwordHash : String) (isAdmin : Bool) (user : User) :
    (credentials passwordHash isAdmin user).id = user.id := rfl

def storeCredentials (userId : Nat) (passwordHash : String) (isAdmin : Bool) (db : UserDatabase) :
    UserDatabase where
  __ := db
  users := db.users.modify userId (credentials passwordHash isAdmin)
    (id_credentials passwordHash isAdmin)

/-- The session of `main`; `none` is the exit on a taken username. -/
def store (args : Args) (passwordHash : String) : UserApp (Option (Action × Nat)) := do
  match ← UserRepository.getByUsername args.username with
  | some existing =>
    if !args.updateIfExists then pure none
    else do
      Program.modify (storeCredentials existing.id passwordHash !args.noAdmin)
      Program.committed
      pure (some (.updated, existing.id))
  | none => do
    let user ← UserRepository.create args.username passwordHash (!args.noAdmin) true
    Program.committed
    pure (some (.created, user.id))

/-- `main`, up to its session. -/
def main (scrypt : Scrypt) (call : Call) : Except HashError (UserApp (Option (Action × Nat))) := do
  let password ← readPassword call
  let passwordHash ← PasswordHash.hashPassword scrypt call.costs call.salt password
  pure (store call.args passwordHash)

end CreateAdmin

end StockAiPlatform
