import StockAiPlatform.Python.Text
import Mathlib.Data.List.Basic

/-! # The URL-safe base64 alphabet

`base64.urlsafe_b64encode` and its inverse. The decoder is the lenient one of
`binascii.a2b_base64`: it passes over what is not in the alphabet, and the first
complete padding ends it.
-/

namespace StockAiPlatform.Python.Base64
set_option autoImplicit false

def alphabet : Text :=
  "ABCDEFGHIJKLMNOPQRSTUVWXYZabcdefghijklmnopqrstuvwxyz0123456789-_".toList

def digit (sextet : Nat) : Char := alphabet.getD sextet 'A'

/-- The URL-safe digits, and the two that the standard alphabet has in their place. -/
def sextet? (c : Char) : Option Nat :=
  if c = '+' then some 62
  else if c = '/' then some 63
  else if alphabet.contains c then some (alphabet.idxOf c)
  else none

/-- The digits of a text without its padding. -/
def digits : List UInt8 → Text
  | [] => []
  | [a] => [digit (a.toNat / 4), digit (a.toNat % 4 * 16)]
  | [a, b] =>
    [digit (a.toNat / 4), digit (a.toNat % 4 * 16 + b.toNat / 16), digit (b.toNat % 16 * 4)]
  | a :: b :: c :: bytes =>
    digit (a.toNat / 4) :: digit (a.toNat % 4 * 16 + b.toNat / 16) ::
      digit (b.toNat % 16 * 4 + c.toNat / 64) :: digit (c.toNat % 64) :: digits bytes

/-- What completes the last group of four. -/
def padding (length : Nat) : Text := List.replicate ((4 - length % 4) % 4) '='

def urlsafeB64encode (bytes : List UInt8) : Text := digits bytes ++ padding (digits bytes).length

/-- The loop of `a2b_base64`: digits in the group so far, the bits left over of the last of them, and
the pads since. `none` is a `binascii.Error`. -/
def a2bBase64 : Nat → Nat → Nat → Text → Option (List UInt8)
  | quad, _, _, [] => if quad = 0 then some [] else none
  | quad, left, pads, c :: t =>
    if c = '=' then
      if 2 ≤ quad ∧ 4 ≤ quad + (pads + 1) then some []
      else a2bBase64 quad left (if 2 ≤ quad then pads + 1 else pads) t
    else match sextet? c with
      | none => a2bBase64 quad left pads t
      | some s =>
        match quad with
        | 0 => a2bBase64 1 s 0 t
        | 1 => (a2bBase64 2 (s % 16) 0 t).map (UInt8.ofNat (left * 4 + s / 16) :: ·)
        | 2 => (a2bBase64 3 (s % 4) 0 t).map (UInt8.ofNat (left * 16 + s / 4) :: ·)
        | _ => (a2bBase64 0 0 0 t).map (UInt8.ofNat (left * 64 + s) :: ·)

def urlsafeB64decode (t : Text) : Option (List UInt8) := a2bBase64 0 0 0 t

section Digits

theorem sextet?_digit : ∀ sextet < 64, sextet? (digit sextet) = some sextet := by decide +kernel

theorem digit_mem : ∀ sextet < 64, digit sextet ∈ alphabet := by decide

theorem pad_notMem : '=' ∉ alphabet := by decide

theorem digit_ne_pad {sextet : Nat} (h : sextet < 64) : digit sextet ≠ '=' :=
  fun hSame => pad_notMem (hSame ▸ digit_mem sextet h)

theorem mem_alphabet_of_mem_digits {bytes : List UInt8} {c : Char} (h : c ∈ digits bytes) :
    c ∈ alphabet := by
  induction bytes using digits.induct with
  | case1 => cases h
  | case2 a =>
    have hByte := a.toNat_lt
    simp only [digits, List.mem_cons, List.not_mem_nil, or_false] at h
    rcases h with rfl | rfl <;> exact digit_mem _ (by omega)
  | case3 a b =>
    have hByteA := a.toNat_lt
    have hByteB := b.toNat_lt
    simp only [digits, List.mem_cons, List.not_mem_nil, or_false] at h
    rcases h with rfl | rfl | rfl <;> exact digit_mem _ (by omega)
  | case4 a b c bytes ih =>
    have hByteA := a.toNat_lt
    have hByteB := b.toNat_lt
    have hByteC := c.toNat_lt
    simp only [digits, List.mem_cons] at h
    rcases h with rfl | rfl | rfl | rfl | hRest
    · exact digit_mem _ (by omega)
    · exact digit_mem _ (by omega)
    · exact digit_mem _ (by omega)
    · exact digit_mem _ (by omega)
    · exact ih hRest

end Digits

section RoundTrip

variable {sextet : Nat} (h : sextet < 64) (left pads : Nat) (t : Text)

include h

theorem a2bBase64_first :
    a2bBase64 0 left pads (digit sextet :: t) = a2bBase64 1 sextet 0 t := by
  rw [a2bBase64, if_neg (digit_ne_pad h), sextet?_digit sextet h]
  rfl

theorem a2bBase64_second : a2bBase64 1 left pads (digit sextet :: t) =
    (a2bBase64 2 (sextet % 16) 0 t).map (UInt8.ofNat (left * 4 + sextet / 16) :: ·) := by
  rw [a2bBase64, if_neg (digit_ne_pad h), sextet?_digit sextet h]
  rfl

theorem a2bBase64_third : a2bBase64 2 left pads (digit sextet :: t) =
    (a2bBase64 3 (sextet % 4) 0 t).map (UInt8.ofNat (left * 16 + sextet / 4) :: ·) := by
  rw [a2bBase64, if_neg (digit_ne_pad h), sextet?_digit sextet h]
  rfl

theorem a2bBase64_fourth : a2bBase64 3 left pads (digit sextet :: t) =
    (a2bBase64 0 0 0 t).map (UInt8.ofNat (left * 64 + sextet) :: ·) := by
  rw [a2bBase64, if_neg (digit_ne_pad h), sextet?_digit sextet h]
  rfl

omit h

/-- What the decoder puts together again of the parts of a byte. -/
theorem ofNat_of_parts {a : UInt8} {n : Nat} (h : n = a.toNat) : UInt8.ofNat n = a := by
  rw [h, UInt8.ofNat_toNat]

/-- Padded to whole groups, the digits decode to the bytes. -/
theorem urlsafeB64decode_digits (bytes : List UInt8) :
    urlsafeB64decode (digits bytes ++ padding (digits bytes).length) = some bytes := by
  rw [urlsafeB64decode]
  induction bytes using digits.induct with
  | case1 => rfl
  | case2 a =>
    have hByte := a.toNat_lt
    have hFirst : UInt8.ofNat (a.toNat / 4 * 4 + a.toNat % 4 * 16 / 16) = a :=
      ofNat_of_parts (by omega)
    simp only [digits, List.cons_append, List.nil_append]
    rw [a2bBase64_first (by omega), a2bBase64_second (by omega), hFirst]
    rfl
  | case3 a b =>
    have hByteA := a.toNat_lt
    have hByteB := b.toNat_lt
    have hFirst : UInt8.ofNat (a.toNat / 4 * 4 + (a.toNat % 4 * 16 + b.toNat / 16) / 16) = a :=
      ofNat_of_parts (by omega)
    have hSecond : UInt8.ofNat ((a.toNat % 4 * 16 + b.toNat / 16) % 16 * 16 +
        b.toNat % 16 * 4 / 4) = b := ofNat_of_parts (by omega)
    simp only [digits, List.cons_append, List.nil_append]
    rw [a2bBase64_first (by omega), a2bBase64_second (by omega), a2bBase64_third (by omega), hFirst,
      hSecond]
    rfl
  | case4 a b c bytes ih =>
    have hByteA := a.toNat_lt
    have hByteB := b.toNat_lt
    have hByteC := c.toNat_lt
    have hFirst : UInt8.ofNat (a.toNat / 4 * 4 + (a.toNat % 4 * 16 + b.toNat / 16) / 16) = a :=
      ofNat_of_parts (by omega)
    have hSecond : UInt8.ofNat ((a.toNat % 4 * 16 + b.toNat / 16) % 16 * 16 +
        (b.toNat % 16 * 4 + c.toNat / 64) / 4) = b := ofNat_of_parts (by omega)
    have hThird : UInt8.ofNat ((b.toNat % 16 * 4 + c.toNat / 64) % 4 * 64 + c.toNat % 64) = c :=
      ofNat_of_parts (by omega)
    have hPadding : padding (digits (a :: b :: c :: bytes)).length = padding (digits bytes).length := by
      simp only [digits, List.length_cons, padding]
      rw [show (digits bytes).length + 1 + 1 + 1 + 1 = (digits bytes).length + 4 from rfl,
        Nat.add_mod_right]
    rw [hPadding, digits]
    simp only [List.cons_append]
    rw [a2bBase64_first (by omega), a2bBase64_second (by omega), a2bBase64_third (by omega),
      a2bBase64_fourth (by omega), ih, hFirst, hSecond, hThird]
    rfl

end RoundTrip

end StockAiPlatform.Python.Base64
