import StockAiPlatform.Python.Text
import Mathlib.Data.Nat.Log
import Mathlib.Data.Rat.Floor

/-! # Decimal numbers

A `Decimal` as read from text, and the operations on the finite ones as
rationals. Sums, differences and products of stored columns fit the 28 digits
of the context; a quotient is rounded to them. At the end, what a message is made of.
-/

namespace StockAiPlatform.Python
set_option autoImplicit false

inductive DecimalValue where
  | finite (value : ℚ)
  | infinite (negative : Bool)
  | nan

/-- A `Decimal`, with what `str` writes for it. -/
structure Decimal where
  text : Text
  value : DecimalValue

/-- The nearest integer to a rational that is not negative, a tie going up. -/
def roundHalfUp (value : ℚ) : Int := (value + 1 / 2).floor

def roundHalfEven (value : ℚ) : Int :=
  let below := value.floor
  if value - below = 1 / 2 then (if below % 2 = 0 then below else below + 1) else roundHalfUp value

/-- `value.quantize(Decimal(1).scaleb(-places), rounding=ROUND_HALF_UP)`. -/
def quantize (places : Nat) (value : ℚ) : ℚ :=
  let rounded : ℚ := roundHalfUp (|value| * 10 ^ places) / 10 ^ places
  if value < 0 then -rounded else rounded

def quantizeHalfEven (places : Nat) (value : ℚ) : ℚ :=
  let rounded : ℚ := roundHalfEven (|value| * 10 ^ places) / 10 ^ places
  if value < 0 then -rounded else rounded

def leadingPower (value : ℚ) : Int :=
  if 1 ≤ value then Nat.log 10 value.floor.toNat else -(Nat.clog 10 (1 / value).ceil.toNat : Int)

def divide (a b : ℚ) : ℚ :=
  let quotient := a / b
  if quotient = 0 then 0
  else
    let scale : ℚ := 10 ^ (27 - leadingPower |quotient|)
    let rounded : ℚ := roundHalfEven (|quotient| * scale) / scale
    if quotient < 0 then -rounded else rounded

def fixedDigits (places : Nat) (value : ℚ) : String :=
  let scaled := (roundHalfEven (|value| * 10 ^ places)).toNat
  let fraction := toString (scaled % 10 ^ places)
  toString (scaled / 10 ^ places) ++ "." ++ "".pushn '0' (places - fraction.length) ++ fraction

def fixed (places : Nat) (value : ℚ) : String :=
  (if value < 0 then "-" else "") ++ fixedDigits places value

/-- `:+.nf` of a decimal, whose sign a zero has as well -/
def signed (places : Nat) (negative : Bool) (value : ℚ) : String :=
  (if negative then "-" else "+") ++ fixedDigits places value

/-- The pieces an f-string is put together from. A decimal or a day stays the value it is, so that a
message carries what its reader sees. -/
inductive Piece where
  | null
  | bool (value : Bool)
  | int (value : Int)
  | str (value : String)
  | decimal (value : ℚ)
  /-- `:.6f` -/
  | sixPlaces (value : ℚ)
  /-- `date.isoformat()` -/
  | isoDate (day : Int)
  deriving DecidableEq, Repr

abbrev Formatted := List Piece

end StockAiPlatform.Python
