import TripleStore.Json.Scan

/-!
Contract: JSON numbers that are too large to be had as doubles.

Owns:
- the whole number and the power of ten by which a number is read;
- rounding to the precision of a double;
- which numbers are too large.

Does not own: where a number is wanted at all (`TripleStore.Json.Reader`).

A number is read as the product of two doubles: its first digits, as many as fit a word
of 64 bits, and the power of ten that puts them in their place. It is too large when that
product is, each of the three being rounded to the nearest double. This can differ from
what the exact value would say, by a little and in both directions.
-/

namespace TripleStore.Json

open TripleStore.Text (decimalValue)

def wordBound : Nat := UInt64.size

/-- The number with the digits behind it that fit a word together with it, and the digits
from the first one on that does not. -/
def appendDigits (number : Nat) : List Char → Nat × List Char
  | [] => (number, [])
  | digit :: rest =>
      let longer := number * 10 + decimalValue [digit]
      if longer < wordBound then appendDigits longer rest else (number, digit :: rest)

/-- A whole number and the power of ten that it is multiplied by. -/
structure Scaled where
  significand : Nat
  exponent : Int
deriving DecidableEq, Repr

def Numeral.writtenPower (numeral : Numeral) : Int :=
  if numeral.negativePower then -(decimalValue numeral.power) else decimalValue numeral.power

/-- The first digits of a number and their power of ten. A digit before the point that
does not fit counts as a power, and a digit behind the point that does not fit counts for
nothing. -/
def Numeral.scaled (numeral : Numeral) : Scaled :=
  let (whole, leftOut) := appendDigits 0 numeral.whole
  let (significand, unread) := appendDigits whole numeral.fraction
  { significand
    exponent := numeral.writtenPower + leftOut.length + unread.length - numeral.fraction.length }

def doublePrecision : Nat := 53

/-- The nearest whole number with so many binary digits and only zeros behind them. Of two
that are equally near it is the one whose last digit is even. -/
def roundToDouble (number : Nat) : Nat :=
  let unit := 1 <<< (number.log2 + 1 - doublePrecision)
  let below := number / unit
  let left := number % unit
  if unit < 2 * left ∨ (unit = 2 * left ∧ below % 2 = 1) then (below + 1) * unit
  else below * unit

def doubleBound : Nat := 1 <<< 1024

def largestPower : Nat := 308

def Scaled.overflows (scaled : Scaled) : Bool :=
  if scaled.significand = 0 ∨ scaled.exponent < 0 then
    false
  else if largestPower < scaled.exponent then
    true
  else
    doubleBound ≤ roundToDouble
      (roundToDouble scaled.significand * roundToDouble (Nat.pow 10 scaled.exponent.toNat))

def Numeral.overflows (numeral : Numeral) : Bool :=
  numeral.scaled.overflows

end TripleStore.Json
