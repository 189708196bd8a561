import TripleStore.Text.Utf8

/-!
Contract: decimal and hexadecimal digits.

Owns: the digits at the start of a text, and the numbers that digits write.

Does not own: which characters a format admits around the digits.
-/

namespace TripleStore.Text

def isDigit (scalar : Scalar) : Bool :=
  scalar.holds Char.isDigit

def leadingDigits (input : Scalars) : List Char :=
  (input.takeWhile isDigit).filterMap Scalar.char?

def decimalValue (digits : List Char) : Nat :=
  digits.foldl (fun value digit => value * 10 + (digit.toNat - '0'.toNat)) 0

def isHexDigit (character : Char) : Bool :=
  character.isDigit || ('a' ≤ character && character ≤ 'f') ||
    ('A' ≤ character && character ≤ 'F')

def hexDigit? : Scalar → Option Nat
  | .stray _ => none
  | .char character =>
      if character.isDigit then some (character.toNat - '0'.toNat)
      else if 'a' ≤ character ∧ character ≤ 'f' then some (character.toNat - 'a'.toNat + 10)
      else if 'A' ≤ character ∧ character ≤ 'F' then some (character.toNat - 'A'.toNat + 10)
      else none

/-- The number that hexadecimal digits write, if there are only digits. -/
def hexValue? (digits : Scalars) : Option Nat :=
  (digits.mapM hexDigit?).map fun values => values.foldl (fun value digit => value * 16 + digit) 0

end TripleStore.Text
