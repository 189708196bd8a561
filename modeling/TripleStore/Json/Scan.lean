import TripleStore.Text.Decimal

/-!
Contract: the pieces that JSON text is made of, read from left to right.

Owns:
- the three ways in which a text can fail to be the JSON that is asked for;
- blanks, strings, fixed words and numbers.

Does not own: values that hold other values (`TripleStore.Json.Skip` and
`TripleStore.Json.Reader`).

Reading stops at the first problem. A string whose content is asked for must be
characters throughout, with every surrogate paired; one that is skipped need not be.
-/

namespace TripleStore.Json

open TripleStore.Text (Scalar Scalars characters? hexValue? leadingDigits)

inductive Fault where
  | malformed
  | truncated
  /-- JSON so far, but not of the shape that is asked for. -/
  | mismatched
  /-- The text cannot be had at all. -/
  | unreadable
deriving DecidableEq, Repr

def isBlank (scalar : Scalar) : Bool :=
  scalar == .char ' ' || scalar == .char '\t' || scalar == .char '\n' || scalar == .char '\r'

def skipBlanks (input : Scalars) : Scalars :=
  input.dropWhile isBlank

theorem length_skipBlanks_le (input : Scalars) :
    (skipBlanks input).length ≤ input.length :=
  (List.dropWhile_suffix isBlank).length_le

/-! ## Strings -/

def byteLength (input : Scalars) : Nat :=
  input.foldr (fun scalar length => (scalar.char?.map Char.utf8Size).getD 1 + length) 0

/-- The code unit that the first four hexadecimal digits write. The text is taken to
end too early when there are fewer than four bytes, whatever they are. -/
def codeUnit (input : Scalars) : Except Fault Nat :=
  let written := input.take 4
  match hexValue? written with
  | some unit => if written.length = 4 then .ok unit else .error .truncated
  | none => .error (if byteLength written < 4 then .truncated else .malformed)

def isLeading (unit : Nat) : Bool :=
  0xD800 ≤ unit && unit ≤ 0xDBFF

def isTrailing (unit : Nat) : Bool :=
  0xDC00 ≤ unit && unit ≤ 0xDFFF

def pairValue (leading trailing : Nat) : Nat :=
  0x10000 + (leading - 0xD800) * 0x400 + (trailing - 0xDC00)

def letterEscape? : Scalar → Option Char
  | .char '"' => some '"'
  | .char '\\' => some '\\'
  | .char '/' => some '/'
  | .char 'b' => some '\x08'
  | .char 'f' => some '\x0c'
  | .char 'n' => some '\n'
  | .char 'r' => some '\r'
  | .char 't' => some '\t'
  | _ => none

/-- What follows a backslash and the letter of a numeric escape: the character, and how
many places were read. -/
def numericEscape (input : Scalars) : Except Fault (Char × Nat) := do
  let unit ← codeUnit input
  if isTrailing unit then
    .error .malformed
  else if isLeading unit then
    match input.drop 4 with
    | [] => .error .truncated
    | [.char '\\'] => .error .truncated
    | .char '\\' :: .char 'u' :: rest =>
        let second ← codeUnit rest
        if isTrailing second then
          return (.ofNat (pairValue unit second), 10)
        else
          .error .malformed
    | _ => .error .malformed
  else
    return (.ofNat unit, 4)

def escape : Scalars → Except Fault (Char × Nat)
  | [] => .error .truncated
  | .char 'u' :: rest => do
      let (character, read) ← numericEscape rest
      return (character, read + 1)
  | letter :: _ =>
      match letterEscape? letter with
      | some character => .ok (character, 1)
      | none => .error .malformed

def isControl (scalar : Scalar) : Bool :=
  scalar.holds fun character => character.toNat < 0x20

def stringBody : Scalars → Except Fault (Scalars × Scalars)
  | [] => .error .truncated
  | .char '"' :: rest => .ok ([], rest)
  | .char '\\' :: rest => do
      let (character, read) ← escape rest
      let (content, remaining) ← stringBody (rest.drop read)
      return (.char character :: content, remaining)
  | scalar :: rest =>
      if isControl scalar then
        .error .malformed
      else do
        let (content, remaining) ← stringBody rest
        return (scalar :: content, remaining)
termination_by input => input.length
decreasing_by
  all_goals
    simp only [List.length_drop, List.length_cons]
    omega

def readString (input : Scalars) : Except Fault (String × Scalars) := do
  let (content, remaining) ← stringBody input
  match characters? content with
  | some characters => return (.ofList characters, remaining)
  | none => .error .malformed

/-- How many places an escape takes in a string that is skipped. -/
def skipEscape : Scalars → Except Fault Nat
  | [] => .error .truncated
  | .char 'u' :: rest => do
      let _ ← codeUnit rest
      return 5
  | letter :: _ => if (letterEscape? letter).isSome then .ok 1 else .error .malformed

def skipString : Scalars → Except Fault Scalars
  | [] => .error .truncated
  | .char '"' :: rest => .ok rest
  | .char '\\' :: rest => do
      let read ← skipEscape rest
      skipString (rest.drop read)
  | scalar :: rest => if isControl scalar then .error .malformed else skipString rest
termination_by input => input.length
decreasing_by
  all_goals
    simp only [List.length_drop, List.length_cons]
    omega

/-! ## Words and numbers -/

def skipWord : List Char → Scalars → Except Fault Scalars
  | [], input => .ok input
  | _ :: _, [] => .error .truncated
  | expected :: others, found :: rest =>
      if found = .char expected then skipWord others rest else .error .malformed

structure Numeral where
  whole : List Char
  fraction : List Char
  negativePower : Bool
  power : List Char
deriving DecidableEq, Repr

/-- Digits, at least one, and what follows them. At the end of the text the fault is
`atEnd`. -/
def someDigits (atEnd : Fault) (input : Scalars) : Except Fault (List Char × Scalars) :=
  match leadingDigits input, input with
  | [], [] => .error atEnd
  | [], _ => .error .malformed
  | found, _ => .ok (found, input.drop found.length)

def fractionDigits (atEnd : Fault) : Scalars → Except Fault (List Char × Scalars)
  | .char '.' :: rest => someDigits atEnd rest
  | input => .ok ([], input)

def takeSign : Scalars → Bool × Scalars
  | .char '-' :: rest => (true, rest)
  | .char '+' :: rest => (false, rest)
  | input => (false, input)

def powerDigits (atEnd : Fault) : Scalars → Except Fault ((Bool × List Char) × Scalars)
  | [] => .ok ((false, []), [])
  | letter :: rest =>
      if letter = .char 'e' ∨ letter = .char 'E' then do
        let (negative, unsigned) := takeSign rest
        let (found, remaining) ← someDigits atEnd unsigned
        return ((negative, found), remaining)
      else
        .ok ((false, []), letter :: rest)

/-- The part of a number after its sign, and what follows it. No other digit follows a
leading zero. Where the text ends inside the number, the fault is `atEnd`. -/
def numeral (atEnd : Fault) (input : Scalars) : Except Fault (Numeral × Scalars) := do
  let (whole, afterWhole) ← someDigits atEnd input
  if whole.head? = some '0' ∧ whole.length ≠ 1 then
    .error .malformed
  else
    let (fraction, afterFraction) ← fractionDigits atEnd afterWhole
    let ((negativePower, power), remaining) ← powerDigits atEnd afterFraction
    return ({ whole, fraction, negativePower, power }, remaining)

def number (atEnd : Fault) : Scalars → Except Fault (Numeral × Scalars)
  | .char '-' :: rest => numeral atEnd rest
  | input => numeral atEnd input

end TripleStore.Json
