import TripleStore.Text.Decimal
import TripleStore.Text.Range

/-!
Contract: the names that a Turtle document is written with.

Owns: the characters of names, and the longest name of each kind at the start of a text.

Does not own: what a name stands for (`TripleStore.Turtle.Graph`).

A dot belongs to a name only if the name goes on behind it, because a dot also ends a
statement. Only a local name may hold several dots in a row, and only a local name may
hold a byte that is part of no character.
-/

namespace TripleStore.Turtle

open TripleStore.Text (Scalar Scalars inRanges isHexDigit)

/-- A piece of a text: what it says, and how many places it takes. -/
structure Piece (α : Type) where
  value : α
  places : Nat
deriving DecidableEq, Repr

namespace Piece

def nothing : Piece (List Char) where
  value := []
  places := 0

def extend (piece : Piece (List Char)) (characters : List Char) (places : Nat) :
    Piece (List Char) where
  value := characters ++ piece.value
  places := places + piece.places

def convert {α β : Type} (piece : Piece α) (value : α → β) (places : Nat) : Piece β where
  value := value piece.value
  places := places + piece.places

end Piece

/-! ## Characters of names -/

def letterRanges : List (Nat × Nat) :=
  [(0xC0, 0xD6), (0xD8, 0xF6), (0xF8, 0x2FF), (0x370, 0x37D), (0x37F, 0x1FFF),
    (0x200C, 0x200D), (0x2070, 0x218F), (0x2C00, 0x2FEF), (0x3001, 0xD7FF),
    (0xF900, 0xFDCF), (0xFDF0, 0xFFFD), (0x10000, 0xEFFFF)]

def joinerRanges : List (Nat × Nat) :=
  [(0xB7, 0xB7), (0x300, 0x36F), (0x203F, 0x2040)]

def isLetter (character : Char) : Bool :=
  character.isAlpha || inRanges letterRanges character

def isNameStart (character : Char) : Bool :=
  isLetter character || character == '_'

def isNameCharacter (character : Char) : Bool :=
  isNameStart character || character == '-' || character.isDigit ||
    inRanges joinerRanges character

def startsLocal (character : Char) : Bool :=
  isNameStart character || character.isDigit || [':', '%', '\\'].contains character

def isEscapable (character : Char) : Bool :=
  ['_', '~', '.', '-', '!', '$', '&', '\x27', '(', ')', '*', '+', ',', ';', '=', '/', '?',
    '#', '@', '%'].contains character

/-! ## Names -/

def nameRun : Scalars → List Char
  | .char '.' :: .char next :: rest =>
      if isNameCharacter next then '.' :: nameRun (.char next :: rest) else []
  | .char character :: rest =>
      if isNameCharacter character then character :: nameRun rest else []
  | _ => []

def nameAt (starts : Char → Bool) : Scalars → List Char
  | .char character :: rest => if starts character then character :: nameRun rest else []
  | _ => []

/-- The byte that may stand alone for a character inside a local name: its number is that
of the middle dot. -/
def middleDotByte : UInt8 := 0xB7

def localCharacter? : Scalar → Option Char
  | .char character =>
      if isNameCharacter character || character == ':' then some character else none
  | .stray byte => if byte = middleDotByte then some (.ofNat byte.toNat) else none

def isEscapeSign (scalar : Scalar) : Bool :=
  scalar == .char '%' || scalar == .char '\\'

def continuesAfterDots (input : Scalars) : Bool :=
  (input.dropWhile (· == .char '.')).head?.any fun next =>
    (localCharacter? next).isSome || isEscapeSign next

/-- The characters of a local name from the second on. A percent sign takes its two
digits with it, and a backslash stands for the character behind it. -/
def localRun : Scalars → Option (Piece (List Char))
  | .char '%' :: .char high :: .char low :: rest =>
      if isHexDigit high && isHexDigit low then
        (localRun rest).map (·.extend ['%', high, low] 3)
      else
        none
  | .char '\\' :: .char character :: rest =>
      if isEscapable character then (localRun rest).map (·.extend [character] 2) else none
  | first :: rest =>
      match localCharacter? first with
      | some character => (localRun rest).map (·.extend [character] 1)
      | none =>
          if isEscapeSign first then none
          else if first = .char '.' ∧ continuesAfterDots rest then
            (localRun rest).map (·.extend ['.'] 1)
          else
            some .nothing
  | [] => some .nothing

/-- The local part of a name, which may be empty. -/
def localName : Scalars → Option (Piece (List Char))
  | .char character :: rest =>
      if startsLocal character then localRun (.char character :: rest) else some .nothing
  | _ => some .nothing

end TripleStore.Turtle
