/-!
Contract: bytes read as UTF-8.

Owns:
- the characters of a sequence of bytes, and the bytes that are part of none;
- the number of bytes that characters take.

Does not own: what a reader makes of a stray byte.

A byte below `0x80` never goes astray, because it is a character by itself.
-/

namespace TripleStore.Text

/-- A character, or a byte that is part of none. -/
inductive Scalar where
  | char (value : Char)
  | stray (byte : UInt8)
deriving DecidableEq, Repr

namespace Scalar

def char? : Scalar → Option Char
  | char value => some value
  | stray _ => none

def holds (test : Char → Bool) : Scalar → Bool
  | char value => test value
  | stray _ => false

end Scalar

abbrev Scalars := List Scalar

def longestCharacter : Nat := 4

/-- The characters of the bytes. A byte that starts none is stray. -/
def decode : List UInt8 → Scalars
  | [] => []
  | byte :: rest =>
      match ((byte :: rest).take longestCharacter).toByteArray.utf8DecodeChar? 0 with
      | some character => .char character :: decode (rest.drop (character.utf8Size - 1))
      | none => .stray byte :: decode rest
termination_by bytes => bytes.length
decreasing_by
  all_goals
    simp only [List.length_drop, List.length_cons]
    omega

def byteLength (characters : List Char) : Nat :=
  characters.foldr (fun character length => character.utf8Size + length) 0

def characters? : Scalars → Option (List Char)
  | [] => some []
  | .stray _ :: _ => none
  | .char character :: rest => (characters? rest).map (character :: ·)

/-- The characters of the bytes, if each byte is part of one. -/
def decode? (bytes : List UInt8) : Option (List Char) :=
  characters? (decode bytes)

@[simp] theorem characters?_map_char (characters : List Char) :
    characters? (characters.map .char) = some characters := by
  induction characters with
  | nil => rfl
  | cons first rest inductionHypothesis => simp [characters?, inductionHypothesis]

end TripleStore.Text
