import TripleStore.Text.Unseen

/-!
Contract: texts between double quotes, with what would not show written as escapes.

Owns: the escapes, and the quoted form of a text and of an optional text.

Does not own: the quoting rules of data formats.
-/

namespace TripleStore.Text

/-- The number of the character in hexadecimal, between braces. -/
def numericEscape (character : Char) : String :=
  "\\u\x7b" ++ String.ofList (Nat.toDigits 16 character.toNat) ++ "\x7d"

def escape (character : Char) : String :=
  if character = '\x00' then "\\0"
  else if character = '\t' then "\\t"
  else if character = '\n' then "\\n"
  else if character = '\r' then "\\r"
  else if character = '"' then "\\\""
  else if character = '\\' then "\\\\"
  else if isUnseen character then numericEscape character
  else character.toString

def quote (text : String) : String :=
  "\"" ++ String.join (text.toList.map escape) ++ "\""

/-- The quoted text as something found, or the word for nothing. -/
def quoteOption : Option String → String
  | some text => "Some(" ++ quote text ++ ")"
  | none => "None"

end TripleStore.Text
