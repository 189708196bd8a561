import TripleStore.Rdf.LanguageTag
import TripleStore.Turtle.Name
import TripleStore.Turtle.Place
import TripleStore.Turtle.Token

/-!
Contract: cutting a Turtle document into tokens.

Owns:
- white space and comments;
- the spelling of references, strings, numbers and all other tokens.

Does not own: which sequences of tokens are documents (`TripleStore.Turtle.Graph`).

A literal is one token with its language or datatype, which may stand apart from it. A
byte that is part of no character may stand in a comment, and one such byte in a local
name, but none anywhere else.
-/

namespace TripleStore.Turtle

open TripleStore.Text (Scalar Scalars hexValue? isDigit leadingDigits)

/-! ## White space -/

def isWhite (scalar : Scalar) : Bool :=
  scalar == .char ' ' || scalar == .char '\t' || scalar == .char '\n' || scalar == .char '\r'

def endsLine (scalar : Scalar) : Bool :=
  scalar == .char '\n' || scalar == .char '\r'

/-- The text behind the white space and comments that it starts with. -/
def skipSpace : Scalars → Scalars
  | [] => []
  | first :: rest =>
      if isWhite first then skipSpace rest
      else if first = .char '#' then skipSpace (rest.dropWhile (!endsLine ·))
      else first :: rest
termination_by input => input.length
decreasing_by
  · simp
  · have shorter := (List.dropWhile_suffix (l := rest) (!endsLine ·)).length_le
    simp only [List.length_cons]
    omega

theorem length_skipSpace_le (input : Scalars) : (skipSpace input).length ≤ input.length := by
  fun_induction skipSpace input with
  | case1 => exact Nat.le_refl _
  | case2 first rest _ inductionHypothesis =>
    simp only [List.length_cons]
    omega
  | case3 rest _ inductionHypothesis =>
    have shorter := (List.dropWhile_suffix (l := rest) (!endsLine ·)).length_le
    simp only [List.length_cons]
    omega
  | case4 => exact Nat.le_refl _

def spacePlaces (input : Scalars) : Nat :=
  input.length - (skipSpace input).length

/-! ## Escapes, references and strings -/

def characterOf? (number : Nat) : Option Char :=
  if number.isValidChar then some (.ofNat number) else none

def numericEscape : Scalars → Option (Piece Char)
  | .char 'u' :: rest =>
      if (rest.take 4).length = 4 then
        ((hexValue? (rest.take 4)).bind characterOf?).map fun value => { value, places := 5 }
      else
        none
  | .char 'U' :: rest =>
      if (rest.take 8).length = 8 then
        ((hexValue? (rest.take 8)).bind characterOf?).map fun value => { value, places := 9 }
      else
        none
  | _ => none

def letterEscape? : Char → Option Char
  | 't' => some '\t'
  | 'b' => some '\x08'
  | 'n' => some '\n'
  | 'r' => some '\r'
  | 'f' => some '\x0c'
  | '"' => some '"'
  | '\x27' => some '\x27'
  | '\\' => some '\\'
  | _ => none

def stringEscape (input : Scalars) : Option (Piece Char) :=
  match input with
  | .char letter :: _ =>
      match letterEscape? letter with
      | some value => some { value, places := 1 }
      | none => numericEscape input
  | _ => none

/-- Characters that stand in no reference as they are. -/
def isReferenceCharacter (character : Char) : Bool :=
  0x20 < character.toNat &&
    !(['<', '>', '"', '{', '}', '|', '^', '`', '\\'].contains character)

def referenceBody : Scalars → Option (Piece (List Char))
  | .char '>' :: _ => some { value := [], places := 1 }
  | .char '\\' :: rest =>
      match numericEscape rest with
      | some escape =>
          (referenceBody (rest.drop escape.places)).map
            (·.extend [escape.value] (escape.places + 1))
      | none => none
  | .char character :: rest =>
      if isReferenceCharacter character then
        (referenceBody rest).map (·.extend [character] 1)
      else
        none
  | _ => none
termination_by input => input.length
decreasing_by
  all_goals
    simp only [List.length_drop, List.length_cons]
    omega

/-- A string behind its opening quotes, with the closing ones. A long string has three
quotes at either end, and may hold line ends and fewer quotes. -/
def stringBody (quote : Char) (isLong : Bool) : Scalars → Option (Piece (List Char))
  | .char character :: rest =>
      if character = quote ∧ (!isLong ∨ rest.take 2 = [.char quote, .char quote]) then
        some { value := [], places := if isLong then 3 else 1 }
      else if character = '\\' then
        match stringEscape rest with
        | some escape =>
            (stringBody quote isLong (rest.drop escape.places)).map
              (·.extend [escape.value] (escape.places + 1))
        | none => none
      else if !isLong ∧ endsLine (.char character) then
        none
      else
        (stringBody quote isLong rest).map (·.extend [character] 1)
  | _ => none
termination_by input => input.length
decreasing_by
  all_goals
    simp only [List.length_drop, List.length_cons]
    omega

def quotedString (quote : Char) (rest : Scalars) : Option (Piece (List Char)) :=
  if rest.take 2 = [.char quote, .char quote] then
    (stringBody quote true (rest.drop 2)).map (·.extend [] 2)
  else
    stringBody quote false rest

/-! ## Names of IRIs -/

def abbreviatedName (input : Scalars) : Option (Piece Name) :=
  let abbreviation := nameAt isLetter input
  match input.drop abbreviation.length with
  | .char ':' :: rest =>
      (localName rest).map (·.convert (.abbreviated abbreviation) (abbreviation.length + 1))
  | _ => none

def iriName : Scalars → Option (Piece Name)
  | .char '<' :: rest => (referenceBody rest).map (·.convert .reference 1)
  | input => abbreviatedName input

/-! ## Literals -/

def isTagCharacter (scalar : Scalar) : Bool :=
  scalar.holds fun character => character.isAlphanum || character == '-'

def languageTag (input : Scalars) : Option (Piece Tag) :=
  let written := (input.takeWhile isTagCharacter).filterMap Scalar.char?
  let tag := written.map Char.toLower
  if Rdf.LanguageTag.isWellFormed tag then
    some { value := .language tag, places := written.length }
  else
    none

def literalTag (input : Scalars) : Option (Piece Tag) :=
  match skipSpace input with
  | .char '@' :: rest => (languageTag rest).map (·.convert id (spacePlaces input + 1))
  | .char '^' :: .char '^' :: rest =>
      (iriName (skipSpace rest)).map
        (·.convert .datatype (spacePlaces input + 2 + spacePlaces rest))
  | .char '^' :: _ => none
  | _ => some { value := .plain, places := 0 }

def quotedLiteral (quote : Char) (rest : Scalars) : Option (Piece Token) :=
  match quotedString quote rest with
  | some string =>
      (literalTag (rest.drop string.places)).map
        (·.convert (.literal string.value) string.places)
  | none => none

def schemaType (name : String) : Tag :=
  .datatype (.reference ("http://www.w3.org/2001/XMLSchema#" ++ name).toList)

def signSpelling : Scalars → List Char
  | .char '+' :: _ => ['+']
  | .char '-' :: _ => ['-']
  | _ => []

/-- A point and the digits behind it, if a digit or an exponent follows the point. -/
def fractionSpelling : Scalars → List Char
  | .char '.' :: .char next :: rest =>
      if next.isDigit || next == 'e' || next == 'E' then
        '.' :: leadingDigits (.char next :: rest)
      else
        []
  | _ => []

/-- An exponent, which needs digits, or nothing if there is no letter for one. -/
def exponentSpelling : Scalars → Option (List Char)
  | .char letter :: rest =>
      if letter = 'e' ∨ letter = 'E' then
        let sign := signSpelling rest
        match leadingDigits (rest.drop sign.length) with
        | [] => none
        | digits => some (letter :: (sign ++ digits))
      else
        some []
  | _ => some []

def numberType (whole fraction exponent : List Char) : Option Tag :=
  if whole = [] ∧ fraction.length < 2 then none
  else if exponent ≠ [] then some (schemaType "double")
  else if fraction ≠ [] then some (schemaType "decimal")
  else some (schemaType "integer")

def numericLiteral (input : Scalars) : Option (Piece Token) := do
  let sign := signSpelling input
  let afterSign := input.drop sign.length
  let whole := leadingDigits afterSign
  let afterWhole := afterSign.drop whole.length
  let fraction := fractionSpelling afterWhole
  let exponent ← exponentSpelling (afterWhole.drop fraction.length)
  let tag ← numberType whole fraction exponent
  let spelling := sign ++ whole ++ fraction ++ exponent
  return { value := .literal spelling tag, places := spelling.length }

/-! ## Words -/

def startsWithWord (word : List Char) (input : Scalars) : Bool :=
  (input.take word.length).map (·.char?.map Char.toLower) == word.map some

def endsWord (word : List Char) (input : Scalars) : Bool :=
  match input.drop word.length with
  | .char next :: _ => next.toNat < 0x80 && !isNameCharacter next && next != ':'
  | _ => true

/-- Whether the character may stand right behind the word of a directive without a
sign. A reference may, where nothing else has to come between. -/
def endsDirective (directive : Directive) (scalar : Scalar) : Bool :=
  isWhite scalar || (directive == .base && scalar == .char '<')

def directiveWords : List (Directive × List Char) :=
  [(.abbreviation, ['p', 'r', 'e', 'f', 'i', 'x']), (.base, ['b', 'a', 's', 'e'])]

def bareDirective (input : Scalars) : Option (Piece Token) :=
  (directiveWords.find? fun (directive, word) =>
    startsWithWord word input &&
      (input.drop word.length).head?.all (endsDirective directive)).map
      fun (directive, word) => { value := .directive directive false, places := word.length }

def signedDirective (rest : Scalars) : Option (Piece Token) :=
  (directiveWords.find? fun (_, word) => (word.map .char).isPrefixOf rest).map
    fun (directive, word) => { value := .directive directive true, places := word.length + 1 }

def truthWords : List (List Char) :=
  [['t', 'r', 'u', 'e'], ['f', 'a', 'l', 's', 'e']]

def truthLiteral (input : Scalars) : Option (Piece Token) :=
  (truthWords.find? fun word => (word.map .char).isPrefixOf input && endsWord word input).map
    fun word => { value := .literal word (schemaType "boolean"), places := word.length }

/-- A directive, a truth value, an abbreviated name, or the word for the type. The word of
a truth value may start an abbreviation where no literal may stand. -/
def word (place : Place) (input : Scalars) : Option (Piece Token) :=
  bareDirective input <|> (if place.admitsLiteral then truthLiteral input else none) <|>
    (abbreviatedName input).map (·.convert .name 0) <|>
      if nameAt isLetter input = ['a'] then some { value := .typeWord, places := 1 } else none

/-! ## Tokens -/

/-- The token that a text without white space at its start begins with. -/
def token (place : Place) (input : Scalars) : Option (Piece Token) :=
  match input with
  | .char '<' :: .char '<' :: _ => some { value := .opening .quotation, places := 2 }
  | .char '>' :: .char '>' :: _ => some { value := .closing .quotation, places := 2 }
  | .char '{' :: .char '|' :: _ => some { value := .opening .remark, places := 2 }
  | .char '|' :: .char '}' :: _ => some { value := .closing .remark, places := 2 }
  | .char '<' :: _ => (iriName input).map (·.convert .name 0)
  | .char '[' :: rest =>
      match skipSpace rest with
      | .char ']' :: _ =>
          let isCommented := (rest.dropWhile isWhite).head? != some (.char ']')
          some { value := .nameless isCommented, places := spacePlaces rest + 2 }
      | _ => some { value := .opening .properties, places := 1 }
  | .char ']' :: _ => some { value := .closing .properties, places := 1 }
  | .char '(' :: _ => some { value := .opening .list, places := 1 }
  | .char ')' :: _ => some { value := .closing .list, places := 1 }
  | .char ',' :: _ => some { value := .comma, places := 1 }
  | .char ';' :: _ => some { value := .semicolon, places := 1 }
  | .char '_' :: .char ':' :: rest =>
      match nameAt (fun character => isNameStart character || character.isDigit) rest with
      | [] => none
      | text => some { value := .label text, places := text.length + 2 }
  | .char '@' :: rest => signedDirective rest
  | .char '"' :: rest => (quotedLiteral '"' rest).map (·.convert id 1)
  | .char '\x27' :: rest => (quotedLiteral '\x27' rest).map (·.convert id 1)
  | .char '.' :: rest =>
      if rest.head?.any isDigit then numericLiteral input else some { value := .dot, places := 1 }
  | .char character :: _ =>
      if character.isDigit || character == '+' || character == '-' then
        numericLiteral input
      else
        word place input
  | _ => none

def tokens (place : Place) (input : Scalars) : Option (List Token) :=
  match _start : skipSpace input with
  | [] => some []
  | first :: rest =>
      match token place (first :: rest) with
      | none => none
      | some piece =>
          (tokens (place.after piece.value) (rest.drop (piece.places - 1))).map
            (piece.value :: ·)
termination_by input.length
decreasing_by
  have skipped := length_skipSpace_le input
  rw [_start] at skipped
  simp only [List.length_cons] at skipped
  simp only [List.length_drop]
  omega

end TripleStore.Turtle
