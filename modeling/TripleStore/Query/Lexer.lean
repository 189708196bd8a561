import TripleStore.Query.ParseError
import TripleStore.Text.Blank
import TripleStore.Text.Utf8

/-!
Contract: cutting the text of a query into tokens.

Owns:
- the spelling of each kind of token;
- the lexeme that a text begins with;
- the tokens of a whole text, or the first place at which none can start.

Does not own: which sequences of tokens are queries (`TripleStore.Query.Parser`).

Blanks separate tokens and are otherwise skipped. A word, a variable and a number
take as many characters as they can; a literal ends at the next quote of its own
kind and has no escapes.
-/

namespace TripleStore.Query

open TripleStore.Text (byteLength isBlank)

def isWordStart (character : Char) : Bool :=
  character.isAlpha || character == '_'

def isWordCharacter (character : Char) : Bool :=
  character.isAlphanum || character == '_'

def isQuote (character : Char) : Bool :=
  character == '\x27' || character == '"'

/-! ## Spellings

Each of these is the longest piece of its kind at the start of the characters, and
empty if they do not start with one. -/

def wordSpelling : List Char → List Char
  | [] => []
  | first :: rest =>
      if isWordStart first then first :: rest.takeWhile isWordCharacter else []

def digitSpelling (characters : List Char) : List Char :=
  characters.takeWhile Char.isDigit

def signSpelling : List Char → List Char
  | [] => []
  | first :: _ => if first == '-' || first == '+' then [first] else []

/-- Digits with at most one point among or before them, and none after them. -/
def mantissaSpelling (characters : List Char) : List Char :=
  let whole := digitSpelling characters
  match characters.drop whole.length with
  | '.' :: rest =>
      match digitSpelling rest with
      | [] => whole
      | fraction => whole ++ '.' :: fraction
  | _ => whole

def exponentSpelling : List Char → List Char
  | [] => []
  | first :: rest =>
      if first == 'e' || first == 'E' then
        let sign := signSpelling rest
        match digitSpelling (rest.drop sign.length) with
        | [] => []
        | digits => first :: (sign ++ digits)
      else
        []

def numberSpelling (characters : List Char) : List Char :=
  let sign := signSpelling characters
  let unsigned := characters.drop sign.length
  match mantissaSpelling unsigned with
  | [] => []
  | mantissa => sign ++ mantissa ++ exponentSpelling (unsigned.drop mantissa.length)

/-! ## Lexemes -/

structure Lexeme where
  kind : TokenKind
  spelling : List Char
  spelling_ne_nil : spelling ≠ [] := by simp

namespace Lexeme

def word? (characters : List Char) : Option Lexeme :=
  match wordSpelling characters with
  | [] => none
  | first :: rest =>
      match Keyword.ofWord? (first :: rest) with
      | some keyword => some { kind := .keyword keyword, spelling := first :: rest }
      | none => some { kind := .identifier (.ofList (first :: rest)), spelling := first :: rest }

def variableName? : List Char → Option Lexeme
  | '?' :: rest =>
      match wordSpelling rest with
      | [] => none
      | name => some { kind := .variableName (.ofList name), spelling := '?' :: name }
  | _ => none

def literal? : List Char → Option Lexeme
  | [] => none
  | quote :: rest =>
      let content := rest.takeWhile (· != quote)
      if isQuote quote && content.length < rest.length then
        some { kind := .literal (.ofList content), spelling := quote :: (content ++ [quote]) }
      else
        none

def number? (characters : List Char) : Option Lexeme :=
  match numberSpelling characters with
  | [] => none
  | first :: rest => some { kind := .number (.ofList (first :: rest)), spelling := first :: rest }

/-- An operator, two characters long where it can be. -/
def operator? : List Char → Option Lexeme
  | '<' :: '>' :: _ => some { kind := .operator .unequal, spelling := ['<', '>'] }
  | '<' :: '=' :: _ => some { kind := .operator .atMost, spelling := ['<', '='] }
  | '>' :: '=' :: _ => some { kind := .operator .atLeast, spelling := ['>', '='] }
  | '!' :: '=' :: _ => some { kind := .operator .different, spelling := ['!', '='] }
  | '<' :: _ => some { kind := .operator .less, spelling := ['<'] }
  | '>' :: _ => some { kind := .operator .greater, spelling := ['>'] }
  | '-' :: _ => some { kind := .operator .minus, spelling := ['-'] }
  | '+' :: _ => some { kind := .operator .plus, spelling := ['+'] }
  | '/' :: _ => some { kind := .operator .slash, spelling := ['/'] }
  | '%' :: _ => some { kind := .operator .percent, spelling := ['%'] }
  | '=' :: _ => some { kind := .operator .equal, spelling := ['='] }
  | '|' :: _ => some { kind := .operator .bar, spelling := ['|'] }
  | _ => none

def punctuation? : List Char → Option Lexeme
  | ',' :: _ => some { kind := .comma, spelling := [','] }
  | '.' :: _ => some { kind := .dot, spelling := ['.'] }
  | '*' :: _ => some { kind := .star, spelling := ['*'] }
  | '{' :: _ => some { kind := .leftBrace, spelling := ['{'] }
  | '}' :: _ => some { kind := .rightBrace, spelling := ['}'] }
  | '(' :: _ => some { kind := .leftParenthesis, spelling := ['('] }
  | ')' :: _ => some { kind := .rightParenthesis, spelling := [')'] }
  | _ => none

/-- The lexeme that the characters begin with. A number comes before operators and
punctuation, so `-2` and `.5` are numbers. -/
def first? (characters : List Char) : Option Lexeme :=
  word? characters <|> variableName? characters <|> literal? characters <|>
    number? characters <|> operator? characters <|> punctuation? characters

end Lexeme

/-! ## Tokens -/

def lexicalCause (first : Char) : ParseCause :=
  if first == '?' then
    .missingVariableName
  else if isQuote first then
    .unterminatedLiteral
  else
    .unexpectedCharacter first

/-- The tokens of the characters, the first of which is at byte `offset`. The last
token is the end of input. -/
def tokensFrom (offset : Nat) (characters : List Char) : Except ParseError (List Token) :=
  let start := offset + byteLength (characters.takeWhile isBlank)
  match _rest : characters.dropWhile isBlank with
  | [] => .ok [{ kind := .endOfInput, offset := start }]
  | first :: rest =>
      match Lexeme.first? (first :: rest) with
      | none => .error { cause := lexicalCause first, offset := start }
      | some lexeme => do
          let tokens ←
            tokensFrom (start + byteLength lexeme.spelling)
              ((first :: rest).drop lexeme.spelling.length)
          return { kind := lexeme.kind, offset := start } :: tokens
termination_by characters.length
decreasing_by
  have spelled := List.length_pos_iff.mpr lexeme.spelling_ne_nil
  have skipped := (List.dropWhile_suffix (l := characters) isBlank).length_le
  rw [_rest] at skipped
  simp only [List.length_drop]
  simp only [List.length_cons] at skipped ⊢
  omega

def tokenize (text : String) : Except ParseError (List Token) :=
  tokensFrom 0 text.toList

end TripleStore.Query
