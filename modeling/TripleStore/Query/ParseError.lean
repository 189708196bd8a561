import TripleStore.Query.Token

/-!
Contract: why a text is not a query, and where.

Owns: the causes, lexical and grammatical, and the wording of each.

Does not own: deciding which cause a text gives rise to.
-/

namespace TripleStore.Query

inductive Expectation where
  | selectKeyword
  | projection
  | variableAfterComma
  | whereClause
  | openingBrace
  | slot
  | closingBrace
  | numberAfterLimit
  | numberAfterOffset
  | byAfterGroup
  | variableAfterGroupBy
  | endOfQuery
deriving DecidableEq, Repr

def Expectation.describe : Expectation → String
  | selectKeyword => "SELECT"
  | projection => "a variable or '*' after SELECT"
  | variableAfterComma => "a variable after ','"
  | whereClause => "WHERE clause"
  | openingBrace => "'\x7b' after WHERE"
  | slot => "a variable or quoted literal in the triple pattern"
  | closingBrace => "'\x7d' to close the WHERE clause"
  | numberAfterLimit => "a number after LIMIT"
  | numberAfterOffset => "a number after OFFSET"
  | byAfterGroup => "BY after GROUP"
  | variableAfterGroupBy => "a variable after GROUP BY"
  | endOfQuery => "end of query"

inductive ParseCause where
  | missingVariableName
  | unterminatedLiteral
  | unexpectedCharacter (character : Char)
  | unexpectedToken (expected : Expectation) (found : TokenKind)
deriving DecidableEq, Repr

def ParseCause.message : ParseCause → String
  | missingVariableName => "expected a variable name after '?'"
  | unterminatedLiteral => "unterminated string literal"
  | unexpectedCharacter character => "unexpected character '" ++ character.toString ++ "'"
  | unexpectedToken expected found =>
      "expected " ++ expected.describe ++ ", found " ++ found.describe

/-- A cause and the byte of the query at which it was found. -/
structure ParseError where
  cause : ParseCause
  offset : Nat
deriving DecidableEq, Repr

def ParseError.message (error : ParseError) : String :=
  "parse error at offset " ++ toString error.offset ++ ": " ++ error.cause.message

end TripleStore.Query
