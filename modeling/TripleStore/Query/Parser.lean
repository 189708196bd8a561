import TripleStore.Query.Lexer
import TripleStore.Query.Select

/-!
Contract: the sequences of tokens that are queries.

Owns: the grammar, and the first place at which a sequence leaves it.

    query      = SELECT [DISTINCT | ALL] projection WHERE '{' slot slot slot ['.'] '}'
                 modifier* end
    projection = '*' | variable (',' variable)*
    slot       = variable | literal
    modifier   = LIMIT number | OFFSET number | GROUP BY variable

Does not own: whether the variables of a query fit together
(`TripleStore.Query.Validity`).

Each part reads a piece of the sequence and leaves the rest. The end of input is a
token like the others and is never taken off.
-/

namespace TripleStore.Query

/-- The token that a sequence starts with, and the end of input if there is none. -/
def currentToken : List Token → Token
  | token :: _ => token
  | [] => { kind := .endOfInput, offset := 0 }

def refuse {α : Type} (expected : Expectation) (tokens : List Token) : Except ParseError α :=
  let found := currentToken tokens
  .error { cause := .unexpectedToken expected found.kind, offset := found.offset }

def expectKind (kind : TokenKind) (expected : Expectation) (tokens : List Token) :
    Except ParseError (List Token) :=
  match tokens with
  | token :: rest => if token.kind = kind then .ok rest else refuse expected tokens
  | [] => refuse expected tokens

def readVariable (expected : Expectation) :
    List Token → Except ParseError (Variable × List Token)
  | { kind := .variableName name, .. } :: rest => .ok ({ name }, rest)
  | tokens => refuse expected tokens

/-- Take off variables for as long as a comma comes before the next one. -/
def readMoreVariables : List Token → Except ParseError (List Variable × List Token)
  | { kind := .comma, .. } :: { kind := .variableName name, .. } :: rest => do
      let (others, remaining) ← readMoreVariables rest
      return ({ name } :: others, remaining)
  | { kind := .comma, .. } :: rest => refuse .variableAfterComma rest
  | tokens => .ok ([], tokens)

def readProjection : List Token → Except ParseError (Projection × List Token)
  | { kind := .star, .. } :: rest => .ok (.all, rest)
  | tokens => do
      let (first, afterFirst) ← readVariable .projection tokens
      let (others, remaining) ← readMoreVariables afterFirst
      return (.listed (first :: others), remaining)

def readSlot : List Token → Except ParseError (Slot × List Token)
  | { kind := .variableName name, .. } :: rest => .ok (.placeholder { name }, rest)
  | { kind := .literal content, .. } :: rest => .ok (.literal content, rest)
  | tokens => refuse .slot tokens

def skipDot : List Token → List Token
  | { kind := .dot, .. } :: rest => rest
  | tokens => tokens

def readWhere (tokens : List Token) : Except ParseError (Pattern × List Token) := do
  let afterWord ← expectKind (.keyword .WHERE) .whereClause tokens
  let afterBrace ← expectKind .leftBrace .openingBrace afterWord
  let (subject, afterSubject) ← readSlot afterBrace
  let (predicate, afterPredicate) ← readSlot afterSubject
  let (object, afterObject) ← readSlot afterPredicate
  let remaining ← expectKind .rightBrace .closingBrace (skipDot afterObject)
  return ({ subject, predicate, object }, remaining)

def readLeadingModifier : List Token → List Modifier × List Token
  | { kind := .keyword .DISTINCT, .. } :: rest => ([.distinct], rest)
  | { kind := .keyword .ALL, .. } :: rest => ([.all], rest)
  | tokens => ([], tokens)

def readModifiers : List Token → Except ParseError (List Modifier × List Token)
  | { kind := .keyword .LIMIT, .. } :: { kind := .number count, .. } :: rest => do
      let (modifiers, remaining) ← readModifiers rest
      return (.limit count :: modifiers, remaining)
  | { kind := .keyword .LIMIT, .. } :: rest => refuse .numberAfterLimit rest
  | { kind := .keyword .OFFSET, .. } :: { kind := .number count, .. } :: rest => do
      let (modifiers, remaining) ← readModifiers rest
      return (.offset count :: modifiers, remaining)
  | { kind := .keyword .OFFSET, .. } :: rest => refuse .numberAfterOffset rest
  | { kind := .keyword .GROUP, .. } :: { kind := .keyword .BY, .. } ::
      { kind := .variableName name, .. } :: rest => do
      let (modifiers, remaining) ← readModifiers rest
      return (.groupBy { name } :: modifiers, remaining)
  | { kind := .keyword .GROUP, .. } :: { kind := .keyword .BY, .. } :: rest =>
      refuse .variableAfterGroupBy rest
  | { kind := .keyword .GROUP, .. } :: rest => refuse .byAfterGroup rest
  | tokens => .ok ([], tokens)

def parseTokens (tokens : List Token) : Except ParseError SelectQuery := do
  let afterSelect ← expectKind (.keyword .SELECT) .selectKeyword tokens
  let (leading, afterLeading) := readLeadingModifier afterSelect
  let (projection, afterProjection) ← readProjection afterLeading
  let (pattern, afterPattern) ← readWhere afterProjection
  let (trailing, remaining) ← readModifiers afterPattern
  if (currentToken remaining).kind = .endOfInput then
    return { projection, pattern, modifiers := leading ++ trailing }
  else
    refuse .endOfQuery remaining

/-- The query that a text is. A place at which no token can start counts before any
place that does not fit the grammar. -/
def parse (text : String) : Except ParseError SelectQuery := do
  parseTokens (← tokenize text)

end TripleStore.Query
