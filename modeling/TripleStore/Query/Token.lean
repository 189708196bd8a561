/-!
Contract: the words and signs that a query is written with.

Owns:
- reserved words and how they are recognised;
- operators, kinds of token, and tokens with the place at which they start;
- the words by which an error message names a kind of token.

Does not own: cutting text into tokens (`TripleStore.Query.Lexer`).
-/

namespace TripleStore.Query

inductive Keyword where
  | SELECT
  | FROM
  | DISTINCT
  | ALL
  | WHERE
  | GROUP
  | BY
  | MINUS
  | EXCEPT
  | INTERSECT
  | ORDER
  | LIMIT
  | OFFSET
  | TRUE
  | FALSE
  | NULL
  | IS
  | NOT
  | ANY
  | BETWEEN
  | AND
  | OR
  | LIKE
  | AS
  | IN
deriving DecidableEq, Repr

namespace Keyword

def all : List Keyword :=
  [SELECT, FROM, DISTINCT, ALL, WHERE, GROUP, BY, MINUS, EXCEPT, INTERSECT, ORDER, LIMIT,
    OFFSET, TRUE, FALSE, NULL, IS, NOT, ANY, BETWEEN, AND, OR, LIKE, AS, IN]

def text : Keyword → String
  | SELECT => "SELECT"
  | FROM => "FROM"
  | DISTINCT => "DISTINCT"
  | ALL => "ALL"
  | WHERE => "WHERE"
  | GROUP => "GROUP"
  | BY => "BY"
  | MINUS => "MINUS"
  | EXCEPT => "EXCEPT"
  | INTERSECT => "INTERSECT"
  | ORDER => "ORDER"
  | LIMIT => "LIMIT"
  | OFFSET => "OFFSET"
  | TRUE => "TRUE"
  | FALSE => "FALSE"
  | NULL => "NULL"
  | IS => "IS"
  | NOT => "NOT"
  | ANY => "ANY"
  | BETWEEN => "BETWEEN"
  | AND => "AND"
  | OR => "OR"
  | LIKE => "LIKE"
  | AS => "AS"
  | IN => "IN"

def Spells (keyword : Keyword) (word : List Char) : Prop :=
  word.map Char.toUpper = keyword.text.toList

instance (keyword : Keyword) (word : List Char) : Decidable (keyword.Spells word) := by
  unfold Spells
  infer_instance

/-- The reserved word that the letters spell, in any mix of capital and small. -/
def ofWord? (word : List Char) : Option Keyword :=
  all.find? fun keyword => decide (keyword.Spells word)

theorem mem_all (keyword : Keyword) : keyword ∈ all := by
  cases keyword <;> decide

end Keyword

/-- The operators. The grammar has no place for them, so a query that holds one is
refused, and the message names it. -/
inductive Operator where
  | unequal
  | atMost
  | atLeast
  | different
  | less
  | greater
  | minus
  | plus
  | slash
  | percent
  | equal
  | bar
deriving DecidableEq, Repr

namespace Operator

/-- All operators, the longer ones first. -/
def all : List Operator :=
  [unequal, atMost, atLeast, different, less, greater, minus, plus, slash, percent, equal, bar]

def text : Operator → String
  | unequal => "<>"
  | atMost => "<="
  | atLeast => ">="
  | different => "!="
  | less => "<"
  | greater => ">"
  | minus => "-"
  | plus => "+"
  | slash => "/"
  | percent => "%"
  | equal => "="
  | bar => "|"

theorem mem_all (operator : Operator) : operator ∈ all := by
  cases operator <;> decide

end Operator

inductive TokenKind where
  | keyword (word : Keyword)
  | identifier (name : String)
  | variableName (name : String)
  | number (text : String)
  | literal (content : String)
  | comma
  | dot
  | star
  | leftBrace
  | rightBrace
  | leftParenthesis
  | rightParenthesis
  | operator (sign : Operator)
  | endOfInput
deriving DecidableEq, Repr

def TokenKind.describe : TokenKind → String
  | keyword word => "keyword " ++ word.text
  | identifier name => "identifier '" ++ name ++ "'"
  | variableName name => "variable ?" ++ name
  | number text => "number " ++ text
  | literal content => "string '" ++ content ++ "'"
  | comma => "','"
  | dot => "'.'"
  | star => "'*'"
  | leftBrace => "'\x7b'"
  | rightBrace => "'\x7d'"
  | leftParenthesis => "'('"
  | rightParenthesis => "')'"
  | operator sign => "operator '" ++ sign.text ++ "'"
  | endOfInput => "end of input"

structure Token where
  kind : TokenKind
  offset : Nat
deriving DecidableEq, Repr

end TripleStore.Query
