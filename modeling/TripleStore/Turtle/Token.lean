/-!
Contract: the words and signs of a Turtle document.

Owns: names, tags of literals, brackets, and kinds of token.

Does not own: how tokens are spelled (`TripleStore.Turtle.Lexer`).
-/

namespace TripleStore.Turtle

inductive Name where
  | reference (text : List Char)
  | abbreviated (abbreviation localPart : List Char)
deriving DecidableEq, Repr

inductive Tag where
  | plain
  | language (tag : List Char)
  | datatype (name : Name)
deriving DecidableEq, Repr

inductive Bracket where
  | list
  | properties
  | quotation
  /-- Braces with bars, around what is said of the triple before them. -/
  | remark
deriving DecidableEq, Repr

inductive Directive where
  | abbreviation
  | base
deriving DecidableEq, Repr

inductive Token where
  | name (name : Name)
  | typeWord
  | label (text : List Char)
  /-- A blank node without a label. There may be a comment between its brackets. -/
  | nameless (isCommented : Bool)
  | literal (lexical : List Char) (tag : Tag)
  /-- The word of a directive. One kind of directive ends with a dot, the other does
  not. -/
  | directive (directive : Directive) (dotted : Bool)
  | opening (bracket : Bracket)
  | closing (bracket : Bracket)
  | dot
  | comma
  | semicolon
deriving DecidableEq, Repr

end TripleStore.Turtle
