import TripleStore.Rdf.Iri
import TripleStore.Rdf.Term
import TripleStore.Turtle.Lexer
import TripleStore.Turtle.Tree

/-!
Contract: the triples that a Turtle document states.

Owns:
- what names stand for at a place of a document;
- the labels of nameless nodes;
- the triples of a document in the order in which they are complete.

Does not own: tokens and brackets (`TripleStore.Turtle.Lexer`, `TripleStore.Turtle.Tree`).

A node that is described where it is used has its description before the triple that
uses it. A document is read as a whole or not at all.
-/

namespace TripleStore.Turtle

open TripleStore.Rdf (Term Reference)

/-! ## Names -/

structure Scope where
  base : Option Reference
  /-- The IRIs of abbreviations, the newest first. -/
  abbreviations : List (List Char × List Char)

namespace Scope

def start : Scope where
  base := none
  abbreviations := []

def iri? (scope : Scope) : Name → Option (List Char)
  | .reference text => Rdf.resolveIri? scope.base text
  | .abbreviated abbreviation localPart =>
      (scope.abbreviations.lookup abbreviation).map (· ++ localPart)

def tag? (scope : Scope) : Tag → Option Rdf.Tag
  | .plain => some .plain
  | .language tag => some (.language tag)
  | .datatype name => (scope.iri? name).map .datatype

end Scope

def vocabulary (name : String) : List Char :=
  ("http://www.w3.org/1999/02/22-rdf-syntax-ns#" ++ name).toList

/-! ## Labels -/

def labelStem : List Char := ['r', 'i', 'o', 'g']

def labelDigits : Nat := 8

/-- What sets a label of the document apart from the made-up one that it looks like. -/
def labelMark : Char := 'd'

def madeUpLabel (number : Nat) : List Char :=
  let digits := Nat.toDigits 10 number
  labelStem ++ List.replicate (labelDigits - digits.length) '0' ++ digits

def looksMadeUp (label : List Char) : Bool :=
  let digits := (label.drop labelStem.length).take labelDigits
  labelStem.isPrefixOf label && digits.length == labelDigits && digits.all Char.isDigit &&
    (label.drop (labelStem.length + labelDigits)).all (· == labelMark)

/-- The label that stands for a label of the document. It is never a made-up one. -/
def ownLabel (label : List Char) : List Char :=
  if looksMadeUp label then label ++ [labelMark] else label

/-- Reading that can fail and keeps count of made-up labels. -/
abbrev Building := StateT Nat Option

def freshNode : Building Term := fun count =>
  some (.blank (madeUpLabel (count + 1)), count + 1)

def found {α : Type} (result : Option α) : Building α := fun count =>
  result.map fun value => (value, count)

/-! ## Nodes and what is said of them -/

/-- The node that a token stands for. A nameless node with a comment between its brackets
is one only where comments are admitted there. -/
def leafNode (scope : Scope) (admitsComments : Bool) : Token → Building Term
  | .name name => found ((scope.iri? name).map .iri)
  | .label label => return .blank (ownLabel label)
  | .nameless isCommented =>
      if isCommented && !admitsComments then found none else freshNode
  | .literal lexical tag => found ((scope.tag? tag).map (.literal lexical))
  | _ => found none

def predicate (scope : Scope) : Token → Building (List Char)
  | .name name => found (scope.iri? name)
  | .typeWord => return vocabulary "type"
  | _ => found none

def notLiteral : Term → Building Term
  | .literal _ _ => found none
  | other => return other

mutual

def node (scope : Scope) : Tree → Building (Term × List Rdf.Triple)
  | .leaf token => do return (← leafNode scope false token, [])
  | .group .list items => cells scope items
  | .group .properties inside => do
      let subject ← freshNode
      return (subject, ← description scope subject true inside)
  | .group .quotation inside => do return (← quotedTriple scope inside, [])
  | .group .remark _ => found none

def cells (scope : Scope) : List Tree → Building (Term × List Rdf.Triple)
  | [] => return (.iri (vocabulary "nil"), [])
  | item :: rest => do
      let cell ← freshNode
      let (first, before) ← node scope item
      let (next, after) ← cells scope rest
      return (cell,
        before ++
          { subject := cell, predicate := vocabulary "first", object := first } ::
            { subject := cell, predicate := vocabulary "rest", object := next } :: after)

def quotedTriple (scope : Scope) : List Tree → Building Term
  | [subject, .leaf token, object] => do
      let subject ← notLiteral (← quotedNode scope subject)
      let predicate ← predicate scope token
      let object ← quotedNode scope object
      return .quoted subject predicate object
  | _ => found none

def quotedNode (scope : Scope) : Tree → Building Term
  | .leaf token => leafNode scope true token
  | .group .quotation inside => quotedTriple scope inside
  | .group _ _ => found none

/-- The triples that are said of a subject, from a predicate on. A lenient description
needs no sign between one predicate and the next. -/
def description (scope : Scope) (subject : Term) (isLenient : Bool) :
    List Tree → Building (List Rdf.Triple)
  | .leaf token :: rest => do
      objects scope subject isLenient (← predicate scope token) rest
  | _ => found none

def objects (scope : Scope) (subject : Term) (isLenient : Bool) (predicate : List Char) :
    List Tree → Building (List Rdf.Triple)
  | object :: .group .remark inside :: rest => do
      let (object, before) ← node scope object
      let about ← description scope (.quoted subject predicate object) false inside
      let others ← afterObject scope subject isLenient predicate rest
      return before ++ { subject, predicate, object } :: (about ++ others)
  | object :: rest => do
      let (object, before) ← node scope object
      let others ← afterObject scope subject isLenient predicate rest
      return before ++ { subject, predicate, object } :: others
  | [] => found none

def afterObject (scope : Scope) (subject : Term) (isLenient : Bool) (current : List Char) :
    List Tree → Building (List Rdf.Triple)
  | [] => return []
  | .leaf .comma :: rest => objects scope subject isLenient current rest
  | .leaf .semicolon :: rest => afterSemicolon scope subject isLenient rest
  | .leaf token :: rest =>
      if isLenient then do
        objects scope subject isLenient (← predicate scope token) rest
      else
        found none
  | _ => found none

/-- The triples that are said of a subject behind a semicolon, which may be the last or
one of several. -/
def afterSemicolon (scope : Scope) (subject : Term) (isLenient : Bool) :
    List Tree → Building (List Rdf.Triple)
  | [] => return []
  | .leaf .semicolon :: rest => afterSemicolon scope subject isLenient rest
  | .leaf token :: rest => do
      objects scope subject isLenient (← predicate scope token) rest
  | _ => found none

end

/-! ## Documents -/

/-- The triples of one statement without its dot. A description between brackets may be
all that it says. -/
def statement (scope : Scope) : List Tree → Building (List Rdf.Triple)
  | [.group .properties inside] => do return (← node scope (.group .properties inside)).2
  | subject :: rest => do
      let (subject, before) ← node scope subject
      let said ← description scope (← notLiteral subject) false rest
      return before ++ said
  | [] => found none

def isDot : Tree → Bool
  | .leaf .dot => true
  | _ => false

def Scope.abbreviate (scope : Scope) (abbreviation text : List Char) : Building Scope := do
  let iri ← found (scope.iri? (.reference text))
  return { scope with abbreviations := (abbreviation, iri) :: scope.abbreviations }

def Scope.rebase (scope : Scope) (text : List Char) : Building Scope := do
  let iri ← found (scope.iri? (.reference text))
  return { scope with base := some (.ofText iri) }

def statements (scope : Scope) : List Tree → Building (List Rdf.Triple)
  | [] => return []
  | .leaf (.directive .abbreviation true) :: .leaf (.name (.abbreviated abbreviation [])) ::
      .leaf (.name (.reference text)) :: .leaf .dot :: rest => do
      statements (← scope.abbreviate abbreviation text) rest
  | .leaf (.directive .abbreviation false) :: .leaf (.name (.abbreviated abbreviation [])) ::
      .leaf (.name (.reference text)) :: rest => do
      statements (← scope.abbreviate abbreviation text) rest
  | .leaf (.directive .base true) :: .leaf (.name (.reference text)) :: .leaf .dot :: rest => do
      statements (← scope.rebase text) rest
  | .leaf (.directive .base false) :: .leaf (.name (.reference text)) :: rest => do
      statements (← scope.rebase text) rest
  | first :: rest =>
      let said := (first :: rest).takeWhile (!isDot ·)
      match _rest : (first :: rest).drop said.length with
      | [] => found none
      | _ :: others => do
          let triples ← statement scope said
          return triples ++ (← statements scope others)
termination_by trees => trees.length
decreasing_by
  all_goals simp only [List.length_cons]
  all_goals try omega
  have shorter := congrArg List.length _rest
  simp only [List.length_drop, List.length_cons] at shorter
  omega

def triples? (input : Text.Scalars) : Option (List Rdf.Triple) := do
  let triples ← (statements .start (← trees (← tokens .start input))).run 0
  return triples.1

end TripleStore.Turtle
