import TripleStore.Triple

/-!
Contract: queries over one triple pattern.

Owns:
- variables, the slots of a pattern, what a query projects, and its modifiers;
- the text of a pattern and of a modifier.

Does not own: how a query is written, and what it answers.
-/

namespace TripleStore.Query

structure Variable where
  name : String
deriving DecidableEq, Repr

def Variable.text (wanted : Variable) : String :=
  "?" ++ wanted.name

inductive Slot where
  | placeholder (name : Variable)
  | literal (term : String)
deriving DecidableEq, Repr

namespace Slot

def placeholder? : Slot → Option Variable
  | placeholder name => some name
  | literal _ => none

def term? : Slot → Option String
  | placeholder _ => none
  | literal term => some term

def isBound (slot : Slot) : Bool :=
  slot.term?.isSome

def text : Slot → String
  | placeholder name => name.text
  | literal term => "'" ++ term ++ "'"

end Slot

structure Pattern where
  subject : Slot
  predicate : Slot
  object : Slot
deriving DecidableEq, Repr

namespace Pattern

def slots (pattern : Pattern) : List (Role × Slot) :=
  [(.subject, pattern.subject), (.predicate, pattern.predicate), (.object, pattern.object)]

def placeholders (pattern : Pattern) : List (Role × Variable) :=
  pattern.slots.filterMap fun (role, slot) => slot.placeholder?.map fun name => (role, name)

def allVariables (pattern : Pattern) : List Variable :=
  pattern.placeholders.map Prod.snd

def text (pattern : Pattern) : String :=
  "\x7b " ++ pattern.subject.text ++ " " ++ pattern.predicate.text ++ " " ++
    pattern.object.text ++ " \x7d"

end Pattern

structure Shape where
  subject : Bool
  predicate : Bool
  object : Bool
deriving DecidableEq, Repr

/-- The initials of the roles, with an `X` for each open slot. -/
def Shape.name (shape : Shape) : String :=
  (if shape.subject then "S" else "X") ++ (if shape.predicate then "P" else "X") ++
    (if shape.object then "O" else "X")

def Pattern.shape (pattern : Pattern) : Shape where
  subject := pattern.subject.isBound
  predicate := pattern.predicate.isBound
  object := pattern.object.isBound

inductive Projection where
  | all
  | listed (chosen : List Variable)
deriving DecidableEq, Repr

/-- A clause that the grammar admits and the answer does not depend on. -/
inductive Modifier where
  | distinct
  | all
  | limit (count : String)
  | offset (count : String)
  | groupBy (name : Variable)
deriving DecidableEq, Repr

def Modifier.text : Modifier → String
  | distinct => "DISTINCT"
  | all => "ALL"
  | limit count => "LIMIT " ++ count
  | offset count => "OFFSET " ++ count
  | groupBy name => "GROUP BY " ++ name.text

structure SelectQuery where
  projection : Projection
  pattern : Pattern
  modifiers : List Modifier
deriving DecidableEq, Repr

/-- The variables that the answer has columns for, in the order of the columns. -/
def SelectQuery.projected (query : SelectQuery) : List Variable :=
  match query.projection with
  | .all => query.pattern.allVariables
  | .listed chosen => chosen

end TripleStore.Query
