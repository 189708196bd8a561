import TripleStore.Turtle.Token

/-!
Contract: what a Turtle document can go on with at a place.

Owns:
- the parts of statements, and the part that comes behind each token;
- the places where a literal may stand.

Does not own: which statements are well formed (`TripleStore.Turtle.Graph`).

Where a document is well formed so far, its next node is the part that the place tells.
Where it is not, it is refused as a whole, and the place does not matter.
-/

namespace TripleStore.Turtle

/-- What the next node or name of a document is. -/
inductive Part where
  | subject
  | predicate
  | object
  | item
  | abbreviation
  | reference
deriving DecidableEq, Repr

def Part.next : Part → Part
  | subject => predicate
  | predicate => object
  | object => predicate
  | item => item
  | abbreviation => reference
  | reference => subject

def Directive.firstPart : Directive → Part
  | abbreviation => .abbreviation
  | base => .reference

def Bracket.firstPart : Bracket → Part
  | list => .item
  | properties => .predicate
  | quotation => .subject
  | remark => .predicate

/-- The part behind the closing bracket, where the opening one stands before a part. What
is enclosed is a node, or else it changes nothing. -/
def Bracket.partBehind (bracket : Bracket) (part : Part) : Part :=
  match bracket with
  | remark => part
  | _ => part.next

structure Place where
  part : Part
  /-- The parts behind the brackets that are still open, innermost first. -/
  behind : List Part
deriving DecidableEq, Repr

namespace Place

def start : Place where
  part := .subject
  behind := []

def leave (place : Place) : Place :=
  match place.behind with
  | part :: behind => { part, behind }
  | [] => place

def after (place : Place) : Token → Place
  | .directive directive _ => { place with part := directive.firstPart }
  | .opening bracket =>
      { part := bracket.firstPart, behind := bracket.partBehind place.part :: place.behind }
  | .closing _ => place.leave
  | .dot => { place with part := .subject }
  | .comma => { place with part := .object }
  | .semicolon => { place with part := .predicate }
  | _ => { place with part := place.part.next }

def admitsLiteral (place : Place) : Bool :=
  place.part == .object || place.part == .item

/-- What a pair of brackets encloses does not matter behind it. -/
@[simp] theorem leave_after_opening (place : Place) (bracket : Bracket) :
    (place.after (.opening bracket)).leave =
      { place with part := bracket.partBehind place.part } := rfl

end Place

end TripleStore.Turtle
