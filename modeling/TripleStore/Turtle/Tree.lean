import TripleStore.Turtle.Token

/-!
Contract: tokens nested by their brackets.

Owns:
- trees of tokens, and the trees that a sequence of tokens makes up;
- how deeply nodes may be nested.

Does not own: what stands for what (`TripleStore.Turtle.Graph`).

After this, what a pair of brackets encloses is one tree, and every list of trees is
read from its start to its end.
-/

namespace TripleStore.Turtle

/-- A token that is no bracket, or what a pair of brackets encloses. -/
inductive Tree where
  | leaf (token : Token)
  | group (bracket : Bracket) (inside : List Tree)
deriving Repr

/-- A bracket that is still open: the trees before it, last one first. -/
structure OpenBracket where
  bracket : Bracket
  before : List Tree

def deepestNesting : Nat := 128

/-- Whether the brackets make a node of what they enclose. -/
def Bracket.makesNode : Bracket → Bool
  | list | properties | quotation => true
  | remark => false

def mayOpen (enclosing : List OpenBracket) (bracket : Bracket) : Bool :=
  !bracket.makesNode ||
    (enclosing.filter fun outer => outer.bracket.makesNode).length < deepestNesting

/-- The trees of the tokens, behind brackets that are open, innermost first, and behind
trees inside the innermost one, last one first. -/
def nest (enclosing : List OpenBracket) (before : List Tree) :
    List Token → Option (List Tree)
  | [] => if enclosing.isEmpty then some before.reverse else none
  | .opening bracket :: rest =>
      if mayOpen enclosing bracket then nest ({ bracket, before } :: enclosing) [] rest
      else none
  | .closing bracket :: rest =>
      match enclosing with
      | [] => none
      | innermost :: outer =>
          if innermost.bracket = bracket then
            nest outer (.group bracket before.reverse :: innermost.before) rest
          else
            none
  | token :: rest => nest enclosing (.leaf token :: before) rest

/-- The trees that the tokens make up, if every bracket has its partner and nodes are not
nested too deeply. -/
def trees (tokens : List Token) : Option (List Tree) :=
  nest [] [] tokens

end TripleStore.Turtle
