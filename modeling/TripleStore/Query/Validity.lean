import TripleStore.Query.Select

/-!
Contract: whether the variables of a query fit together.

Owns: the three faults, which of several is reported, and their wording.

Does not own: faults of the text of a query (`TripleStore.Query.ParseError`).

A valid query has at most one slot for each variable and a slot for each projected
one, so a match gives every column one term.
-/

namespace TripleStore.Query

/-- Why a query has no answer, whatever is stored. -/
inductive Invalidity where
  | repeatedProjection (name : Variable)
  | repeatedPlaceholder (name : Variable)
  | unboundProjection (name : Variable)
deriving DecidableEq, Repr

def Invalidity.message : Invalidity → String
  | repeatedProjection name => "duplicate projected variable " ++ name.text
  | repeatedPlaceholder name => "duplicate pattern variable " ++ name.text
  | unboundProjection name => "projected variable " ++ name.text ++ " not bound by pattern"

/-- The first element that equals one before it, or one in `seen`. -/
def firstRepeatAfter? {α : Type} [DecidableEq α] (seen : List α) : List α → Option α
  | [] => none
  | head :: tail => if head ∈ seen then some head else firstRepeatAfter? (head :: seen) tail

def firstRepeat? {α : Type} [DecidableEq α] (elements : List α) : Option α :=
  firstRepeatAfter? [] elements

namespace SelectQuery

def listedVariables (query : SelectQuery) : List Variable :=
  match query.projection with
  | .all => []
  | .listed chosen => chosen

/-- The fault of the query that is reported, if it has any. A repeated projection
counts before a repeated placeholder, and both before an unbound projection. -/
def invalidity? (query : SelectQuery) : Option Invalidity :=
  (firstRepeat? query.listedVariables).map .repeatedProjection <|>
    (firstRepeat? query.pattern.allVariables).map .repeatedPlaceholder <|>
      (query.listedVariables.find? (· ∉ query.pattern.allVariables)).map .unboundProjection

end SelectQuery

end TripleStore.Query
