import Std.Data.ExtTreeMap

/-!
Contract: dense numbers for terms, in two separate number spaces.

Owns:
- the two spaces and the identifiers that live in them;
- the order on identifiers that keys the index maps;
- the marked text of an identifier.

Does not own: which term an identifier stands for (`TripleStore.Lexicon`).
-/

namespace TripleStore

/-- Subjects and objects are numbered together, predicates on their own. -/
inductive IdSpace where
  | entity
  | predicate
deriving DecidableEq, Repr

structure Id (space : IdSpace) where
  index : Nat
deriving DecidableEq, Repr

abbrev EntityId := Id .entity

abbrev PredicateId := Id .predicate

def IdSpace.mark : IdSpace → String
  | .entity => "#"
  | .predicate => ":"

namespace Id

variable {space : IdSpace}

/-- The marked number, such as `#3` for an entity and `:3` for a predicate. -/
def render (id : Id space) : String :=
  space.mark ++ toString id.index

instance : Ord (Id space) where
  compare left right := compare left.index right.index

instance : Std.TransOrd (Id space) where
  eq_swap := Std.OrientedOrd.eq_swap (α := Nat)
  isLE_trans := Std.TransOrd.isLE_trans (α := Nat)

instance : Std.LawfulEqOrd (Id space) where
  compare_self := Std.ReflOrd.compare_self (α := Nat)
  eq_of_compare {left right} same := by
    have sameIndex : left.index = right.index :=
      Std.LawfulEqOrd.eq_of_compare (α := Nat) same
    cases left
    cases right
    exact congrArg Id.mk sameIndex

end Id

end TripleStore
