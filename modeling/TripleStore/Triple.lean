import TripleStore.Id

/-!
Contract: triples as the store keeps them and as files and operations name them.

Owns:
- `Key`, the three identifiers of a triple, and `Triple`, a key with its payload;
- `Record`, a triple named by its three terms, and the order on records;
- `IdPattern`, a key some of whose roles are left open.

Does not own: how terms become identifiers.
-/

namespace TripleStore

inductive Role where
  | subject
  | predicate
  | object
deriving DecidableEq, Repr

def Role.name : Role → String
  | .subject => "subject"
  | .predicate => "predicate"
  | .object => "object"

structure Key where
  subject : EntityId
  predicate : PredicateId
  object : EntityId
deriving DecidableEq, Repr

/-- A key with the payload stored under it. -/
structure Triple extends Key where
  value : String
deriving DecidableEq, Repr

/-- A triple named by terms, as data files and operations name it. -/
structure Record where
  subject : String
  predicate : String
  object : String
deriving DecidableEq, Repr

namespace Record

instance : Ord Record where
  compare :=
    compareLex (compareOn Record.subject)
      (compareLex (compareOn Record.predicate) (compareOn Record.object))

instance : Std.TransOrd Record :=
  inferInstanceAs (Std.TransCmp (compareLex (compareOn Record.subject)
    (compareLex (compareOn Record.predicate) (compareOn Record.object))))

instance : Std.LawfulEqOrd Record where
  eq_of_compare {left right} same := by
    obtain ⟨subjects, rest⟩ := Ordering.then_eq_eq.mp same
    obtain ⟨predicates, objects⟩ := Ordering.then_eq_eq.mp rest
    have sameSubject := Std.LawfulEqOrd.eq_of_compare subjects
    have samePredicate := Std.LawfulEqOrd.eq_of_compare predicates
    have sameObject := Std.LawfulEqOrd.eq_of_compare objects
    cases left
    cases right
    simp_all

end Record

structure IdPattern where
  subject : Option EntityId
  predicate : Option PredicateId
  object : Option EntityId
deriving DecidableEq, Repr

namespace IdPattern

def Matches (pattern : IdPattern) (key : Key) : Prop :=
  (∀ subject ∈ pattern.subject, key.subject = subject) ∧
    (∀ predicate ∈ pattern.predicate, key.predicate = predicate) ∧
      (∀ object ∈ pattern.object, key.object = object)

instance (pattern : IdPattern) (key : Key) : Decidable (pattern.Matches key) := by
  unfold Matches
  infer_instance

end IdPattern

end TripleStore
