import TripleStore.Triple

/-!
Contract: the operations that a trial performs.

Owns: operations, and patterns over terms.

Does not own: which operations a trial performs (`TripleStore.Trial.Generator`), and
what they do (`TripleStore.Trial.Simulation`).
-/

namespace TripleStore.Trial

structure TermPattern where
  subject : Option String
  predicate : Option String
  object : Option String
deriving DecidableEq, Repr

namespace TermPattern

def Matches (pattern : TermPattern) (record : Record) : Prop :=
  (∀ subject ∈ pattern.subject, record.subject = subject) ∧
    (∀ predicate ∈ pattern.predicate, record.predicate = predicate) ∧
      (∀ object ∈ pattern.object, record.object = object)

instance (pattern : TermPattern) (record : Record) : Decidable (pattern.Matches record) := by
  unfold Matches
  infer_instance

def openTerm (bound : Option String) (term : String) : List String :=
  if bound.isNone then [term] else []

/-- The terms of the record in the open places of the pattern. -/
def openTerms (pattern : TermPattern) (record : Record) : List String :=
  openTerm pattern.subject record.subject ++ openTerm pattern.predicate record.predicate ++
    openTerm pattern.object record.object

end TermPattern

inductive Operation where
  | add (record : Record) (value : String)
  | remove (record : Record)
  | query (pattern : TermPattern)
deriving DecidableEq, Repr

end TripleStore.Trial
