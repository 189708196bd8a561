import TripleStore.Query.Select
import TripleStore.Store.Select

/-!
Contract: patterns over terms as patterns over the identifiers of a store.

Owns: resolving the literals of a pattern, and the triples that then match.

Does not own: what a query shows of a match (`TripleStore.Query.Answer`).

Resolving never gives a term an identifier. A literal that the store does not know
is no error; it just matches nothing.
-/

namespace TripleStore.Query

inductive Plan where
  | along (ids : IdPattern)
  /-- The first literal that the store does not know. -/
  | nothing (shape : Shape) (unresolved : String)
deriving DecidableEq, Repr

/-- The identifier of the term in a slot, if it holds one, by the given look-up. The
error is a term that has no identifier. -/
def Slot.resolve {space : IdSpace} (lookup : String → Option (Id space)) (slot : Slot) :
    Except String (Option (Id space)) :=
  match slot.term? with
  | none => .ok none
  | some term =>
      match lookup term with
      | some id => .ok (some id)
      | none => .error term

def Pattern.resolve (store : Store) (pattern : Pattern) : Except String IdPattern := do
  let subject ← pattern.subject.resolve store.entityId?
  let predicate ← pattern.predicate.resolve store.predicateId?
  let object ← pattern.object.resolve store.entityId?
  return { subject, predicate, object }

namespace Plan

def build (store : Store) (pattern : Pattern) : Plan :=
  match pattern.resolve store with
  | .ok ids => along ids
  | .error unresolved => nothing pattern.shape unresolved

def shape : Plan → Shape
  | along ids => ⟨ids.subject.isSome, ids.predicate.isSome, ids.object.isSome⟩
  | nothing shape _ => shape

def run (store : Store) : Plan → List Triple
  | along ids => store.select ids
  | nothing _ _ => []

end Plan

end TripleStore.Query
