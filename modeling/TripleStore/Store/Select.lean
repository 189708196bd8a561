import TripleStore.Store.Basic

/-!
Contract: the stored triples that match a pattern of identifiers.

Owns: one access path for each of the eight ways in which the roles of a pattern
can be bound or open.

Does not own: patterns over terms (`TripleStore.Query`).

Each path enters the index whose parent map starts with the bound roles, so it
touches matching triples only.
-/

namespace TripleStore.Store

def selectKey (store : Store) (key : Key) : List Triple :=
  (store.objects.value? key.subject key.predicate key.object).toList.map
    fun value => { key with value }

def selectSubjectPredicate
    (store : Store)
    (subject : EntityId)
    (predicate : PredicateId) :
    List Triple :=
  (store.objects.entries subject predicate).map
    fun (object, value) => { subject, predicate, object, value }

def selectSubjectObject (store : Store) (subject object : EntityId) : List Triple :=
  (store.predicates.entries subject object).map
    fun (predicate, value) => { subject, predicate, object, value }

def selectPredicateObject
    (store : Store)
    (predicate : PredicateId)
    (object : EntityId) :
    List Triple :=
  (store.subjects.entries predicate object).map
    fun (subject, value) => { subject, predicate, object, value }

def selectSubject (store : Store) (subject : EntityId) : List Triple :=
  (store.objects.entriesOfFirst subject).map
    fun (predicate, object, value) => { subject, predicate, object, value }

def selectPredicate (store : Store) (predicate : PredicateId) : List Triple :=
  (store.objects.entriesOfSecond predicate).map
    fun (subject, object, value) => { subject, predicate, object, value }

def selectObject (store : Store) (object : EntityId) : List Triple :=
  (store.subjects.entriesOfSecond object).map
    fun (predicate, subject, value) => { subject, predicate, object, value }

def triples (store : Store) : List Triple :=
  store.objects.firsts.flatMap store.selectSubject

/-- The stored triples that match the pattern, by the path that fits it. -/
def select (store : Store) : IdPattern → List Triple
  | ⟨some subject, some predicate, some object⟩ =>
      store.selectKey { subject, predicate, object }
  | ⟨some subject, some predicate, none⟩ => store.selectSubjectPredicate subject predicate
  | ⟨some subject, none, some object⟩ => store.selectSubjectObject subject object
  | ⟨some subject, none, none⟩ => store.selectSubject subject
  | ⟨none, some predicate, some object⟩ => store.selectPredicateObject predicate object
  | ⟨none, some predicate, none⟩ => store.selectPredicate predicate
  | ⟨none, none, some object⟩ => store.selectObject object
  | ⟨none, none, none⟩ => store.triples

end TripleStore.Store
