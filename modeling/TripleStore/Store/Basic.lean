import TripleStore.Lexicon
import TripleStore.PairIndex
import TripleStore.RoleOrder
import TripleStore.Triple

/-!
Contract: the store of triples, reachable by all six role orders.

Owns:
- the two lexicons, the three pair indexes and the number of stored triples;
- writing and erasing triples, given by identifiers or by terms;
- walking one role order to a payload, and the text of a key.

Does not own: listing the triples that match a pattern (`TripleStore.Store.Select`).

Each pair index serves two role orders. A write goes to all three indexes, so a
triple is found along every order or along none.
-/

namespace TripleStore

structure Store where
  /-- Objects below subject and predicate: the orders SPO and PSO. -/
  objects : PairIndex .entity .predicate .entity
  /-- Predicates below subject and object: the orders SOP and OSP. -/
  predicates : PairIndex .entity .entity .predicate
  /-- Subjects below predicate and object: the orders POS and OPS. -/
  subjects : PairIndex .predicate .entity .entity
  entityTerms : Lexicon .entity
  predicateTerms : Lexicon .predicate
  tripleCount : Nat

namespace Store

def empty : Store where
  objects := .empty
  predicates := .empty
  subjects := .empty
  entityTerms := .empty
  predicateTerms := .empty
  tripleCount := 0

def size (store : Store) : Nat :=
  store.tripleCount

def isEmpty (store : Store) : Bool :=
  store.tripleCount == 0

/-! ## Identifiers and terms -/

def entityId? (store : Store) (term : String) : Option EntityId :=
  store.entityTerms.id? term

def predicateId? (store : Store) (term : String) : Option PredicateId :=
  store.predicateTerms.id? term

def entity? (store : Store) (id : EntityId) : Option String :=
  store.entityTerms.term? id

def predicate? (store : Store) (id : PredicateId) : Option String :=
  store.predicateTerms.term? id

def key? (store : Store) (record : Record) : Option Key := do
  let subject ← store.entityId? record.subject
  let predicate ← store.predicateId? record.predicate
  let object ← store.entityId? record.object
  return { subject, predicate, object }

/-- The term that a key holds in a role, empty if the identifier stands for none. -/
def termOf (store : Store) (key : Key) : Role → String
  | .subject => (store.entity? key.subject).getD ""
  | .predicate => (store.predicate? key.predicate).getD ""
  | .object => (store.entity? key.object).getD ""

def record (store : Store) (key : Key) : Record where
  subject := store.termOf key .subject
  predicate := store.termOf key .predicate
  object := store.termOf key .object

def describe (store : Store) (key : Key) : String :=
  store.termOf key .subject ++ " -> " ++ store.termOf key .predicate ++ " -> " ++
    store.termOf key .object

/-! ## Writing -/

/-- Store a triple, in place of the payload that its key has. Identifiers that
stand for no term are stored like any other. -/
def insert (store : Store) (triple : Triple) : Store :=
  let { subject, predicate, object, value } := triple
  let isNew := (store.objects.value? subject predicate object).isNone
  { store with
    objects := store.objects.insert subject predicate object value
    predicates := store.predicates.insert subject object predicate value
    subjects := store.subjects.insert predicate object subject value
    tripleCount := if isNew then store.tripleCount + 1 else store.tripleCount }

/-- Give every term of the record an identifier, the subject before the object. -/
def intern (store : Store) (record : Record) : Key × Store :=
  let (subject, withSubject) := store.entityTerms.intern record.subject
  let (predicate, predicateTerms) := store.predicateTerms.intern record.predicate
  let (object, entityTerms) := withSubject.intern record.object
  ({ subject, predicate, object }, { store with entityTerms, predicateTerms })

/-- Store a record with a payload. The result is the triple that was stored and
the store that has it. -/
def insertRecord (store : Store) (record : Record) (value : String) : Triple × Store :=
  let (key, interned) := store.intern record
  let triple : Triple := { key with value }
  (triple, interned.insert triple)

/-- Erase the triple with this key. The first result says whether there was one;
if not, nothing changes. -/
def erase (store : Store) (key : Key) : Bool × Store :=
  if (store.objects.value? key.subject key.predicate key.object).isNone then
    (false, store)
  else
    (true,
      { store with
        objects := store.objects.erase key.subject key.predicate key.object
        predicates := store.predicates.erase key.subject key.object key.predicate
        subjects := store.subjects.erase key.predicate key.object key.subject
        tripleCount := store.tripleCount - 1 })

/-- Erase the triple of a record. A record with an unknown term is not stored. -/
def eraseRecord (store : Store) (record : Record) : Bool × Store :=
  match store.key? record with
  | some key => store.erase key
  | none => (false, store)

/-- The payload of triples that come from files, which carry none. -/
def filePayload : String := "xxxx"

def ofRecords (records : List Record) : Store :=
  records.foldl (fun store record => (store.insertRecord record filePayload).2) empty

/-! ## Walking one role order -/

/-- The position of the leaf that the first two roles of the order lead to. -/
def slot? (store : Store) (order : RoleOrder) (key : Key) : Option Nat :=
  match order with
  | .spo => store.objects.slot? key.subject key.predicate
  | .pso => store.objects.backwardSlot? key.subject key.predicate
  | .sop => store.predicates.slot? key.subject key.object
  | .osp => store.predicates.backwardSlot? key.subject key.object
  | .pos => store.subjects.slot? key.predicate key.object
  | .ops => store.subjects.backwardSlot? key.predicate key.object

def probe (store : Store) (order : RoleOrder) (key : Key) : Option String :=
  (store.slot? order key).bind fun slot =>
    match order with
    | .spo | .pso => store.objects.valueAt? slot key.object
    | .sop | .osp => store.predicates.valueAt? slot key.predicate
    | .pos | .ops => store.subjects.valueAt? slot key.subject

/-- Whether every order leads to a leaf, and to the same one as its partner. -/
def sharesLeaves (store : Store) (key : Key) : Bool :=
  RoleOrder.all.all fun order =>
    (store.slot? order key).isSome && store.slot? order key == store.slot? order.partner key

/-! ## The size of the indexes -/

/-- The number of subjects that a triple was ever stored for. -/
def indexedSubjects (store : Store) : Nat :=
  store.objects.forward.size

def leafCounts (store : Store) : Nat × Nat × Nat :=
  (store.objects.leafCount, store.predicates.leafCount, store.subjects.leafCount)

end Store

end TripleStore
