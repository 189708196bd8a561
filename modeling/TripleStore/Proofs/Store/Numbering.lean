import TripleStore.Proofs.Lexicon
import TripleStore.Proofs.Store.Run
import TripleStore.Query.Answer

/-!
Contract: the identifiers that a store hands out over a run of requests.

Owns:
- `Request`, an edit or one of the two kinds of queries, and what a store replies to it;
- that requests keep every identifier, and that only adding records hands out new ones;
- which identifiers the terms of a store have after any run of requests.

Does not own: what is stored under the identifiers (`TripleStore.Proofs.Store.Refinement`).
-/

namespace TripleStore.Store

/-! ## Requests -/

/-- What a store can be asked to do. -/
inductive Request where
  | edit (edit : Edit)
  /-- List the triples that match. -/
  | select (pattern : IdPattern)
  /-- Answer a query text. -/
  | answer (text : String)

inductive Reply where
  | done
  | triples (listed : List Triple)
  | answer (answer : Except Query.QueryError Query.Answer)

def serve (store : Store) : Request → Reply × Store
  | .edit edit => (.done, edit.apply store)
  | .select pattern => (.triples (store.select pattern), store)
  | .answer text => (.answer (Query.answer store text), store)

/-- The replies to the requests, in order, and the store after them. -/
def serveAll (store : Store) : List Request → List Reply × Store
  | [] => ([], store)
  | request :: rest =>
      let (reply, after) := store.serve request
      let (replies, final) := after.serveAll rest
      (reply :: replies, final)

/-- The store that the requests make of an empty one. -/
def afterRequests (requests : List Request) : Store :=
  (empty.serveAll requests).2

/-- The record whose terms the request gives identifiers. -/
def Request.added? : Request → Option Record
  | edit (.insertRecord record _) => some record
  | _ => none

theorem serveAll_append (store : Store) (first second : List Request) :
    (store.serveAll (first ++ second)).2 = ((store.serveAll first).2.serveAll second).2 := by
  induction first generalizing store with
  | nil => rfl
  | cons request rest inductionHypothesis => exact inductionHypothesis (store.serve request).2

/-! ## Lexicons that stay as they are -/

variable {store before after : Store}

theorem sameTerms_eraseRecord (store : Store) (record : Record) :
    SameTerms store (store.eraseRecord record).2 := by
  unfold eraseRecord
  split
  · exact store.sameTerms_erase _
  · exact ⟨rfl, rfl⟩

/-- Only adding a record touches the lexicons. -/
theorem sameTerms_serve {request : Request} (unnamed : request.added? = none) :
    SameTerms store (store.serve request).2 := by
  cases request with
  | select pattern => exact ⟨rfl, rfl⟩
  | answer text => exact ⟨rfl, rfl⟩
  | edit edit =>
      cases edit with
      | insertRecord record value => cases unnamed
      | insert triple => exact ⟨rfl, rfl⟩
      | erase key => exact store.sameTerms_erase key
      | eraseRecord record => exact store.sameTerms_eraseRecord record

/-! ## Identifiers that are kept -/

/-- Every identifier of a term before is its identifier after. -/
structure KeepsIds (before after : Store) : Prop where
  entities : ∀ term id, before.entityId? term = some id → after.entityId? term = some id
  predicates : ∀ term id,
    before.predicateId? term = some id → after.predicateId? term = some id

theorem SameTerms.keepsIds (same : SameTerms before after) : before.KeepsIds after where
  entities := by
    intro term id known
    rwa [entityId?, ← same.entities]
  predicates := by
    intro term id known
    rwa [predicateId?, ← same.predicates]

theorem keepsIds_insertRecord (store : Store) (record : Record) (value : String) :
    store.KeepsIds (store.insertRecord record value).2 where
  entities := fun _ _ known =>
    Lexicon.id?_intern_of_id? (Lexicon.id?_intern_of_id? known)
  predicates := fun _ _ known => Lexicon.id?_intern_of_id? known

theorem keepsIds_serve (store : Store) (request : Request) :
    store.KeepsIds (store.serve request).2 := by
  cases named : request.added? with
  | none => exact (sameTerms_serve named).keepsIds
  | some record =>
      obtain ⟨other, value⟩ | _ | _ | _ | _ | _ := request <;> cases named
      exact store.keepsIds_insertRecord record value

theorem keepsIds_serveAll (store : Store) (requests : List Request) :
    store.KeepsIds (store.serveAll requests).2 := by
  induction requests generalizing store with
  | nil => exact SameTerms.keepsIds ⟨rfl, rfl⟩
  | cons request rest inductionHypothesis =>
      have first := store.keepsIds_serve request
      have later := inductionHypothesis (store.serve request).2
      exact
        { entities := fun term id known => later.entities term id (first.entities term id known)
          predicates := fun term id known =>
            later.predicates term id (first.predicates term id known) }

/-! ## Numbers by first use -/

/-- The entity terms of the records in the order in which they are used. -/
def entityUses (added : List Record) : List String :=
  added.flatMap fun record => [record.subject, record.object]

def predicateUses (added : List Record) : List String :=
  added.map Record.predicate

/-- Each lexicon numbers the terms of the records by their first uses. -/
structure Numbers (store : Store) (added : List Record) : Prop where
  entities : store.entityTerms.NumbersInOrder (entityUses added)
  predicates : store.predicateTerms.NumbersInOrder (predicateUses added)

variable {added : List Record}

theorem numbers_empty : empty.Numbers [] where
  entities := .empty
  predicates := .empty

theorem Numbers.insertRecord (numbers : store.Numbers added) (record : Record) (value : String) :
    (store.insertRecord record value).2.Numbers (added ++ [record]) where
  entities := by
    have uses : entityUses (added ++ [record]) =
        entityUses added ++ [record.subject] ++ [record.object] := by
      simp [entityUses]
    rw [uses]
    exact (numbers.entities.intern record.subject).intern record.object
  predicates := by
    have uses : predicateUses (added ++ [record]) =
        predicateUses added ++ [record.predicate] := by
      simp [predicateUses]
    rw [uses]
    exact numbers.predicates.intern record.predicate

theorem Numbers.of_sameTerms (numbers : before.Numbers added) (same : SameTerms before after) :
    after.Numbers added where
  entities := same.entities ▸ numbers.entities
  predicates := same.predicates ▸ numbers.predicates

theorem Numbers.serve (numbers : store.Numbers added) (request : Request) :
    (store.serve request).2.Numbers (added ++ request.added?.toList) := by
  cases named : request.added? with
  | none =>
      rw [Option.toList_none, List.append_nil]
      exact numbers.of_sameTerms (sameTerms_serve named)
  | some record =>
      obtain ⟨other, value⟩ | _ | _ | _ | _ | _ := request <;> cases named
      exact numbers.insertRecord record value

theorem Numbers.serveAll (numbers : store.Numbers added) (requests : List Request) :
    (store.serveAll requests).2.Numbers (added ++ requests.filterMap Request.added?) := by
  induction requests generalizing store added with
  | nil =>
      rw [List.filterMap_nil, List.append_nil]
      exact numbers
  | cons request rest inductionHypothesis =>
      have first : (request :: rest).filterMap Request.added? =
          request.added?.toList ++ rest.filterMap Request.added? := by
        cases named : request.added? <;> simp [named]
      rw [first, ← List.append_assoc]
      exact inductionHypothesis (numbers.serve request)

/-- After any run of edits and queries the entities are numbered by the first uses of the
subjects and objects that were added, and the predicates by those of the predicates. What
comes later changes no identifier, and requests that add no record leave both lexicons as
they are. -/
theorem afterRequests_numbers_first_uses (requests : List Request) :
    let store := afterRequests requests
    let added := requests.filterMap Request.added?
    store.entityTerms.NumbersInOrder (entityUses added) ∧
      store.predicateTerms.NumbersInOrder (predicateUses added) ∧
      (∀ later, store.KeepsIds (afterRequests (requests ++ later))) ∧
      ∀ request, request.added? = none → SameTerms store (store.serve request).2 := by
  intro store added
  have numbers := numbers_empty.serveAll requests
  refine ⟨numbers.entities, numbers.predicates, ?_, fun _ => sameTerms_serve⟩
  intro later
  have kept := store.keepsIds_serveAll later
  rwa [afterRequests, serveAll_append]

end TripleStore.Store
