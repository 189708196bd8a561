import Mathlib.Data.Finset.Option
import TripleStore.Proofs.PairIndex.Growth
import TripleStore.Proofs.Store.Sharing

/-!
Contract: how large the indexes of a store are after a run of edits.

Owns:
- the keys that a run of edits added, whether or not they were erased again;
- that the indexes have leaves for the pairs of those keys and for no others;
- the number of leaves, the number of subjects, and which keys have leaves along every
  order.

Does not own: what is in the leaves (`TripleStore.Proofs.Store.Refinement`).
-/

namespace TripleStore

namespace Key

def subjectPredicate (key : Key) : EntityId × PredicateId :=
  (key.subject, key.predicate)

def subjectObject (key : Key) : EntityId × EntityId :=
  (key.subject, key.object)

def predicateObject (key : Key) : PredicateId × EntityId :=
  (key.predicate, key.object)

end Key

namespace Store

/-! ## Added keys -/

/-- The key that the edit writes. A record is written under the key of the triple that the
store gives back for it. -/
def Edit.addedKey? (store : Store) : Edit → Option Key
  | insertRecord record value => some (store.insertRecord record value).1.toKey
  | insert triple => some triple.toKey
  | erase _ => none
  | eraseRecord _ => none

/-- The keys that the edits write, erased later or not. -/
def addedKeys (store : Store) : List Edit → Finset Key
  | [] => ∅
  | edit :: rest => (edit.addedKey? store).toFinset ∪ addedKeys (edit.apply store) rest

/-! ## Leaves for the added keys -/

variable {store left right : Store} {added : Finset Key}

/-- Each index has leaves for the pairs of the keys, and for no other pairs. -/
structure LeavesFor (store : Store) (added : Finset Key) : Prop where
  objects : store.objects.LeavesFor (added.image Key.subjectPredicate)
  predicates : store.predicates.LeavesFor (added.image Key.subjectObject)
  subjects : store.subjects.LeavesFor (added.image Key.predicateObject)

namespace LeavesFor

theorem empty : Store.empty.LeavesFor ∅ where
  objects := .empty
  predicates := .empty
  subjects := .empty

theorem intern (leaves : store.LeavesFor added) (record : Record) :
    (store.intern record).2.LeavesFor added :=
  { leaves with }

theorem insert (leaves : store.LeavesFor added) (triple : Triple) :
    (store.insert triple).LeavesFor (added ∪ {triple.toKey}) where
  objects := by
    rw [Finset.image_union, Finset.image_singleton]
    exact leaves.objects.insert _ _ _ _
  predicates := by
    rw [Finset.image_union, Finset.image_singleton]
    exact leaves.predicates.insert _ _ _ _
  subjects := by
    rw [Finset.image_union, Finset.image_singleton]
    exact leaves.subjects.insert _ _ _ _

theorem erase (leaves : store.LeavesFor added) (key : Key) :
    (store.erase key).2.LeavesFor added := by
  unfold Store.erase
  split
  · exact leaves
  · exact
      { objects := leaves.objects.erase _ _ _
        predicates := leaves.predicates.erase _ _ _
        subjects := leaves.subjects.erase _ _ _ }

theorem apply (leaves : store.LeavesFor added) (edit : Edit) :
    (edit.apply store).LeavesFor (added ∪ (edit.addedKey? store).toFinset) := by
  cases edit with
  | insertRecord record value =>
      exact (leaves.intern record).insert (store.insertRecord record value).1
  | insert triple => exact leaves.insert triple
  | erase key =>
      rw [Edit.addedKey?, Option.toFinset_none, Finset.union_empty]
      exact leaves.erase key
  | eraseRecord record =>
      rw [Edit.addedKey?, Option.toFinset_none, Finset.union_empty, Edit.apply, eraseRecord]
      split
      · exact leaves.erase _
      · exact leaves

theorem run (leaves : store.LeavesFor added) (edits : List Edit) :
    (store.run edits).LeavesFor (added ∪ store.addedKeys edits) := by
  induction edits generalizing store added with
  | nil =>
      rw [addedKeys, Finset.union_empty]
      exact leaves
  | cons edit rest inductionHypothesis =>
      rw [addedKeys, ← Finset.union_assoc]
      exact inductionHypothesis (leaves.apply edit)

/-! ## What a store shows of its leaves -/

theorem coherent (leaves : store.LeavesFor added) : store.Coherent where
  objects := leaves.objects.coherent
  predicates := leaves.predicates.coherent
  subjects := leaves.subjects.coherent

theorem leafCounts_eq (leaves : store.LeavesFor added) :
    store.leafCounts =
      ((added.image Key.subjectPredicate).card, (added.image Key.subjectObject).card,
        (added.image Key.predicateObject).card) := by
  rw [leafCounts, leaves.objects.leafCount_eq, leaves.predicates.leafCount_eq,
    leaves.subjects.leafCount_eq]

theorem indexedSubjects_eq (leaves : store.LeavesFor added) :
    store.indexedSubjects = (added.image Key.subject).card := by
  rw [indexedSubjects, leaves.objects.size_forward, Finset.image_image]
  rfl

/-- The three pairs of a key may come from three different keys. -/
theorem sharesLeaves_iff (leaves : store.LeavesFor added) (key : Key) :
    store.sharesLeaves key = true ↔
      key.subjectPredicate ∈ added.image Key.subjectPredicate ∧
        key.subjectObject ∈ added.image Key.subjectObject ∧
          key.predicateObject ∈ added.image Key.predicateObject := by
  have coherent := leaves.coherent
  rw [coherent.sharesLeaves_iff]
  constructor
  · intro reached
    exact ⟨(leaves.objects.isSome_slot?_iff _ _).mp (reached .spo),
      (leaves.predicates.isSome_slot?_iff _ _).mp (reached .sop),
      (leaves.subjects.isSome_slot?_iff _ _).mp (reached .pos)⟩
  · rintro ⟨objects, predicates, subjects⟩ order
    have spo := (leaves.objects.isSome_slot?_iff _ _).mpr objects
    have sop := (leaves.predicates.isSome_slot?_iff _ _).mpr predicates
    have pos := (leaves.subjects.isSome_slot?_iff _ _).mpr subjects
    cases order with
    | spo => exact spo
    | sop => exact sop
    | pos => exact pos
    | pso =>
        rw [coherent.slot?_partner]
        exact spo
    | osp =>
        rw [coherent.slot?_partner]
        exact sop
    | ops =>
        rw [coherent.slot?_partner]
        exact pos

end LeavesFor

/-- Nothing that a store shows of its leaves tells the two apart. -/
structure SameExtent (left right : Store) : Prop where
  leafCounts : left.leafCounts = right.leafCounts
  indexedSubjects : left.indexedSubjects = right.indexedSubjects
  sharesLeaves : ∀ key, left.sharesLeaves key = right.sharesLeaves key

theorem LeavesFor.sameExtent (leaves : left.LeavesFor added) (others : right.LeavesFor added) :
    SameExtent left right where
  leafCounts := leaves.leafCounts_eq.trans others.leafCounts_eq.symm
  indexedSubjects := leaves.indexedSubjects_eq.trans others.indexedSubjects_eq.symm
  sharesLeaves := by
    intro key
    rw [Bool.eq_iff_iff, leaves.sharesLeaves_iff, others.sharesLeaves_iff]

/-- After any run of edits there is one leaf for each pair of each index that some added key
has, and one row for each added subject. A key has shared leaves along every order exactly
if each of its pairs is one of an added key. An edit that adds no new key, as no erasure
does, changes none of this. -/
theorem afterEdits_extent (edits : List Edit) :
    let store := afterEdits edits
    let added := empty.addedKeys edits
    store.leafCounts =
        ((added.image Key.subjectPredicate).card, (added.image Key.subjectObject).card,
          (added.image Key.predicateObject).card) ∧
      store.indexedSubjects = (added.image Key.subject).card ∧
      (∀ key, store.sharesLeaves key = true ↔
        key.subjectPredicate ∈ added.image Key.subjectPredicate ∧
          key.subjectObject ∈ added.image Key.subjectObject ∧
            key.predicateObject ∈ added.image Key.predicateObject) ∧
      ∀ edit : Edit, (∀ key ∈ edit.addedKey? store, key ∈ added) →
        SameExtent store (edit.apply store) := by
  intro store added
  have leaves : store.LeavesFor added := by
    have grown := LeavesFor.empty.run edits
    rwa [Finset.empty_union] at grown
  refine ⟨leaves.leafCounts_eq, leaves.indexedSubjects_eq, leaves.sharesLeaves_iff, ?_⟩
  intro edit addsNone
  have old : (edit.addedKey? store).toFinset ⊆ added := by
    intro key member
    exact addsNone key (Option.mem_toFinset.mp member)
  have after := leaves.apply edit
  rw [Finset.union_eq_left.mpr old] at after
  exact leaves.sameExtent after

end Store

end TripleStore
