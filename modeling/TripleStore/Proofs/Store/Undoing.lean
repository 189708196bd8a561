import TripleStore.Proofs.PairIndex.Undoing
import TripleStore.Proofs.Store.AccessPath

/-!
Contract: edits of a store that undo or overwrite the edit before.

Owns:
- that erasing a stored triple and writing it again gives the store back, and that a write
  over another one leaves nothing of it;
- `Store.AnswersLike`, by which nothing that is asked of two stores tells them apart;
- that a new triple, written and erased again, leaves a store that answers like the old one.

Does not own: how far leaves and rows grow on the way (`TripleStore.Proofs.Store.Growth`).

Only the last of these changes the store: the leaves that were made for the new triple stay
when it is erased.
-/

namespace TripleStore

/-- A pattern and what is looked up for keys determine the listed triples up to their
order. -/
theorem Lists.perm
    {lookup : Key → Option String}
    {pattern : IdPattern}
    {left right : List Triple}
    (lists : Lists lookup pattern left)
    (others : Lists lookup pattern right) :
    left.Perm right := by
  rw [List.perm_ext_iff_of_nodup lists.nodup others.nodup]
  intro triple
  rw [lists.mem_iff, others.mem_iff]

namespace Store

variable {store left right : Store} {contents : Contents}

/-! ## The same state -/

theorem insert_eq (store : Store) (triple : Triple) :
    store.insert triple =
      { store with
        objects :=
          store.objects.insert triple.subject triple.predicate triple.object triple.value
        predicates :=
          store.predicates.insert triple.subject triple.object triple.predicate triple.value
        subjects :=
          store.subjects.insert triple.predicate triple.object triple.subject triple.value
        tripleCount :=
          if (store.objects.value? triple.subject triple.predicate triple.object).isNone then
            store.tripleCount + 1
          else store.tripleCount } :=
  rfl

/-- The count goes down for the erasure and, as the triple is then new, up again for the
write. -/
theorem Represents.insert_erase
    (represents : store.Represents contents)
    {triple : Triple}
    (stored : contents[triple.toKey]? = some triple.value) :
    (store.erase triple.toKey).2.insert triple = store := by
  have member : triple.toKey ∈ contents := by
    rw [Std.ExtTreeMap.mem_iff_isSome_getElem?, stored]
    rfl
  have counted := represents.tripleCount_pos member
  have erased : (store.objects.erase triple.subject triple.predicate triple.object).value?
      triple.subject triple.predicate triple.object = none := by
    rw [represents.objects.coherent.value?_erase, if_pos ⟨rfl, rfl, rfl⟩]
  rw [represents.erase_of_contains (Std.ExtTreeMap.contains_iff_mem.mpr member), insert_eq]
  rw [represents.objects.coherent.insert_erase
      ((represents.objects.value?_eq _ _ _).trans stored),
    represents.predicates.coherent.insert_erase
      ((represents.predicates.value?_eq _ _ _).trans stored),
    represents.subjects.coherent.insert_erase
      ((represents.subjects.value?_eq _ _ _).trans stored),
    erased, Option.isNone_none, if_pos rfl, Nat.sub_add_cancel counted]

/-- Only the first of two writes of a key can find it new. -/
theorem Represents.insert_insert
    (represents : store.Represents contents)
    (triple : Triple)
    (value : String) :
    (store.insert triple).insert { triple with value } =
      store.insert { triple with value } := by
  have written : (store.objects.insert triple.subject triple.predicate triple.object
      triple.value).value? triple.subject triple.predicate triple.object =
        some triple.value := by
    rw [represents.objects.coherent.value?_insert, if_pos ⟨rfl, rfl, rfl⟩]
  rw [insert_eq, insert_eq, insert_eq]
  rw [PairIndex.insert_insert, PairIndex.insert_insert, PairIndex.insert_insert, written,
    Option.isNone_some, if_neg Bool.false_ne_true]

/-! ## The same answers -/

/-- The two stores answer alike along every order, to every pattern, in their counts and in
their terms. A listing promises no order. -/
structure AnswersLike (left right : Store) : Prop where
  probe : ∀ order key, left.probe order key = right.probe order key
  select : ∀ pattern, (left.select pattern).Perm (right.select pattern)
  size : left.size = right.size
  terms : SameTerms left right

/-- What a store answers is the contents and the terms, whatever its leaves. -/
theorem Represents.answersLike
    (represents : left.Represents contents)
    (others : right.Represents contents)
    (terms : SameTerms left right) :
    left.AnswersLike right where
  probe := by
    intro order key
    rw [represents.probe_eq, others.probe_eq]
  select := by
    intro pattern
    exact (represents.lists_select pattern).perm (others.lists_select pattern)
  size := represents.count.trans others.count.symm
  terms := terms

theorem Represents.erase_insert_answersLike
    (represents : store.Represents contents)
    {triple : Triple}
    (missing : triple.toKey ∉ contents) :
    ((store.insert triple).erase triple.toKey).2.AnswersLike store := by
  have erased := (represents.insert triple).erase triple.toKey
  rw [Map.erase_insert missing] at erased
  have kept := sameTerms_erase (store.insert triple) triple.toKey
  exact erased.answersLike represents ⟨kept.entities.symm, kept.predicates.symm⟩

/-- In every state of every run a write and an erasure take effect along every order, and a
second edit of the same key makes up for the first. A stored triple, erased and written
again, gives the very same store, slots of leaves included. Of two writes of a key only the
second one is left. A triple whose key is not stored, written and erased, leaves a store
that answers as if nothing had happened. -/
theorem afterEdits_undoing (edits : List Edit) (triple : Triple) :
    let store := afterEdits edits
    let written := store.insert triple
    let erased := (store.erase triple.toKey).2
    (∀ order, written.probe order triple.toKey = some triple.value ∧
        erased.probe order triple.toKey = none) ∧
      (∀ order, store.probe order triple.toKey = some triple.value →
        erased.insert triple = store) ∧
      (∀ value, written.insert { triple with value } = store.insert { triple with value }) ∧
      ∀ order, store.probe order triple.toKey = none →
        (written.erase triple.toKey).2.AnswersLike store := by
  intro store written erased
  have represents : store.Represents (contentsAfter edits) := represents_afterEdits edits
  refine ⟨?_, ?_, represents.insert_insert triple, ?_⟩
  · intro order
    constructor
    · rw [(represents.insert triple).probe_eq]
      exact Std.ExtTreeMap.getElem?_insert_self
    · rw [(represents.erase triple.toKey).probe_eq]
      exact Std.ExtTreeMap.getElem?_erase_self
  · intro order stored
    rw [represents.probe_eq] at stored
    exact represents.insert_erase stored
  · intro order absent
    rw [represents.probe_eq] at absent
    have missing : triple.toKey ∉ contentsAfter edits := by
      rw [Std.ExtTreeMap.mem_iff_isSome_getElem?, absent]
      exact Bool.false_ne_true
    exact represents.erase_insert_answersLike missing

end Store

end TripleStore
