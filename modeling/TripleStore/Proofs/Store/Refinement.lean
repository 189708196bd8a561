import TripleStore.Proofs.Map
import TripleStore.Proofs.Store.Run

/-!
Contract: a store behaves as one plain map from keys to payloads.

Owns:
- `Store.Represents`, by which each index of a store holds the payloads of a map and
  no others;
- that every edit, and so every run of edits, keeps a store and its map in step;
- what looking up, counting and erasing say about the map.

Does not own: lists of triples (`TripleStore.Proofs.Store.AccessPath`).
-/

namespace TripleStore.Store

/-- Each index of the store holds exactly the payloads of the map, and the store counts
them. -/
structure Represents (store : Store) (contents : Contents) : Prop where
  objects : store.objects.Holds .objects contents
  predicates : store.predicates.Holds .predicates contents
  subjects : store.subjects.Holds .subjects contents
  count : store.tripleCount = contents.size

theorem represents_empty : empty.Represents ∅ where
  objects := PairIndex.holds_empty _
  predicates := PairIndex.holds_empty _
  subjects := PairIndex.holds_empty _
  count := rfl

/-! ## One edit -/

variable {store : Store} {contents : Contents}

/-- Finding a key in the first index is finding it in the map. -/
theorem Represents.isSome_value? (represents : store.Represents contents) (key : Key) :
    (store.objects.value? key.subject key.predicate key.object).isSome =
      contents.contains key := by
  rw [represents.objects.value?_eq]
  exact Std.ExtTreeMap.isSome_getElem?_eq_contains

theorem Represents.insert (represents : store.Represents contents) (triple : Triple) :
    (store.insert triple).Represents (contents.insert triple.toKey triple.value) where
  objects := represents.objects.insert _ _ _ _
  predicates := represents.predicates.insert _ _ _ _
  subjects := represents.subjects.insert _ _ _ _
  count := by
    have present := represents.isSome_value? triple.toKey
    rw [Std.ExtTreeMap.size_insert, ← present, ← represents.count]
    change (if (store.objects.value? triple.subject triple.predicate triple.object).isNone
      then store.tripleCount + 1 else store.tripleCount) = _
    cases store.objects.value? triple.subject triple.predicate triple.object <;> rfl

/-- New terms change no index. -/
theorem Represents.intern (represents : store.Represents contents) (record : Record) :
    (store.intern record).2.Represents contents :=
  { represents with }

theorem Represents.erase_of_contains
    (represents : store.Represents contents)
    {key : Key}
    (found : contents.contains key = true) :
    store.erase key =
      (true,
        { store with
          objects := store.objects.erase key.subject key.predicate key.object
          predicates := store.predicates.erase key.subject key.object key.predicate
          subjects := store.subjects.erase key.predicate key.object key.subject
          tripleCount := store.tripleCount - 1 }) := by
  have present := represents.isSome_value? key
  rw [found] at present
  unfold Store.erase
  rw [if_neg (by simpa [Option.isSome_iff_ne_none] using present)]

theorem Represents.erase_of_not_contains
    (represents : store.Represents contents)
    {key : Key}
    (missing : contents.contains key = false) :
    store.erase key = (false, store) := by
  have absent := represents.isSome_value? key
  rw [missing] at absent
  unfold Store.erase
  rw [if_pos (by simpa using absent)]

/-- Erasing reports whether the map has the key. -/
theorem Represents.erase_fst (represents : store.Represents contents) (key : Key) :
    (store.erase key).1 = contents.contains key := by
  cases found : contents.contains key with
  | false => rw [represents.erase_of_not_contains found]
  | true => rw [represents.erase_of_contains found]

theorem Represents.erase (represents : store.Represents contents) (key : Key) :
    (store.erase key).2.Represents (contents.erase key) := by
  cases found : contents.contains key with
  | false =>
      have missing : key ∉ contents := by simp [Std.ExtTreeMap.mem_iff_contains, found]
      rw [represents.erase_of_not_contains found, Map.erase_eq_self missing]
      exact represents
  | true =>
      rw [represents.erase_of_contains found]
      exact
        { objects := represents.objects.erase _ _ _
          predicates := represents.predicates.erase _ _ _
          subjects := represents.subjects.erase _ _ _
          count := by
            rw [Std.ExtTreeMap.size_erase, if_pos found]
            exact congrArg (· - 1) represents.count }

/-! ## A run of edits -/

theorem Represents.apply (represents : store.Represents contents) (edit : Edit) :
    (edit.apply store).Represents (edit.mirror store contents) := by
  cases edit with
  | insertRecord record value =>
      exact (represents.intern record).insert (store.insertRecord record value).1
  | insert triple => exact represents.insert triple
  | erase key => exact represents.erase key
  | eraseRecord record =>
      simp only [Edit.apply, Edit.mirror, eraseRecord]
      cases store.key? record with
      | none => exact represents
      | some key => exact represents.erase key

theorem Represents.run (represents : store.Represents contents) (edits : List Edit) :
    (store.run edits).Represents (store.mirror contents edits) := by
  induction edits generalizing store contents with
  | nil => exact represents
  | cons edit rest inductionHypothesis => exact inductionHypothesis (represents.apply edit)

theorem represents_afterEdits (edits : List Edit) :
    (afterEdits edits).Represents (contentsAfter edits) :=
  represents_empty.run edits

/-! ## What a store answers -/

theorem Represents.probe_eq
    (represents : store.Represents contents)
    (order : RoleOrder)
    (key : Key) :
    store.probe order key = contents[key]? := by
  cases order with
  | spo => exact represents.objects.value?_eq _ _ _
  | sop => exact represents.predicates.value?_eq _ _ _
  | pos => exact represents.subjects.value?_eq _ _ _
  | pso =>
      exact (represents.objects.coherent.bind_backwardSlot? _ _ _).trans
        (represents.objects.value?_eq _ _ _)
  | osp =>
      exact (represents.predicates.coherent.bind_backwardSlot? _ _ _).trans
        (represents.predicates.value?_eq _ _ _)
  | ops =>
      exact (represents.subjects.coherent.bind_backwardSlot? _ _ _).trans
        (represents.subjects.value?_eq _ _ _)

theorem Represents.isEmpty_iff (represents : store.Represents contents) :
    store.isEmpty = true ↔ contents = ∅ := by
  rw [Std.ExtTreeMap.eq_empty_iff_size_eq_zero, ← represents.count]
  exact beq_iff_eq

theorem Represents.erase_iff (represents : store.Represents contents) (key : Key) :
    (store.erase key).1 = true ↔ key ∈ contents := by
  rw [represents.erase_fst]
  exact Std.ExtTreeMap.contains_iff_mem

theorem Represents.eraseRecord_iff
    (represents : store.Represents contents)
    (record : Record) :
    (store.eraseRecord record).1 = true ↔
      ∃ key, store.key? record = some key ∧ key ∈ contents := by
  unfold eraseRecord
  cases store.key? record with
  | none => simp
  | some key => simpa using represents.erase_iff key

/-- A stored key counts, so there is something to count down from. -/
theorem Represents.tripleCount_pos
    (represents : store.Represents contents)
    {key : Key}
    (member : key ∈ contents) :
    0 < store.tripleCount := by
  have notEmpty := Std.ExtTreeMap.ne_empty_of_mem member
  rw [ne_eq, Std.ExtTreeMap.eq_empty_iff_size_eq_zero] at notEmpty
  rw [represents.count]
  exact Nat.pos_of_ne_zero notEmpty

/-- After any run of edits the store answers as the plain map does: along every order, in
its counts, and in what an erasure reports. The count is lowered only where it is not
zero. -/
theorem afterEdits_refines_contentsAfter (edits : List Edit) :
    (∀ order key, (afterEdits edits).probe order key = (contentsAfter edits)[key]?) ∧
      (afterEdits edits).size = (contentsAfter edits).size ∧
      ((afterEdits edits).isEmpty = true ↔ contentsAfter edits = ∅) ∧
      (∀ key, ((afterEdits edits).erase key).1 = true ↔ key ∈ contentsAfter edits) ∧
      (∀ record, ((afterEdits edits).eraseRecord record).1 = true ↔
        ∃ key, (afterEdits edits).key? record = some key ∧ key ∈ contentsAfter edits) ∧
      (∀ key, ((afterEdits edits).erase key).1 = true → 0 < (afterEdits edits).tripleCount) ∧
      (∀ record, ((afterEdits edits).eraseRecord record).1 = true →
        0 < (afterEdits edits).tripleCount) := by
  have represents := represents_afterEdits edits
  refine ⟨represents.probe_eq, represents.count, represents.isEmpty_iff,
    represents.erase_iff, represents.eraseRecord_iff, ?_, ?_⟩
  · intro key erased
    exact represents.tripleCount_pos ((represents.erase_iff key).mp erased)
  · intro record erased
    rcases (represents.eraseRecord_iff record).mp erased with ⟨key, _, member⟩
    exact represents.tripleCount_pos member

end TripleStore.Store
