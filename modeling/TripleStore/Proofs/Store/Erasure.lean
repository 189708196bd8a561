import TripleStore.Proofs.Store.Refinement

/-!
Contract: an erasure takes one entry out of each of the three indexes, or does nothing.

Owns:
- `PairIndex.LosesEntry`, by which one entry of one leaf is all that an index loses;
- `Store.LosesKey`, by which one key is all that a store loses;
- that an erasure by key or by record, in every state of every run, leaves the store as it
  is and says so, or makes it lose one key.

Does not own: which keys are stored (`TripleStore.Proofs.Store.Refinement`).

The erasure looks for its entry in the first index only. That the other two have the entry
as well, in leaves of their own pairs, is what the shape of a store is for.
-/

namespace TripleStore

namespace PairIndex

variable {first second third : IdSpace}

/-- The index had the entry in the leaf of its pair, and that is the only difference. -/
structure LosesEntry
    (before after : PairIndex first second third)
    (firstId : Id first)
    (secondId : Id second)
    (thirdId : Id third) : Prop where
  forward : after.forward = before.forward
  backward : after.backward = before.backward
  leafCount : after.leafCount = before.leafCount
  /-- The entry was there, so there is one to lose. -/
  stored : (before.value? firstId secondId thirdId).isSome = true
  /-- Of all the leaves only the pair's own one has changed, and in this entry only. -/
  leaves : ∀ slot otherThird,
    after.valueAt? slot otherThird =
      if before.slot? firstId secondId = some slot ∧ thirdId = otherThird then none
      else before.valueAt? slot otherThird
  /-- No other pair sees the change. -/
  entries : ∀ otherFirst otherSecond otherThird,
    after.value? otherFirst otherSecond otherThird =
      if firstId = otherFirst ∧ secondId = otherSecond ∧ thirdId = otherThird then none
      else before.value? otherFirst otherSecond otherThird

theorem Coherent.losesEntry
    {index : PairIndex first second third}
    (coherent : index.Coherent)
    {firstId : Id first}
    {secondId : Id second}
    {thirdId : Id third}
    (stored : (index.value? firstId secondId thirdId).isSome = true) :
    LosesEntry index (index.erase firstId secondId thirdId) firstId secondId thirdId where
  forward := index.forward_erase firstId secondId thirdId
  backward := index.backward_erase firstId secondId thirdId
  leafCount := index.size_leaves_erase firstId secondId thirdId
  stored := stored
  leaves := by
    intro slot otherThird
    exact index.valueAt?_erase firstId secondId thirdId otherThird slot
  entries := by
    intro otherFirst otherSecond otherThird
    exact coherent.value?_erase firstId otherFirst secondId otherSecond thirdId otherThird

theorem Holds.losesEntry
    {index : PairIndex first second third}
    {layout : Layout first second third}
    {contents : Contents}
    (holds : index.Holds layout contents)
    {firstId : Id first}
    {secondId : Id second}
    {thirdId : Id third}
    (member : layout.key firstId secondId thirdId ∈ contents) :
    LosesEntry index (index.erase firstId secondId thirdId) firstId secondId thirdId := by
  apply holds.coherent.losesEntry
  rw [holds.value?_eq, Std.ExtTreeMap.getElem?_eq_some_getElem member]
  rfl

end PairIndex

namespace Store

variable {store : Store} {contents : Contents}

/-- Each index has lost its entry for the key, the count is one less, and that is the only
difference. -/
structure LosesKey (before after : Store) (key : Key) : Prop where
  objects : before.objects.LosesEntry after.objects key.subject key.predicate key.object
  predicates : before.predicates.LosesEntry after.predicates key.subject key.object key.predicate
  subjects : before.subjects.LosesEntry after.subjects key.predicate key.object key.subject
  terms : SameTerms before after
  count : after.tripleCount + 1 = before.tripleCount

theorem Represents.losesKey
    (represents : store.Represents contents)
    {key : Key}
    (member : key ∈ contents) :
    store.LosesKey (store.erase key).2 key := by
  have counted := represents.tripleCount_pos member
  have terms := store.sameTerms_erase key
  rw [represents.erase_of_contains (Std.ExtTreeMap.contains_iff_mem.mpr member)] at terms ⊢
  exact
    { objects := represents.objects.losesEntry member
      predicates := represents.predicates.losesEntry member
      subjects := represents.subjects.losesEntry member
      terms := terms
      count := Nat.sub_add_cancel counted }

theorem Represents.erase_all_or_nothing (represents : store.Represents contents) (key : Key) :
    ((∀ order, store.probe order key = none) ∧ store.erase key = (false, store)) ∨
      ∃ after, store.erase key = (true, after) ∧ store.LosesKey after key := by
  by_cases member : key ∈ contents
  · have erased := (represents.erase_iff key).mpr member
    exact .inr ⟨(store.erase key).2, Prod.ext erased rfl, represents.losesKey member⟩
  · have absent : ∀ order, store.probe order key = none := by
      intro order
      rw [represents.probe_eq]
      exact Std.ExtTreeMap.getElem?_eq_none member
    rw [Std.ExtTreeMap.mem_iff_contains, Bool.not_eq_true] at member
    exact .inl ⟨absent, represents.erase_of_not_contains member⟩

/-- In every state of every run an erasure is all or nothing. Either the key is found along
no order, the erasure says so, and the store is the same in every part, or the erasure
reports a hit, and each index has lost exactly one entry of exactly one leaf. A record is
erased under the key of its terms, and not at all if one of them is unknown. -/
theorem afterEdits_erase_all_or_nothing (edits : List Edit) :
    let store := afterEdits edits
    (∀ key,
      ((∀ order, store.probe order key = none) ∧ store.erase key = (false, store)) ∨
        ∃ after, store.erase key = (true, after) ∧ store.LosesKey after key) ∧
      ∀ record,
        ((∀ key ∈ store.key? record, ∀ order, store.probe order key = none) ∧
            store.eraseRecord record = (false, store)) ∨
          ∃ key after, store.key? record = some key ∧
            store.eraseRecord record = (true, after) ∧ store.LosesKey after key := by
  intro store
  have represents : store.Represents (contentsAfter edits) := represents_afterEdits edits
  refine ⟨represents.erase_all_or_nothing, ?_⟩
  intro record
  unfold eraseRecord
  cases store.key? record with
  | none =>
      left
      exact ⟨by simp, rfl⟩
  | some key =>
      obtain ⟨absent, missed⟩ | ⟨after, erased, loses⟩ := represents.erase_all_or_nothing key
      · left
        refine ⟨?_, missed⟩
        intro other known
        exact Option.some.inj known ▸ absent
      · right
        exact ⟨key, after, rfl, erased, loses⟩

end Store

end TripleStore
