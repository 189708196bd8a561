import TripleStore.Proofs.Store.Refinement

/-!
Contract: partner orders of a store share their leaves, in every state of every run.

Owns:
- `Store.Coherent`, by which each index of a store is coherent, and when partner orders
  then share their leaves for a key;
- when an edit touches existing leaves only and finds both sides of each pair linked to
  the leaf that it writes;
- that every edit of every run does so, in indexes that are coherent and hold the same
  entries.

Does not own: what a coherent index is (`TripleStore.Proofs.PairIndex.Coherence`).
-/

namespace TripleStore

namespace PairIndex

variable {first second third : IdSpace}

/-- What a write of a pair relies on: it goes to a leaf, and the other side, linked to
that leaf unless it is linked already, then leads to the same one. -/
structure WritesInPlace
    (index : PairIndex first second third)
    (firstId : Id first)
    (secondId : Id second) : Prop where
  reached : (index.ensureSlot firstId secondId).1 <
    (index.ensureSlot firstId secondId).2.leaves.size
  aliased :
    ((index.ensureSlot firstId secondId).2.backward.link secondId firstId
      (index.ensureSlot firstId secondId).1).slot? secondId firstId =
        some (index.ensureSlot firstId secondId).1

theorem Coherent.writesInPlace
    {index : PairIndex first second third}
    (coherent : index.Coherent)
    (firstId : Id first)
    (secondId : Id second) :
    index.WritesInPlace firstId secondId := by
  have partner := coherent.shared firstId secondId
  unfold backwardSlot? at partner
  constructor <;> rw [ensureSlot_eq] <;> unfold slotFor
  · cases found : index.slot? firstId secondId with
    | none => simp
    | some slot => exact coherent.inBounds _ _ _ found
  · cases found : index.slot? firstId secondId with
    | none => simp [Parent.slot?_link, ← partner, found]
    | some slot => simp [Parent.slot?_link, ← partner, found]

end PairIndex

namespace Store

variable {store : Store} {contents : Contents}

/-! ## Partner orders -/

structure Coherent (store : Store) : Prop where
  objects : store.objects.Coherent
  predicates : store.predicates.Coherent
  subjects : store.subjects.Coherent

theorem Represents.coherent (represents : store.Represents contents) : store.Coherent where
  objects := represents.objects.coherent
  predicates := represents.predicates.coherent
  subjects := represents.subjects.coherent

theorem Coherent.slot?_partner (coherent : store.Coherent) (order : RoleOrder) (key : Key) :
    store.slot? order key = store.slot? order.partner key := by
  cases order with
  | spo => exact coherent.objects.shared _ _
  | pso => exact (coherent.objects.shared _ _).symm
  | sop => exact coherent.predicates.shared _ _
  | osp => exact (coherent.predicates.shared _ _).symm
  | pos => exact coherent.subjects.shared _ _
  | ops => exact (coherent.subjects.shared _ _).symm

theorem Coherent.sharesLeaves_iff (coherent : store.Coherent) (key : Key) :
    store.sharesLeaves key = true ↔ ∀ order, (store.slot? order key).isSome = true := by
  simp only [sharesLeaves, List.all_eq_true, RoleOrder.mem_all, forall_true_left,
    ← coherent.slot?_partner, BEq.rfl, Bool.and_true]

/-- A stored key has a leaf along every order. -/
theorem Represents.sharesLeaves_of_mem
    (represents : store.Represents contents)
    {key : Key}
    (member : key ∈ contents) :
    store.sharesLeaves key = true := by
  rw [represents.coherent.sharesLeaves_iff]
  intro order
  have found := represents.probe_eq order key
  rw [Std.ExtTreeMap.getElem?_eq_some_getElem member] at found
  cases slot : store.slot? order key with
  | some position => rfl
  | none => simp [probe, slot] at found

/-! ## Edits in place -/

/-- The write of a key goes to existing, shared leaves in all three indexes. -/
structure WritesInPlace (store : Store) (key : Key) : Prop where
  objects : store.objects.WritesInPlace key.subject key.predicate
  predicates : store.predicates.WritesInPlace key.subject key.object
  subjects : store.subjects.WritesInPlace key.predicate key.object

/-- The erasure of a key looks into an existing leaf. If it finds an entry there, the
other two indexes have leaves with the entry as well. -/
structure ErasesInPlace (store : Store) (key : Key) : Prop where
  lookedUp : ∀ slot, store.objects.slot? key.subject key.predicate = some slot →
    slot < store.objects.leaves.size
  objects : (store.erase key).1 = true →
    (store.objects.value? key.subject key.predicate key.object).isSome
  predicates : (store.erase key).1 = true →
    (store.predicates.value? key.subject key.object key.predicate).isSome
  subjects : (store.erase key).1 = true →
    (store.subjects.value? key.predicate key.object key.subject).isSome

/-- The edit writes and erases in place. A record is written once its terms have
identifiers. -/
def Edit.InPlace (store : Store) : Edit → Prop
  | .insertRecord record value =>
      (store.intern record).2.WritesInPlace (store.insertRecord record value).1.toKey
  | .insert triple => store.WritesInPlace triple.toKey
  | .erase key => store.ErasesInPlace key
  | .eraseRecord record => ∀ key ∈ store.key? record, store.ErasesInPlace key

theorem Represents.writesInPlace (represents : store.Represents contents) (key : Key) :
    store.WritesInPlace key where
  objects := represents.objects.coherent.writesInPlace _ _
  predicates := represents.predicates.coherent.writesInPlace _ _
  subjects := represents.subjects.coherent.writesInPlace _ _

theorem Represents.erasesInPlace (represents : store.Represents contents) (key : Key) :
    store.ErasesInPlace key := by
  have stored : (store.erase key).1 = true → contents[key]?.isSome = true := by
    intro erased
    rw [Std.ExtTreeMap.isSome_getElem?_eq_contains, ← represents.erase_fst]
    exact erased
  constructor
  · exact represents.objects.coherent.inBounds _ _
  · rw [represents.objects.value?_eq]
    exact stored
  · rw [represents.predicates.value?_eq]
    exact stored
  · rw [represents.subjects.value?_eq]
    exact stored

theorem Represents.inPlace (represents : store.Represents contents) (edit : Edit) :
    edit.InPlace store := by
  cases edit with
  | insertRecord record value => exact (represents.intern record).writesInPlace _
  | insert triple => exact represents.writesInPlace _
  | erase key => exact represents.erasesInPlace key
  | eraseRecord record => exact fun key _ => represents.erasesInPlace key

/-- In every state of every run both sides of each index lead to the same leaves, the
leaves belong to the pairs one to one, the three indexes hold the same entries, and the
next edit, whichever it is, writes and erases in place. -/
theorem afterEdits_shares_leaves (edits : List Edit) :
    (afterEdits edits).objects.Coherent ∧
      (afterEdits edits).predicates.Coherent ∧
      (afterEdits edits).subjects.Coherent ∧
      (∀ subject predicate object,
        (afterEdits edits).objects.value? subject predicate object =
          (afterEdits edits).predicates.value? subject object predicate) ∧
      (∀ subject predicate object,
        (afterEdits edits).objects.value? subject predicate object =
          (afterEdits edits).subjects.value? predicate object subject) ∧
      ∀ edit : Edit, edit.InPlace (afterEdits edits) := by
  have represents := represents_afterEdits edits
  refine ⟨represents.objects.coherent, represents.predicates.coherent,
    represents.subjects.coherent, ?_, ?_, represents.inPlace⟩
  · intro subject predicate object
    rw [represents.objects.value?_eq, represents.predicates.value?_eq]
    rfl
  · intro subject predicate object
    rw [represents.objects.value?_eq, represents.subjects.value?_eq]
    rfl

end Store

end TripleStore
