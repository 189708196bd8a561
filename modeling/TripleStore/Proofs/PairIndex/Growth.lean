import Mathlib.Data.Finset.Card
import TripleStore.Proofs.PairIndex.Coherence

/-!
Contract: the leaves of a pair index, counted by the pairs that were written.

Owns:
- `PairIndex.LeavesFor`, by which an index has leaves for given pairs and no others;
- that a write adds its pair to them, and that an erasure takes none away;
- the number of leaves and of first identifiers.

Does not own: what is in the leaves (`TripleStore.Proofs.Store.Contents`).
-/

namespace TripleStore.PairIndex

variable {first second third : IdSpace}
variable {index : PairIndex first second third} {pairs : Finset (Id first × Id second)}

/-- The pairs with a leaf are the given ones, and a first identifier has a row only if it
is in a pair. -/
structure LeavesFor
    (index : PairIndex first second third)
    (pairs : Finset (Id first × Id second)) : Prop where
  coherent : index.Coherent
  isSome_slot?_iff : ∀ firstId secondId,
    (index.slot? firstId secondId).isSome = true ↔ (firstId, secondId) ∈ pairs
  mem_forward_iff : ∀ firstId, firstId ∈ index.forward ↔ firstId ∈ pairs.image Prod.fst

/-! ## First identifiers -/

theorem mem_forward_of_slot?
    {firstId : Id first}
    {secondId : Id second}
    (linked : (index.slot? firstId secondId).isSome = true) :
    firstId ∈ index.forward := by
  by_contra missing
  simp [slot?, Parent.slot?, Std.ExtTreeMap.getElem?_eq_none missing] at linked

theorem mem_forward_insert
    (firstId otherFirst : Id first)
    (secondId : Id second)
    (thirdId : Id third)
    (value : String) :
    otherFirst ∈ (index.insert firstId secondId thirdId value).forward ↔
      firstId = otherFirst ∨ otherFirst ∈ index.forward := by
  unfold insert
  rw [ensureSlot_eq]
  cases found : index.slot? firstId secondId with
  | none => simp [Parent.link]
  | some slot =>
      -- A pair with a leaf has its row already.
      have member : firstId ∈ index.forward := mem_forward_of_slot? (by rw [found]; rfl)
      constructor
      · exact Or.inr
      · rintro (same | old)
        · exact same ▸ member
        · exact old

/-! ## Writing and erasing -/

namespace LeavesFor

theorem empty : (empty : PairIndex first second third).LeavesFor ∅ where
  coherent := coherent_empty
  isSome_slot?_iff := by simp
  mem_forward_iff := by simp [PairIndex.empty]

theorem insert
    (leaves : index.LeavesFor pairs)
    (firstId : Id first)
    (secondId : Id second)
    (thirdId : Id third)
    (value : String) :
    (index.insert firstId secondId thirdId value).LeavesFor
      (pairs ∪ {(firstId, secondId)}) where
  coherent := leaves.coherent.insert _ _ _ _
  isSome_slot?_iff := by
    intro otherFirst otherSecond
    rw [slot?_insert, Finset.mem_union, Finset.mem_singleton, Prod.mk.injEq,
      ← leaves.isSome_slot?_iff]
    by_cases same : firstId = otherFirst ∧ secondId = otherSecond
    · obtain ⟨rfl, rfl⟩ := same
      simp
    · have different : ¬(otherFirst = firstId ∧ otherSecond = secondId) := by
        intro swapped
        exact same ⟨swapped.1.symm, swapped.2.symm⟩
      rw [if_neg same, or_iff_left different]
  mem_forward_iff := by
    intro otherFirst
    rw [mem_forward_insert, Finset.image_union, Finset.image_singleton, Finset.mem_union,
      Finset.mem_singleton, ← leaves.mem_forward_iff, or_comm, eq_comm]

theorem erase
    (leaves : index.LeavesFor pairs)
    (firstId : Id first)
    (secondId : Id second)
    (thirdId : Id third) :
    (index.erase firstId secondId thirdId).LeavesFor pairs where
  coherent := leaves.coherent.erase _ _ _
  isSome_slot?_iff := by simpa using leaves.isSome_slot?_iff
  mem_forward_iff := by simpa using leaves.mem_forward_iff

/-! ## Counting -/

theorem slot?_eq_slotFor
    (leaves : index.LeavesFor pairs)
    {pair : Id first × Id second}
    (member : pair ∈ pairs) :
    index.slot? pair.1 pair.2 = some (index.slotFor pair.1 pair.2) := by
  obtain ⟨slot, found⟩ := Option.isSome_iff_exists.mp
    ((leaves.isSome_slot?_iff pair.1 pair.2).mpr member)
  rw [slotFor, found, Option.getD_some]

/-- Each pair has a leaf of its own, and each leaf a pair. -/
theorem leafCount_eq (leaves : index.LeavesFor pairs) : index.leafCount = pairs.card := by
  rw [leafCount, ← Finset.card_range index.leaves.size]
  symm
  apply Finset.card_bij fun pair _ => index.slotFor pair.1 pair.2
  · intro pair member
    rw [Finset.mem_range]
    exact leaves.coherent.inBounds _ _ _ (leaves.slot?_eq_slotFor member)
  · intro left leftMember right rightMember same
    have leftFound := leaves.slot?_eq_slotFor leftMember
    rw [same] at leftFound
    exact Prod.ext_iff.mpr (leaves.coherent.injective _ _ _ _ _ leftFound
      (leaves.slot?_eq_slotFor rightMember))
  · intro slot below
    obtain ⟨firstId, secondId, found⟩ :=
      leaves.coherent.covered slot (Finset.mem_range.mp below)
    have member : (firstId, secondId) ∈ pairs :=
      (leaves.isSome_slot?_iff firstId secondId).mp (by rw [found]; rfl)
    exact ⟨(firstId, secondId), member, by rw [slotFor, found, Option.getD_some]⟩

theorem size_forward (leaves : index.LeavesFor pairs) :
    index.forward.size = (pairs.image Prod.fst).card := by
  have rows : index.forward.keys.toFinset = pairs.image Prod.fst := by
    ext firstId
    rw [List.mem_toFinset, Std.ExtTreeMap.mem_keys, leaves.mem_forward_iff]
  rw [← rows, List.toFinset_card_of_nodup Std.ExtTreeMap.nodup_keys,
    Std.ExtTreeMap.length_keys]

end LeavesFor

end TripleStore.PairIndex
