import TripleStore.Proofs.Map
import TripleStore.Proofs.PairIndex.Coherence

/-!
Contract: writes to a pair index that undo what was done before.

Owns:
- when linking a pair changes nothing;
- that a write over another one leaves nothing of it, and that writing an erased entry
  again gives the index back, positions and leaves included.

Does not own: erasing a new entry, which leaves its leaf behind
(`TripleStore.Proofs.Store.Undoing`).
-/

namespace TripleStore

/-- A pair that has a position is not linked anew. -/
theorem Parent.link_eq_self
    {outer inner : IdSpace}
    {parent : Parent outer inner}
    {outerId : Id outer}
    {innerId : Id inner}
    (linked : (parent.slot? outerId innerId).isSome = true)
    (slot : Nat) :
    parent.link outerId innerId slot = parent := by
  unfold slot? at linked
  cases found : parent[outerId]? with
  | none => simp [found] at linked
  | some row =>
      have member : innerId ∈ row := by simpa [found] using linked
      unfold link
      rw [Std.ExtTreeMap.getD_eq_getD_getElem?, found, Option.getD_some,
        Map.insertIfNew_eq_self member]
      exact Map.insert_eq_self found

namespace PairIndex

variable {first second third : IdSpace}
variable {index : PairIndex first second third}
variable {firstId : Id first} {secondId : Id second} {thirdId : Id third} {value : String}

/-! ## Two edits of one leaf -/

theorem modify_modify
    (leaves : Array (Leaf third))
    (slot : Nat)
    (change next : Leaf third → Leaf third) :
    (leaves.modify slot change).modify slot next = leaves.modify slot (next ∘ change) := by
  apply Array.ext_getElem?
  intro other
  rw [Array.getElem?_modify, Array.getElem?_modify, Array.getElem?_modify]
  split
  · exact Option.map_map ..
  · rfl

theorem modify_eq_self
    {leaves : Array (Leaf third)}
    {slot : Nat}
    {change : Leaf third → Leaf third}
    (unchanged : ∀ leaf, leaves[slot]? = some leaf → change leaf = leaf) :
    leaves.modify slot change = leaves := by
  apply Array.ext_getElem?
  intro other
  rw [Array.getElem?_modify]
  split
  · next same =>
      subst same
      cases found : leaves[slot]? with
      | none => rfl
      | some leaf => exact congrArg some (unchanged leaf found)
  · rfl

/-! ## Writing -/

/-- A pair that has a leaf gets no other one. -/
theorem insert_of_slot?_eq_some {slot : Nat} (found : index.slot? firstId secondId = some slot) :
    index.insert firstId secondId thirdId value =
      { index with
        backward := index.backward.link secondId firstId slot
        leaves := index.leaves.modify slot (·.insert thirdId value) } := by
  unfold insert ensureSlot
  rw [found]

theorem erase_of_slot?_eq_some {slot : Nat} (found : index.slot? firstId secondId = some slot) :
    index.erase firstId secondId thirdId =
      { index with leaves := index.leaves.modify slot (·.erase thirdId) } := by
  unfold erase
  rw [found]

/-- A write over another one leaves nothing of it. -/
theorem insert_insert (old : String) :
    (index.insert firstId secondId thirdId old).insert firstId secondId thirdId value =
      index.insert firstId secondId thirdId value := by
  have found : (index.insert firstId secondId thirdId old).slot? firstId secondId =
      some (index.slotFor firstId secondId) := by
    rw [slot?_insert, if_pos ⟨rfl, rfl⟩]
  have linked : ((index.insert firstId secondId thirdId old).backwardSlot? firstId
      secondId).isSome = true := by
    rw [backwardSlot?_insert, if_pos ⟨rfl, rfl⟩]
    rfl
  rw [insert_of_slot?_eq_some found, Parent.link_eq_self linked]
  unfold insert
  rw [ensureSlot_eq]
  congr 1
  rw [modify_modify]
  congr 1
  funext leaf
  exact Map.insert_insert old

/-- Writing an erased entry again gives the index back: the pair finds its leaf on both
sides, and the leaf is what it was. -/
theorem Coherent.insert_erase
    (coherent : index.Coherent)
    (stored : index.value? firstId secondId thirdId = some value) :
    (index.erase firstId secondId thirdId).insert firstId secondId thirdId value = index := by
  obtain ⟨slot, found, inLeaf⟩ := Option.bind_eq_some_iff.mp stored
  have linked : (index.backward.slot? secondId firstId).isSome = true := by
    have partner := coherent.shared firstId secondId
    rw [found, backwardSlot?] at partner
    rw [← partner]
    rfl
  have leaves : (index.leaves.modify slot (·.erase thirdId)).modify slot
      (·.insert thirdId value) = index.leaves := by
    rw [modify_modify]
    apply modify_eq_self
    intro leaf atSlot
    rw [valueAt?, atSlot] at inLeaf
    exact Map.insert_erase inLeaf
  rw [insert_of_slot?_eq_some (by rw [slot?_erase, found]), backward_erase,
    Parent.link_eq_self linked, erase_of_slot?_eq_some found]
  exact congrArg (PairIndex.mk index.forward index.backward) leaves

end PairIndex

end TripleStore
