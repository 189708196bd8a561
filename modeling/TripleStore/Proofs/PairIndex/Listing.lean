import TripleStore.Proofs.Map
import TripleStore.Proofs.PairIndex.Coherence

/-!
Contract: the lists of entries of a pair index, as its payloads determine them.

Owns: which entries are listed below a leaf, a pair, a first and a second identifier,
and that no entry is listed twice.

Does not own: the payloads themselves (`TripleStore.Proofs.PairIndex.Coherence`).
-/

namespace TripleStore.PairIndex

variable {first second third inner : IdSpace}
variable (index : PairIndex first second third)

/-! ## One leaf -/

theorem mem_entriesAt (slot : Nat) (thirdId : Id third) (value : String) :
    (thirdId, value) ∈ index.entriesAt slot ↔ index.valueAt? slot thirdId = some value := by
  unfold entriesAt valueAt?
  cases index.leaves[slot]? <;> simp

theorem distinct_entriesAt (slot : Nat) :
    (index.entriesAt slot).Pairwise fun left right => left.1 ≠ right.1 := by
  unfold entriesAt
  cases index.leaves[slot]? with
  | none => exact List.Pairwise.nil
  | some leaf => exact Map.distinct_names leaf

/-! ## One pair -/

theorem mem_entries
    (firstId : Id first)
    (secondId : Id second)
    (thirdId : Id third)
    (value : String) :
    (thirdId, value) ∈ index.entries firstId secondId ↔
      index.value? firstId secondId thirdId = some value := by
  unfold entries value?
  cases index.slot? firstId secondId with
  | none => simp
  | some slot => exact index.mem_entriesAt slot thirdId value

theorem distinct_entries (firstId : Id first) (secondId : Id second) :
    (index.entries firstId secondId).Pairwise fun left right => left.1 ≠ right.1 := by
  unfold entries
  cases index.slot? firstId secondId with
  | none => exact List.Pairwise.nil
  | some slot => exact index.distinct_entriesAt slot

/-! ## One row of a parent map -/

theorem mem_entriesBelow
    (row : Option (Std.ExtTreeMap (Id inner) Nat))
    (innerId : Id inner)
    (thirdId : Id third)
    (value : String) :
    (innerId, thirdId, value) ∈ index.entriesBelow row ↔
      ((row.bind fun slots => slots[innerId]?).bind fun slot =>
        index.valueAt? slot thirdId) = some value := by
  unfold entriesBelow
  cases row with
  | none => simp
  | some slots =>
      simp only [Option.getD_some, Option.bind_some, List.mem_flatMap, List.mem_map,
        Prod.exists, Option.bind_eq_some_iff]
      constructor
      · intro shown
        rcases shown with ⟨_, slot, listed, _, _, entry, same⟩
        cases same
        exact ⟨slot, Std.ExtTreeMap.mem_toList_iff_getElem?_eq_some.mp listed,
          (index.mem_entriesAt _ _ _).mp entry⟩
      · intro stored
        rcases stored with ⟨slot, found, entry⟩
        exact ⟨innerId, slot, Std.ExtTreeMap.mem_toList_iff_getElem?_eq_some.mpr found,
          thirdId, value, (index.mem_entriesAt _ _ _).mpr entry, rfl⟩

/-- Two entries of one row differ in the pair's other identifier or, below one leaf, in
the third one. -/
theorem distinct_entriesBelow (row : Option (Std.ExtTreeMap (Id inner) Nat)) :
    (index.entriesBelow row).Pairwise fun left right =>
      ¬(left.1 = right.1 ∧ left.2.1 = right.2.1) := by
  unfold entriesBelow
  rw [List.pairwise_flatMap]
  constructor
  · intro link _
    rw [List.pairwise_map]
    refine (index.distinct_entriesAt link.2).imp ?_
    intro left right different same
    exact different same.2
  · refine (Map.distinct_names (row.getD ∅)).imp ?_
    intro leftLink rightLink different left leftListed right rightListed same
    rcases List.mem_map.mp leftListed with ⟨_, _, rfl⟩
    rcases List.mem_map.mp rightListed with ⟨_, _, rfl⟩
    exact different same.1

/-! ## First identifiers -/

/-- An identifier below which an entry is stored is one of the listed ones. -/
theorem mem_firsts_of_value?
    {firstId : Id first}
    {secondId : Id second}
    {thirdId : Id third}
    {value : String}
    (found : index.value? firstId secondId thirdId = some value) :
    firstId ∈ index.firsts := by
  unfold firsts
  rw [Std.ExtTreeMap.mem_keys]
  by_cases member : firstId ∈ index.forward
  · exact member
  · simp [value?, slot?, Parent.slot?, Std.ExtTreeMap.getElem?_eq_none member] at found

theorem nodup_firsts : index.firsts.Nodup :=
  Std.ExtTreeMap.nodup_keys

end TripleStore.PairIndex
