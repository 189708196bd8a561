import TripleStore.PairIndex

/-!
Contract: the shape that writing and erasing keep a pair index in.

Owns:
- what linking a pair does to a parent map;
- `PairIndex.Coherent`, by which both parent maps lead to the same leaves and each
  leaf belongs to exactly one pair;
- what writing and erasing an entry do to the positions and to the payloads.

Does not own: listing entries (`TripleStore.Proofs.PairIndex.Listing`).
-/

namespace TripleStore

namespace Parent

variable {outer inner : IdSpace}

@[simp] theorem slot?_empty (outerId : Id outer) (innerId : Id inner) :
    slot? (∅ : Parent outer inner) outerId innerId = none := by
  simp [slot?]

/-- A row keeps the position that it has for an identifier. -/
theorem getElem?_insertIfNew
    (row : Std.ExtTreeMap (Id inner) Nat)
    (innerId otherInner : Id inner)
    (slot : Nat) :
    (row.insertIfNew innerId slot)[otherInner]? =
      if innerId = otherInner then some (row[innerId]?.getD slot) else row[otherInner]? := by
  rw [Std.ExtTreeMap.getElem?_insertIfNew]
  by_cases same : innerId = otherInner
  · subst same
    by_cases member : innerId ∈ row <;> simp [member]
  · simp [same]

/-- A pair keeps the position that it has. -/
theorem slot?_link
    (parent : Parent outer inner)
    (outerId otherOuter : Id outer)
    (innerId otherInner : Id inner)
    (slot : Nat) :
    (parent.link outerId innerId slot).slot? otherOuter otherInner =
      if outerId = otherOuter ∧ innerId = otherInner then
        some ((parent.slot? outerId innerId).getD slot)
      else parent.slot? otherOuter otherInner := by
  unfold slot? link
  rw [Std.ExtTreeMap.getElem?_insert]
  by_cases sameOuter : outerId = otherOuter
  · subst sameOuter
    rw [Std.ExtTreeMap.getD_eq_getD_getElem?]
    cases row : parent[outerId]? <;> simp [getElem?_insertIfNew]
  · simp [sameOuter]

end Parent

namespace PairIndex

variable {first second third : IdSpace}
variable (index : PairIndex first second third)
variable (firstId otherFirst : Id first) (secondId otherSecond : Id second)
variable (thirdId otherThird : Id third) (value : String)

/-- The position that a write of the pair goes to: the one it has, or the next free
one. -/
def slotFor : Nat :=
  (index.slot? firstId secondId).getD index.leaves.size

/-- Both parent maps lead to the same leaves, and the leaves belong to the pairs one
to one. -/
structure Coherent : Prop where
  /-- The two sides store one position for a pair. -/
  shared : ∀ firstId secondId,
    index.slot? firstId secondId = index.backwardSlot? firstId secondId
  /-- A stored position is one of a leaf. -/
  inBounds : ∀ firstId secondId slot,
    index.slot? firstId secondId = some slot → slot < index.leaves.size
  /-- Two pairs never store one position. -/
  injective : ∀ firstId secondId otherFirst otherSecond slot,
    index.slot? firstId secondId = some slot →
      index.slot? otherFirst otherSecond = some slot →
        firstId = otherFirst ∧ secondId = otherSecond
  /-- Every leaf belongs to a pair. -/
  covered : ∀ slot < index.leaves.size,
    ∃ firstId secondId, index.slot? firstId secondId = some slot

/-! ## Positions -/

@[simp] theorem slot?_empty :
    (empty : PairIndex first second third).slot? firstId secondId = none :=
  Parent.slot?_empty firstId secondId

@[simp] theorem backwardSlot?_empty :
    (empty : PairIndex first second third).backwardSlot? firstId secondId = none :=
  Parent.slot?_empty secondId firstId

/-- The position that a write uses, and the index once it has a leaf there. -/
theorem ensureSlot_eq :
    index.ensureSlot firstId secondId =
      (index.slotFor firstId secondId,
        match index.slot? firstId secondId with
        | some _ => index
        | none =>
            { index with
              forward := index.forward.link firstId secondId index.leaves.size
              leaves := index.leaves.push ∅ }) := by
  unfold ensureSlot slotFor
  split <;> simp_all

theorem slot?_insert :
    (index.insert firstId secondId thirdId value).slot? otherFirst otherSecond =
      if firstId = otherFirst ∧ secondId = otherSecond then
        some (index.slotFor firstId secondId)
      else index.slot? otherFirst otherSecond := by
  unfold insert
  rw [ensureSlot_eq]
  cases found : index.slot? firstId secondId with
  | none =>
      have notLinked : index.forward.slot? firstId secondId = none := found
      simp [slot?, Parent.slot?_link, notLinked, slotFor]
  | some slot =>
      by_cases same : firstId = otherFirst ∧ secondId = otherSecond
      · rcases same with ⟨rfl, rfl⟩
        rw [if_pos ⟨rfl, rfl⟩, slotFor, found]
        exact found
      · rw [if_neg same]
        rfl

theorem backwardSlot?_insert :
    (index.insert firstId secondId thirdId value).backwardSlot? otherFirst otherSecond =
      if firstId = otherFirst ∧ secondId = otherSecond then
        some ((index.backwardSlot? firstId secondId).getD (index.slotFor firstId secondId))
      else index.backwardSlot? otherFirst otherSecond := by
  unfold insert
  rw [ensureSlot_eq]
  cases index.slot? firstId secondId <;>
    simp [backwardSlot?, Parent.slot?_link, and_comm]

theorem size_leaves_insert :
    (index.insert firstId secondId thirdId value).leaves.size =
      if (index.slot? firstId secondId).isSome then index.leaves.size
      else index.leaves.size + 1 := by
  unfold insert
  rw [ensureSlot_eq]
  cases index.slot? firstId secondId <;> simp

@[simp] theorem forward_erase :
    (index.erase firstId secondId thirdId).forward = index.forward := by
  unfold erase
  split <;> rfl

@[simp] theorem backward_erase :
    (index.erase firstId secondId thirdId).backward = index.backward := by
  unfold erase
  split <;> rfl

@[simp] theorem slot?_erase :
    (index.erase firstId secondId thirdId).slot? otherFirst otherSecond =
      index.slot? otherFirst otherSecond := by
  rw [slot?, forward_erase, slot?]

@[simp] theorem backwardSlot?_erase :
    (index.erase firstId secondId thirdId).backwardSlot? otherFirst otherSecond =
      index.backwardSlot? otherFirst otherSecond := by
  rw [backwardSlot?, backward_erase, backwardSlot?]

@[simp] theorem size_leaves_erase :
    (index.erase firstId secondId thirdId).leaves.size = index.leaves.size := by
  unfold erase
  split <;> simp

/-- The position that a write of the pair goes to is one of no other pair. -/
theorem Coherent.slotFor_ne
    {index : PairIndex first second third}
    (coherent : index.Coherent)
    {firstId otherFirst : Id first}
    {secondId otherSecond : Id second}
    {slot : Nat}
    (different : ¬(firstId = otherFirst ∧ secondId = otherSecond))
    (found : index.slot? otherFirst otherSecond = some slot) :
    index.slotFor firstId secondId ≠ slot := by
  intro same
  unfold slotFor at same
  cases linked : index.slot? firstId secondId with
  | none =>
      have below := coherent.inBounds _ _ _ found
      simp only [linked, Option.getD_none] at same
      omega
  | some own =>
      simp only [linked, Option.getD_some] at same
      subst same
      exact different (coherent.injective _ _ _ _ _ linked found)

/-- After a write the pair's position is one of a leaf. -/
theorem Coherent.slotFor_lt
    {index : PairIndex first second third}
    (coherent : index.Coherent)
    (firstId : Id first)
    (secondId : Id second)
    (thirdId : Id third)
    (value : String) :
    index.slotFor firstId secondId <
      (index.insert firstId secondId thirdId value).leaves.size := by
  rw [size_leaves_insert]
  unfold slotFor
  cases found : index.slot? firstId secondId with
  | none => simp
  | some slot => simpa using coherent.inBounds _ _ _ found

/-! ## The shape is kept -/

theorem coherent_empty : (empty : PairIndex first second third).Coherent where
  shared := by simp
  inBounds := by simp
  injective := by simp
  covered := by simp [empty]

theorem Coherent.insert
    {index : PairIndex first second third}
    (coherent : index.Coherent)
    (firstId : Id first)
    (secondId : Id second)
    (thirdId : Id third)
    (value : String) :
    (index.insert firstId secondId thirdId value).Coherent where
  shared := by
    intro otherFirst otherSecond
    rw [slot?_insert, backwardSlot?_insert, ← coherent.shared, ← coherent.shared]
    unfold slotFor
    cases index.slot? firstId secondId <;> simp
  inBounds := by
    intro otherFirst otherSecond slot found
    have ownBelow := coherent.slotFor_lt firstId secondId thirdId value
    rw [slot?_insert] at found
    split at found
    · rw [Option.some.injEq] at found
      omega
    · have below := coherent.inBounds _ _ _ found
      rw [size_leaves_insert]
      split <;> omega
  injective := by
    intro leftFirst leftSecond rightFirst rightSecond slot leftFound rightFound
    rw [slot?_insert] at leftFound rightFound
    split at leftFound <;> split at rightFound
    · next left right => exact ⟨left.1.symm.trans right.1, left.2.symm.trans right.2⟩
    · next _ right =>
        exact absurd (Option.some.inj leftFound) (coherent.slotFor_ne right rightFound)
    · next left _ =>
        exact absurd (Option.some.inj rightFound) (coherent.slotFor_ne left leftFound)
    · exact coherent.injective _ _ _ _ _ leftFound rightFound
  covered := by
    intro slot below
    by_cases own : index.slotFor firstId secondId = slot
    · exact ⟨firstId, secondId, by simp [slot?_insert, own]⟩
    · -- Any other position was there before, since only the pair's own one is new.
      have oldBelow : slot < index.leaves.size := by
        rw [size_leaves_insert] at below
        unfold slotFor at own
        cases found : index.slot? firstId secondId <;> simp [found] at below own <;> omega
      rcases coherent.covered slot oldBelow with ⟨otherFirst, otherSecond, found⟩
      refine ⟨otherFirst, otherSecond, ?_⟩
      rw [slot?_insert, if_neg, found]
      intro same
      rcases same with ⟨rfl, rfl⟩
      exact own (by simp [slotFor, found])

theorem Coherent.erase
    {index : PairIndex first second third}
    (coherent : index.Coherent)
    (firstId : Id first)
    (secondId : Id second)
    (thirdId : Id third) :
    (index.erase firstId secondId thirdId).Coherent where
  shared := by simpa using coherent.shared
  inBounds := by simpa using coherent.inBounds
  injective := by simpa using coherent.injective
  covered := by simpa using coherent.covered

/-! ## Payloads -/

@[simp] theorem value?_empty :
    (empty : PairIndex first second third).value? firstId secondId thirdId = none := by
  simp [value?]

/-- No payload lies behind the last leaf. -/
theorem valueAt?_size (thirdId : Id third) :
    index.valueAt? index.leaves.size thirdId = none := by
  simp [valueAt?]

theorem valueAt?_slotFor :
    index.valueAt? (index.slotFor firstId secondId) thirdId =
      index.value? firstId secondId thirdId := by
  unfold value? slotFor
  cases index.slot? firstId secondId with
  | none => simpa using index.valueAt?_size thirdId
  | some slot => rfl

theorem Coherent.bind_backwardSlot?
    {index : PairIndex first second third}
    (coherent : index.Coherent)
    (firstId : Id first)
    (secondId : Id second)
    (thirdId : Id third) :
    ((index.backwardSlot? firstId secondId).bind fun slot => index.valueAt? slot thirdId) =
      index.value? firstId secondId thirdId := by
  rw [← coherent.shared]
  rfl

theorem Coherent.valueAt?_insert
    {index : PairIndex first second third}
    (coherent : index.Coherent)
    (firstId : Id first)
    (secondId : Id second)
    (thirdId otherThird : Id third)
    (value : String)
    (slot : Nat) :
    (index.insert firstId secondId thirdId value).valueAt? slot otherThird =
      if index.slotFor firstId secondId = slot ∧ thirdId = otherThird then some value
      else index.valueAt? slot otherThird := by
  unfold PairIndex.insert
  rw [ensureSlot_eq]
  unfold slotFor valueAt?
  cases found : index.slot? firstId secondId with
  | none =>
      -- The leaf is new, so nothing but the write is in it.
      rw [Option.getD_none, Array.getElem?_modify, Array.getElem?_push]
      by_cases own : index.leaves.size = slot
      · subst own
        simp [Std.ExtTreeMap.getElem?_insert]
      · simp [own, Ne.symm own]
  | some linked =>
      have below := coherent.inBounds _ _ _ found
      rw [Option.getD_some, Array.getElem?_modify]
      by_cases own : linked = slot
      · subst own
        simp [Array.getElem?_eq_getElem below, Std.ExtTreeMap.getElem?_insert]
      · simp [own]

/-- A write is seen at its own entry and nowhere else. -/
theorem Coherent.value?_insert
    {index : PairIndex first second third}
    (coherent : index.Coherent)
    (firstId otherFirst : Id first)
    (secondId otherSecond : Id second)
    (thirdId otherThird : Id third)
    (value : String) :
    (index.insert firstId secondId thirdId value).value? otherFirst otherSecond otherThird =
      if firstId = otherFirst ∧ secondId = otherSecond ∧ thirdId = otherThird then
        some value
      else index.value? otherFirst otherSecond otherThird := by
  rw [PairIndex.value?, slot?_insert]
  by_cases samePair : firstId = otherFirst ∧ secondId = otherSecond
  · rcases samePair with ⟨rfl, rfl⟩
    simp [coherent.valueAt?_insert, valueAt?_slotFor]
  · rw [if_neg samePair, if_neg (fun same => samePair ⟨same.1, same.2.1⟩), PairIndex.value?]
    cases found : index.slot? otherFirst otherSecond with
    | none => rfl
    | some slot =>
        have elsewhere := coherent.slotFor_ne samePair found
        simp [coherent.valueAt?_insert, elsewhere]

theorem valueAt?_erase (slot : Nat) :
    (index.erase firstId secondId thirdId).valueAt? slot otherThird =
      if index.slot? firstId secondId = some slot ∧ thirdId = otherThird then none
      else index.valueAt? slot otherThird := by
  unfold erase valueAt?
  cases index.slot? firstId secondId with
  | none => simp
  | some linked =>
      rw [Array.getElem?_modify]
      by_cases own : linked = slot
      · subst own
        by_cases same : thirdId = otherThird <;>
          cases index.leaves[linked]? <;> simp [Std.ExtTreeMap.getElem?_erase, same]
      · simp [own]

/-- An erased entry is gone, and no other entry is. -/
theorem Coherent.value?_erase
    {index : PairIndex first second third}
    (coherent : index.Coherent)
    (firstId otherFirst : Id first)
    (secondId otherSecond : Id second)
    (thirdId otherThird : Id third) :
    (index.erase firstId secondId thirdId).value? otherFirst otherSecond otherThird =
      if firstId = otherFirst ∧ secondId = otherSecond ∧ thirdId = otherThird then none
      else index.value? otherFirst otherSecond otherThird := by
  unfold PairIndex.value?
  rw [slot?_erase]
  cases found : index.slot? otherFirst otherSecond with
  | none => simp
  | some slot =>
      have samePair_iff : index.slot? firstId secondId = some slot ↔
          firstId = otherFirst ∧ secondId = otherSecond := by
        constructor
        · intro linked
          exact coherent.injective _ _ _ _ _ linked found
        · intro samePair
          rcases samePair with ⟨rfl, rfl⟩
          exact found
      simp [valueAt?_erase, samePair_iff, and_assoc]

end PairIndex

end TripleStore
