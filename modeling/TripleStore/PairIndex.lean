import TripleStore.Id

/-!
Contract: an index over pairs of identifiers that can be entered from either side.

Owns:
- the leaf of a pair, which maps identifiers of a third role to payloads;
- the two parent maps that lead to a leaf, one entered by the first identifier of
  the pair and one by the second;
- writing and erasing an entry, and listing the entries below a pair, below a
  first identifier and below a second one.

Does not own: which roles of a triple the three positions hold.

Both parent maps store positions in one array of leaves, so a write made through
one side is seen through the other. A leaf is made when its pair is first written
and is never taken away, not even when its last entry is erased.
-/

namespace TripleStore

abbrev Leaf (third : IdSpace) := Std.ExtTreeMap (Id third) String

/-- Positions of leaves by an outer and an inner identifier. -/
abbrev Parent (outer inner : IdSpace) :=
  Std.ExtTreeMap (Id outer) (Std.ExtTreeMap (Id inner) Nat)

namespace Parent

variable {outer inner : IdSpace}

def slot? (parent : Parent outer inner) (outerId : Id outer) (innerId : Id inner) :
    Option Nat :=
  parent[outerId]?.bind fun row => row[innerId]?

/-- Store a position for the two identifiers unless they have one already. -/
def link
    (parent : Parent outer inner)
    (outerId : Id outer)
    (innerId : Id inner)
    (slot : Nat) :
    Parent outer inner :=
  parent.insert outerId ((parent.getD outerId ∅).insertIfNew innerId slot)

end Parent

/-- Leaves for pairs of a first and a second identifier, entered from either. -/
structure PairIndex (first second third : IdSpace) where
  forward : Parent first second
  backward : Parent second first
  leaves : Array (Leaf third)

namespace PairIndex

variable {first second third : IdSpace}

def empty : PairIndex first second third where
  forward := ∅
  backward := ∅
  leaves := #[]

def slot?
    (index : PairIndex first second third)
    (firstId : Id first)
    (secondId : Id second) :
    Option Nat :=
  index.forward.slot? firstId secondId

def backwardSlot?
    (index : PairIndex first second third)
    (firstId : Id first)
    (secondId : Id second) :
    Option Nat :=
  index.backward.slot? secondId firstId

def valueAt?
    (index : PairIndex first second third)
    (slot : Nat)
    (thirdId : Id third) :
    Option String :=
  index.leaves[slot]?.bind fun leaf => leaf[thirdId]?

def value?
    (index : PairIndex first second third)
    (firstId : Id first)
    (secondId : Id second)
    (thirdId : Id third) :
    Option String :=
  (index.slot? firstId secondId).bind fun slot => index.valueAt? slot thirdId

/-- Make an empty leaf for a pair that has none. The result is the position of the
pair's leaf and the index that has it. -/
def ensureSlot
    (index : PairIndex first second third)
    (firstId : Id first)
    (secondId : Id second) :
    Nat × PairIndex first second third :=
  match index.slot? firstId secondId with
  | some slot => (slot, index)
  | none =>
      (index.leaves.size,
        { index with
          forward := index.forward.link firstId secondId index.leaves.size
          leaves := index.leaves.push ∅ })

def insert
    (index : PairIndex first second third)
    (firstId : Id first)
    (secondId : Id second)
    (thirdId : Id third)
    (value : String) :
    PairIndex first second third :=
  let (slot, grown) := index.ensureSlot firstId secondId
  { forward := grown.forward
    backward := grown.backward.link secondId firstId slot
    leaves := grown.leaves.modify slot (·.insert thirdId value) }

def erase
    (index : PairIndex first second third)
    (firstId : Id first)
    (secondId : Id second)
    (thirdId : Id third) :
    PairIndex first second third :=
  match index.slot? firstId secondId with
  | some slot => { index with leaves := index.leaves.modify slot (·.erase thirdId) }
  | none => index

def entriesAt (index : PairIndex first second third) (slot : Nat) :
    List (Id third × String) :=
  (index.leaves[slot]?.map (·.toList)).getD []

def entries
    (index : PairIndex first second third)
    (firstId : Id first)
    (secondId : Id second) :
    List (Id third × String) :=
  ((index.slot? firstId secondId).map index.entriesAt).getD []

def entriesBelow
    {inner : IdSpace}
    (index : PairIndex first second third)
    (row : Option (Std.ExtTreeMap (Id inner) Nat)) :
    List (Id inner × Id third × String) :=
  (row.getD ∅).toList.flatMap fun (innerId, slot) =>
    (index.entriesAt slot).map fun (thirdId, value) => (innerId, thirdId, value)

def entriesOfFirst (index : PairIndex first second third) (firstId : Id first) :
    List (Id second × Id third × String) :=
  index.entriesBelow index.forward[firstId]?

def entriesOfSecond (index : PairIndex first second third) (secondId : Id second) :
    List (Id first × Id third × String) :=
  index.entriesBelow index.backward[secondId]?

/-- The first identifiers of all pairs that were ever written. -/
def firsts (index : PairIndex first second third) : List (Id first) :=
  index.forward.keys

/-- The number of leaves, empty ones included. -/
def leafCount (index : PairIndex first second third) : Nat :=
  index.leaves.size

end PairIndex

end TripleStore
