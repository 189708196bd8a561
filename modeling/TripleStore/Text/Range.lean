/-!
Contract: sets of characters given as ranges.

Owns: membership in such a set.

Does not own: any particular set.
-/

namespace TripleStore.Text

/-- Whether the character lies in one of the ranges, both ends included. -/
def inRanges (ranges : List (Nat × Nat)) (character : Char) : Bool :=
  ranges.any fun (first, last) => first ≤ character.toNat && character.toNat ≤ last

end TripleStore.Text
