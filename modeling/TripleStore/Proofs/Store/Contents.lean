import Mathlib.Logic.Basic
import TripleStore.Proofs.PairIndex.Coherence
import TripleStore.Triple

/-!
Contract: pair indexes as views of one plain map from keys to payloads.

Owns:
- `Contents`, payloads by key in one map, and the order on keys that it needs;
- `Layout`, how the three identifiers of an index make up a key;
- `PairIndex.Holds`, by which an index holds the payloads of a map and no others, and
  that writing and erasing keep it.

Does not own: which indexes a store has (`TripleStore.Store`).
-/

namespace TripleStore

/-- Keys compare by subject, then predicate, then object. -/
instance : Ord Key where
  compare :=
    compareLex (compareOn Key.subject)
      (compareLex (compareOn Key.predicate) (compareOn Key.object))

instance : Std.TransOrd Key :=
  inferInstanceAs (Std.TransCmp (compareLex (compareOn Key.subject)
    (compareLex (compareOn Key.predicate) (compareOn Key.object))))

instance : Std.LawfulEqOrd Key where
  eq_of_compare {left right} same := by
    obtain ⟨subjects, rest⟩ := Ordering.then_eq_eq.mp same
    obtain ⟨predicates, objects⟩ := Ordering.then_eq_eq.mp rest
    have sameSubject := Std.LawfulEqOrd.eq_of_compare subjects
    have samePredicate := Std.LawfulEqOrd.eq_of_compare predicates
    have sameObject := Std.LawfulEqOrd.eq_of_compare objects
    cases left
    cases right
    simp_all

/-- Payloads by key, in one plain map. -/
abbrev Contents := Std.ExtTreeMap Key String

/-- How the identifiers of an index, in its order, make up a key. -/
structure Layout (first second third : IdSpace) where
  key : Id first → Id second → Id third → Key
  injective : ∀ {firstId otherFirst secondId otherSecond thirdId otherThird},
    key firstId secondId thirdId = key otherFirst otherSecond otherThird →
      firstId = otherFirst ∧ secondId = otherSecond ∧ thirdId = otherThird

namespace Layout

/-- Subject and predicate lead to the objects. -/
def objects : Layout .entity .predicate .entity where
  key subject predicate object := { subject, predicate, object }
  injective := by
    rintro _ _ _ _ _ _ ⟨⟩
    exact ⟨rfl, rfl, rfl⟩

/-- Subject and object lead to the predicates. -/
def predicates : Layout .entity .entity .predicate where
  key subject object predicate := { subject, predicate, object }
  injective := by
    rintro _ _ _ _ _ _ ⟨⟩
    exact ⟨rfl, rfl, rfl⟩

/-- Predicate and object lead to the subjects. -/
def subjects : Layout .predicate .entity .entity where
  key predicate object subject := { subject, predicate, object }
  injective := by
    rintro _ _ _ _ _ _ ⟨⟩
    exact ⟨rfl, rfl, rfl⟩

variable {first second third : IdSpace}

theorem key_eq_iff
    (layout : Layout first second third)
    {firstId otherFirst : Id first}
    {secondId otherSecond : Id second}
    {thirdId otherThird : Id third} :
    layout.key firstId secondId thirdId = layout.key otherFirst otherSecond otherThird ↔
      firstId = otherFirst ∧ secondId = otherSecond ∧ thirdId = otherThird := by
  refine ⟨layout.injective, ?_⟩
  rintro ⟨rfl, rfl, rfl⟩
  rfl

end Layout

namespace PairIndex

variable {first second third : IdSpace}

/-- The index is coherent, and its payloads are those of the map. -/
structure Holds
    (index : PairIndex first second third)
    (layout : Layout first second third)
    (contents : Contents) : Prop where
  coherent : index.Coherent
  value?_eq : ∀ firstId secondId thirdId,
    index.value? firstId secondId thirdId =
      contents[layout.key firstId secondId thirdId]?

variable {index : PairIndex first second third} {layout : Layout first second third}
variable {contents : Contents}

theorem holds_empty (layout : Layout first second third) :
    (empty : PairIndex first second third).Holds layout ∅ where
  coherent := coherent_empty
  value?_eq := by simp

theorem Holds.insert
    (holds : index.Holds layout contents)
    (firstId : Id first)
    (secondId : Id second)
    (thirdId : Id third)
    (value : String) :
    (index.insert firstId secondId thirdId value).Holds layout
      (contents.insert (layout.key firstId secondId thirdId) value) where
  coherent := holds.coherent.insert _ _ _ _
  value?_eq := by
    intro otherFirst otherSecond otherThird
    rw [holds.coherent.value?_insert, holds.value?_eq, Std.ExtTreeMap.getElem?_insert]
    exact if_congr (by simp [layout.key_eq_iff]) rfl rfl

theorem Holds.erase
    (holds : index.Holds layout contents)
    (firstId : Id first)
    (secondId : Id second)
    (thirdId : Id third) :
    (index.erase firstId secondId thirdId).Holds layout
      (contents.erase (layout.key firstId secondId thirdId)) where
  coherent := holds.coherent.erase _ _ _
  value?_eq := by
    intro otherFirst otherSecond otherThird
    rw [holds.coherent.value?_erase, holds.value?_eq, Std.ExtTreeMap.getElem?_erase]
    exact if_congr (by simp [layout.key_eq_iff]) rfl rfl

end PairIndex

end TripleStore
