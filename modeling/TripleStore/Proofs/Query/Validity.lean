import Mathlib.Data.List.Nodup
import TripleStore.Query.Validity

/-!
Contract: what the variables of a query without a fault have in common.

Owns:
- when a list has no repeated element, as the search for one says it;
- `SelectQuery.Valid`, which a query is exactly if no fault is found;
- that a variable of a valid query has one slot of the pattern.

Does not own: which of several faults is reported (`TripleStore.Query.Validity`).
-/

namespace TripleStore.Query

theorem firstRepeatAfter?_eq_none_iff
    {α : Type}
    [DecidableEq α]
    (seen elements : List α) :
    firstRepeatAfter? seen elements = none ↔
      elements.Nodup ∧ ∀ element ∈ elements, element ∉ seen := by
  induction elements generalizing seen with
  | nil => simp [firstRepeatAfter?]
  | cons head tail inductionHypothesis =>
      rw [firstRepeatAfter?]
      by_cases repeated : head ∈ seen
      · simp [repeated]
      · rw [if_neg repeated, inductionHypothesis, List.nodup_cons]
        simp only [List.mem_cons, not_or, forall_eq_or_imp]
        constructor
        · intro tailSound
          rcases tailSound with ⟨nodup, fresh⟩
          exact ⟨⟨fun member => (fresh head member).1 rfl, nodup⟩, repeated,
            fun element member => (fresh element member).2⟩
        · intro sound
          rcases sound with ⟨⟨fresh, nodup⟩, _, others⟩
          refine ⟨nodup, fun element member => ⟨?_, others element member⟩⟩
          rintro rfl
          exact fresh member

theorem firstRepeat?_eq_none_iff {α : Type} [DecidableEq α] (elements : List α) :
    firstRepeat? elements = none ↔ elements.Nodup := by
  simp [firstRepeat?, firstRepeatAfter?_eq_none_iff]

namespace Pattern

/-- The slot of a role. -/
def slot (pattern : Pattern) : Role → Slot
  | .subject => pattern.subject
  | .predicate => pattern.predicate
  | .object => pattern.object

theorem mem_placeholders_iff (pattern : Pattern) (role : Role) (name : Variable) :
    (role, name) ∈ pattern.placeholders ↔ pattern.slot role = .placeholder name := by
  have inSlot : ∀ slot : Slot, slot.placeholder? = some name ↔ slot = .placeholder name := by
    rintro (other | term) <;> simp [Slot.placeholder?]
  cases role <;> simp [placeholders, slots, slot, inSlot]

theorem mem_allVariables_iff (pattern : Pattern) (name : Variable) :
    name ∈ pattern.allVariables ↔ ∃ role, pattern.slot role = .placeholder name := by
  simp [allVariables, ← mem_placeholders_iff]

/-- Where no variable repeats, two slots never hold the same one. -/
theorem role_unique
    {pattern : Pattern}
    (nodup : pattern.allVariables.Nodup)
    {left right : Role}
    {name : Variable}
    (inLeft : pattern.slot left = .placeholder name)
    (inRight : pattern.slot right = .placeholder name) :
    left = right := by
  have leftMember := (pattern.mem_placeholders_iff left name).mpr inLeft
  have rightMember := (pattern.mem_placeholders_iff right name).mpr inRight
  exact congrArg Prod.fst (List.inj_on_of_nodup_map nodup leftMember rightMember rfl)

end Pattern

namespace SelectQuery

/-- No variable is listed twice or placed twice, and each listed one is placed. -/
structure Valid (query : SelectQuery) : Prop where
  listed : query.listedVariables.Nodup
  placed : query.pattern.allVariables.Nodup
  bound : ∀ wanted ∈ query.listedVariables, wanted ∈ query.pattern.allVariables

theorem invalidity?_eq_none_iff (query : SelectQuery) :
    query.invalidity? = none ↔ query.Valid := by
  unfold invalidity?
  simp only [Option.orElse_eq_orElse, Option.orElse_eq_or, Option.or_eq_none_iff,
    Option.map_eq_none_iff, firstRepeat?_eq_none_iff, List.find?_eq_none]
  constructor
  · intro passed
    rcases passed with ⟨listed, placed, bound⟩
    exact ⟨listed, placed, by simpa using bound⟩
  · intro valid
    exact ⟨valid.listed, valid.placed, by simpa using valid.bound⟩

theorem Valid.mem_allVariables
    {query : SelectQuery}
    (valid : query.Valid)
    {wanted : Variable}
    (member : wanted ∈ query.projected) :
    wanted ∈ query.pattern.allVariables := by
  have bound := valid.bound wanted
  unfold projected at member
  unfold listedVariables at bound
  cases projection : query.projection with
  | all => simpa [projection] using member
  | listed chosen => exact bound (by simpa [projection] using member)

/-- A projected variable has exactly one slot to show. -/
theorem Valid.existsUnique_role
    {query : SelectQuery}
    (valid : query.Valid)
    {wanted : Variable}
    (member : wanted ∈ query.projected) :
    ∃! role, query.pattern.slot role = .placeholder wanted := by
  rcases (query.pattern.mem_allVariables_iff wanted).mp (valid.mem_allVariables member) with
    ⟨role, inSlot⟩
  refine ⟨role, inSlot, ?_⟩
  intro other inOther
  exact Pattern.role_unique valid.placed inOther inSlot

end SelectQuery

end TripleStore.Query
