import Mathlib.Data.List.Perm.Subperm
import TripleStore.Proofs.Query.Validity

/-!
Contract: which fault of a query is reported.

Owns:
- `IsFirstRepeat`, by which an element is the first of a list to come again, and that the
  search for it finds nothing else;
- `SelectQuery.FirstFault`, the fault that comes first in the order of the checks, and
  that it is the one reported;
- what can be relied on where no fault is reported.

Does not own: when a query has no fault (`TripleStore.Proofs.Query.Validity`).
-/

namespace TripleStore.Query

/-! ## The first repeat of a list -/

/-- The element equals one before it, and those before it all differ. -/
def IsFirstRepeat {α : Type} (elements : List α) (repeated : α) : Prop :=
  ∃ front back, elements = front ++ repeated :: back ∧ front.Nodup ∧ repeated ∈ front

variable {α : Type} [DecidableEq α]

/-- The first repeat is the end of the shortest front that has one. What was seen counts as
standing before the list. -/
theorem firstRepeatAfter?_eq_some_iff
    (seen elements : List α)
    (repeated : α) :
    firstRepeatAfter? seen elements = some repeated ↔
      ∃ front back, elements = front ++ repeated :: back ∧
        firstRepeatAfter? seen front = none ∧ (repeated ∈ front ∨ repeated ∈ seen) := by
  induction elements generalizing seen with
  | nil => simp [firstRepeatAfter?]
  | cons head tail inductionHypothesis =>
      rw [firstRepeatAfter?]
      by_cases old : head ∈ seen
      · rw [if_pos old, Option.some.injEq]
        constructor
        · rintro rfl
          exact ⟨[], tail, rfl, rfl, .inr old⟩
        · rintro ⟨_ | ⟨first, front⟩, back, split, noRepeat, _⟩
          · exact (List.cons.inj split).1
          · obtain ⟨rfl, _⟩ := List.cons.inj split
            simp [firstRepeatAfter?, old] at noRepeat
      · have goesOn (front : List α) :
            firstRepeatAfter? seen (head :: front) = firstRepeatAfter? (head :: seen) front := by
          rw [firstRepeatAfter?, if_neg old]
        rw [if_neg old, inductionHypothesis]
        constructor
        · rintro ⟨front, back, rfl, noRepeat, again⟩
          refine ⟨head :: front, back, rfl, (goesOn front).trans noRepeat, ?_⟩
          rw [List.mem_cons] at again ⊢
          tauto
        · rintro ⟨_ | ⟨first, front⟩, back, split, noRepeat, again⟩
          · obtain ⟨rfl, rfl⟩ := List.cons.inj split
            simp [old] at again
          · obtain ⟨rfl, rfl⟩ := List.cons.inj split
            refine ⟨front, back, rfl, (goesOn front).symm.trans noRepeat, ?_⟩
            rw [List.mem_cons] at again ⊢
            tauto

theorem firstRepeat?_eq_some_iff (elements : List α) (repeated : α) :
    firstRepeat? elements = some repeated ↔ IsFirstRepeat elements repeated := by
  simp [firstRepeat?, firstRepeatAfter?_eq_some_iff, firstRepeatAfter?_eq_none_iff,
    IsFirstRepeat]

namespace Pattern

/-- No variable comes twice exactly if no two slots hold the same one. -/
theorem nodup_allVariables_iff (pattern : Pattern) :
    pattern.allVariables.Nodup ↔
      ∀ name left right, pattern.slot left = .placeholder name →
        pattern.slot right = .placeholder name → left = right := by
  constructor
  · intro nodup name left right inLeft inRight
    exact role_unique nodup inLeft inRight
  · intro unique
    have roles : (pattern.placeholders.map Prod.fst).Nodup := by
      obtain ⟨_ | _, _ | _, _ | _⟩ := pattern <;>
        simp [placeholders, slots, Slot.placeholder?]
    rw [allVariables, List.nodup_map_iff_inj_on roles.of_map]
    rintro ⟨left, name⟩ inLeft ⟨right, other⟩ inRight rfl
    rw [mem_placeholders_iff] at inLeft inRight
    rw [unique name left right inLeft inRight]

theorem length_allVariables_le (pattern : Pattern) : pattern.allVariables.length ≤ 3 := by
  rw [allVariables, List.length_map]
  exact List.length_filterMap_le _ pattern.slots

end Pattern

namespace SelectQuery

/-! ## The reported fault -/

/-- The fault comes first: a repeated projection before a repeated placeholder, both before
an unbound projection, and of each kind the first in its list. -/
def FirstFault (query : SelectQuery) : Invalidity → Prop
  | .repeatedProjection name => IsFirstRepeat query.listedVariables name
  | .repeatedPlaceholder name =>
      query.listedVariables.Nodup ∧ IsFirstRepeat query.pattern.allVariables name
  | .unboundProjection name =>
      query.listedVariables.Nodup ∧ query.pattern.allVariables.Nodup ∧
        name ∉ query.pattern.allVariables ∧
          ∃ front back, query.listedVariables = front ++ name :: back ∧
            ∀ earlier ∈ front, earlier ∈ query.pattern.allVariables

theorem invalidity?_eq_some_iff (query : SelectQuery) (fault : Invalidity) :
    query.invalidity? = some fault ↔ query.FirstFault fault := by
  unfold invalidity?
  simp only [Option.orElse_eq_orElse, Option.orElse_eq_or, Option.or_eq_some_iff,
    Option.map_eq_some_iff, Option.map_eq_none_iff, firstRepeat?_eq_none_iff,
    firstRepeat?_eq_some_iff, List.find?_eq_some_iff_append]
  cases fault with
  | repeatedProjection name => simp [FirstFault]
  | repeatedPlaceholder name => simp [FirstFault]
  | unboundProjection name =>
      simp [FirstFault]

/-! ## Queries without a fault -/

theorem Valid.length_projected_le {query : SelectQuery} (valid : query.Valid) :
    query.projected.length ≤ 3 := by
  refine Nat.le_trans ?_ query.pattern.length_allVariables_le
  cases projection : query.projection with
  | all => simp [projected, projection]
  | listed chosen =>
      have nodup := valid.listed
      have placed := valid.bound
      simp only [listedVariables, projected, projection] at nodup placed ⊢
      exact (nodup.subperm placed).length_le

/-- A query is accepted exactly if its list repeats no variable, no two slots hold the same
one, and every listed one has a slot; otherwise its first fault is reported. In an accepted
query every projected variable has exactly one slot, and there are at most three. -/
theorem reports_first_fault (query : SelectQuery) :
    (query.invalidity? = none ↔
      query.listedVariables.Nodup ∧
        (∀ name left right, query.pattern.slot left = .placeholder name →
          query.pattern.slot right = .placeholder name → left = right) ∧
        ∀ wanted ∈ query.listedVariables,
          ∃ role, query.pattern.slot role = .placeholder wanted) ∧
      (∀ fault, query.invalidity? = some fault ↔ query.FirstFault fault) ∧
      (query.invalidity? = none →
        (∀ wanted ∈ query.projected,
          ∃! role, query.pattern.slot role = .placeholder wanted) ∧
        query.projected.length ≤ 3) := by
  refine ⟨?accepts, query.invalidity?_eq_some_iff, ?relied⟩
  case accepts =>
    rw [invalidity?_eq_none_iff, ← Pattern.nodup_allVariables_iff]
    simp only [← Pattern.mem_allVariables_iff]
    exact ⟨fun valid => ⟨valid.listed, valid.placed, valid.bound⟩,
      fun ⟨listed, placed, bound⟩ => ⟨listed, placed, bound⟩⟩
  case relied =>
    intro accepted
    have valid := query.invalidity?_eq_none_iff.mp accepted
    exact ⟨fun _ => valid.existsUnique_role, valid.length_projected_le⟩

end SelectQuery

end TripleStore.Query
