import TripleStore.Proofs.Query.Validity
import TripleStore.Proofs.Store.AccessPath
import TripleStore.Query.Answer

/-!
Contract: what the answer to a query says about the stored triples.

Owns:
- when a pattern over terms selects a key, slot by slot;
- the text that a projected variable shows of a key;
- the answer of a store as the rows of the selected keys.

Does not own: how a query is read (`TripleStore.Query.Parser`).
-/

namespace TripleStore.Query

/-! ## Selecting keys -/

/-- An open slot admits every identifier, and a literal the one that the look-up gives
for it. -/
def Slot.Admits {space : IdSpace} (lookup : String → Option (Id space)) (id : Id space) :
    Slot → Prop
  | placeholder _ => True
  | literal term => lookup term = some id

instance {space : IdSpace} (lookup : String → Option (Id space)) (id : Id space) (slot : Slot) :
    Decidable (slot.Admits lookup id) := by
  cases slot <;> unfold Slot.Admits <;> infer_instance

/-- Each slot admits the identifier that the key has in its role. -/
def Pattern.Selects (store : Store) (pattern : Pattern) (key : Key) : Prop :=
  pattern.subject.Admits store.entityId? key.subject ∧
    pattern.predicate.Admits store.predicateId? key.predicate ∧
      pattern.object.Admits store.entityId? key.object

instance (store : Store) (pattern : Pattern) (key : Key) :
    Decidable (pattern.Selects store key) := by
  unfold Pattern.Selects
  infer_instance

/-- A resolved slot binds what the slot admits. -/
theorem Slot.admits_iff_of_resolve
    {space : IdSpace}
    {lookup : String → Option (Id space)}
    {slot : Slot}
    {bound : Option (Id space)}
    (resolved : slot.resolve lookup = .ok bound)
    (id : Id space) :
    slot.Admits lookup id ↔ ∀ wanted ∈ bound, id = wanted := by
  cases slot with
  | placeholder name =>
      cases resolved
      simp [Admits]
  | literal term =>
      simp only [resolve, term?] at resolved
      cases found : lookup term with
      | none => simp [found] at resolved
      | some own =>
          rw [found] at resolved
          cases resolved
          simp [Admits, found, eq_comm]

theorem Slot.resolve_of_admits
    {space : IdSpace}
    {lookup : String → Option (Id space)}
    {slot : Slot}
    {id : Id space}
    (admits : slot.Admits lookup id) :
    ∃ bound, slot.resolve lookup = .ok bound := by
  cases slot with
  | placeholder name => exact ⟨none, rfl⟩
  | literal term =>
      have found : lookup term = some id := admits
      exact ⟨some id, by simp [resolve, term?, found]⟩

/-- A pattern resolves if its slots do, each on its own. -/
theorem Pattern.resolve_eq_ok_iff (store : Store) (pattern : Pattern) (ids : IdPattern) :
    pattern.resolve store = .ok ids ↔
      pattern.subject.resolve store.entityId? = .ok ids.subject ∧
        pattern.predicate.resolve store.predicateId? = .ok ids.predicate ∧
          pattern.object.resolve store.entityId? = .ok ids.object := by
  rcases ids with ⟨subject, predicate, object⟩
  unfold resolve
  cases pattern.subject.resolve store.entityId? <;>
    cases pattern.predicate.resolve store.predicateId? <;>
      cases pattern.object.resolve store.entityId? <;>
        simp [bind, Except.bind, pure, Except.pure]

theorem Pattern.selects_iff_of_resolve
    {store : Store}
    {pattern : Pattern}
    {ids : IdPattern}
    (resolved : pattern.resolve store = .ok ids)
    (key : Key) :
    pattern.Selects store key ↔ ids.Matches key := by
  rw [Pattern.resolve_eq_ok_iff] at resolved
  rcases resolved with ⟨subject, predicate, object⟩
  exact and_congr (Slot.admits_iff_of_resolve subject _)
    (and_congr (Slot.admits_iff_of_resolve predicate _) (Slot.admits_iff_of_resolve object _))

/-- A pattern with an unknown literal selects nothing. -/
theorem Pattern.resolve_of_selects
    {store : Store}
    {pattern : Pattern}
    {key : Key}
    (selected : pattern.Selects store key) :
    ∃ ids, pattern.resolve store = .ok ids := by
  rcases Slot.resolve_of_admits selected.1 with ⟨subject, subjectResolved⟩
  rcases Slot.resolve_of_admits selected.2.1 with ⟨predicate, predicateResolved⟩
  rcases Slot.resolve_of_admits selected.2.2 with ⟨object, objectResolved⟩
  refine ⟨⟨subject, predicate, object⟩, ?_⟩
  rw [Pattern.resolve_eq_ok_iff]
  exact ⟨subjectResolved, predicateResolved, objectResolved⟩

/-- Running the plan of a pattern lists the keys that the pattern selects. -/
theorem lists_run_build
    {store : Store}
    {contents : Contents}
    (represents : store.Represents contents)
    (pattern : Pattern) :
    (((Plan.build store pattern).run store).map Triple.entry).Perm
      (contents.toList.filter fun entry => pattern.Selects store entry.1) := by
  unfold Plan.build
  cases resolved : pattern.resolve store with
  | error unresolved =>
      have selectsNothing :
          contents.toList.filter (fun entry => decide (pattern.Selects store entry.1)) = [] := by
        rw [List.filter_eq_nil_iff]
        intro entry _ selected
        rcases Pattern.resolve_of_selects (of_decide_eq_true selected) with ⟨ids, found⟩
        rw [resolved] at found
        cases found
      rw [selectsNothing]
      exact List.Perm.nil
  | ok ids =>
      simp only [Pattern.selects_iff_of_resolve resolved]
      exact (represents.lists_select ids).perm_toList

/-! ## Showing a key -/

/-- The term that a key has in the slot of the variable, empty if its identifier stands
for none. -/
def Pattern.cell (store : Store) (pattern : Pattern) (key : Key) (wanted : Variable) :
    String :=
  if pattern.subject = .placeholder wanted then (store.entity? key.subject).getD ""
  else if pattern.predicate = .placeholder wanted then
    (store.predicate? key.predicate).getD ""
  else if pattern.object = .placeholder wanted then (store.entity? key.object).getD ""
  else ""

theorem Pattern.cell_eq_termOf
    (store : Store)
    {pattern : Pattern}
    (nodup : pattern.allVariables.Nodup)
    (key : Key)
    {role : Role}
    {wanted : Variable}
    (inSlot : pattern.slot role = .placeholder wanted) :
    pattern.cell store key wanted = store.termOf key role := by
  have elsewhere : ∀ other, other ≠ role → pattern.slot other ≠ .placeholder wanted :=
    fun other different inOther => different (role_unique nodup inOther inSlot)
  have notSubject := elsewhere .subject
  have notPredicate := elsewhere .predicate
  unfold cell
  cases role with
  | subject => exact if_pos inSlot
  | predicate => exact (if_neg (notSubject (by decide))).trans (if_pos inSlot)
  | object =>
      exact (if_neg (notSubject (by decide))).trans
        ((if_neg (notPredicate (by decide))).trans (if_pos inSlot))

namespace SelectQuery

theorem Valid.roleOf?_eq_some
    {query : SelectQuery}
    (valid : query.Valid)
    {wanted : Variable}
    (member : wanted ∈ query.projected) :
    ∃ role, query.roleOf? wanted = some role ∧
      query.pattern.slot role = .placeholder wanted := by
  rcases (query.pattern.mem_allVariables_iff wanted).mp (valid.mem_allVariables member) with
    ⟨role, inSlot⟩
  have placed := (query.pattern.mem_placeholders_iff role wanted).mpr inSlot
  have isPlaced : (query.roleOf? wanted).isSome := by
    unfold roleOf?
    rw [Option.isSome_map, List.find?_isSome]
    exact ⟨_, placed, beq_self_eq_true wanted⟩
  rcases Option.isSome_iff_exists.mp isPlaced with ⟨foundRole, found⟩
  refine ⟨foundRole, found, ?_⟩
  unfold roleOf? at found
  rcases Option.map_eq_some_iff.mp found with ⟨entry, located, sameRole⟩
  have sameName : entry.2 = wanted := by simpa using List.find?_some located
  rw [← query.pattern.mem_placeholders_iff, ← sameRole, ← sameName]
  exact List.mem_of_find?_eq_some located

/-- No projected variable is dropped on the way to its role, so the roles show the cells
of the variables in their order. -/
theorem Valid.map_projectedRoles
    {query : SelectQuery}
    (valid : query.Valid)
    (store : Store)
    (key : Key) :
    query.projectedRoles.map (store.termOf key) =
      query.projected.map (query.pattern.cell store key) := by
  unfold projectedRoles
  rw [List.map_filterMap, ← List.filterMap_eq_map]
  apply List.filterMap_congr
  intro wanted member
  rcases valid.roleOf?_eq_some member with ⟨role, found, inSlot⟩
  rw [found, Option.map_some, Function.comp_apply,
    Pattern.cell_eq_termOf store valid.placed key inSlot]

/-- The answer has a column for each projected variable and a row for each key of the map
that the pattern selects. A row shows the one slot of each projected variable. -/
structure AnsweredBy
    (query : SelectQuery)
    (store : Store)
    (contents : Contents)
    (answer : Answer) : Prop where
  columns : answer.columns = query.projected.map fun wanted => "?" ++ wanted.name
  rows : answer.rows.Perm
    ((contents.toList.filter fun entry => query.pattern.Selects store entry.1).map
      fun entry => query.projected.map (query.pattern.cell store entry.1))
  aligned : ∀ row ∈ answer.rows, row.length = answer.columns.length
  oneSlot : ∀ wanted ∈ query.projected,
    ∃! role, query.pattern.slot role = .placeholder wanted

theorem Valid.answeredBy_project
    {query : SelectQuery}
    (valid : query.Valid)
    {store : Store}
    {contents : Contents}
    (represents : store.Represents contents) :
    query.AnsweredBy store contents
      (project store query ((Plan.build store query.pattern).run store)) where
  columns := rfl
  rows := by
    have shown := (lists_run_build represents query.pattern).map fun entry =>
      query.projected.map (query.pattern.cell store entry.1)
    rw [List.map_map] at shown
    simpa [project, valid.map_projectedRoles, Function.comp_def, Triple.entry] using shown
  aligned := by
    intro row member
    simp only [project, List.mem_map, valid.map_projectedRoles] at member ⊢
    rcases member with ⟨triple, _, rfl⟩
    rw [List.length_map, List.length_map]
  oneSlot := fun _ member => valid.existsUnique_role member

end SelectQuery

/-- A query fails in every store alike, with the fault that is found in it, and has an
answer otherwise. The answer is the one that the stored triples give, and the modifiers
of the query do not change it. -/
theorem execute_afterEdits (edits : List Store.Edit) (query : SelectQuery) :
    (∀ store fault, execute store query = .error fault ↔ query.invalidity? = some fault) ∧
      (query.invalidity? = none ↔
        ∃ answer, execute (Store.afterEdits edits) query = .ok answer ∧
          query.AnsweredBy (Store.afterEdits edits) (Store.contentsAfter edits) answer) ∧
      ∀ store modifiers, execute store { query with modifiers } = execute store query := by
  refine ⟨?_, ?_, ?_⟩
  · intro store fault
    unfold execute
    cases query.invalidity? <;> simp
  · unfold execute
    constructor
    · intro sound
      have valid := query.invalidity?_eq_none_iff.mp sound
      rw [sound]
      exact ⟨_, rfl, valid.answeredBy_project (Store.represents_afterEdits edits)⟩
    · intro hasAnswer
      rcases hasAnswer with ⟨answer, answered, _⟩
      cases found : query.invalidity? with
      | none => rfl
      | some fault =>
          rw [found] at answered
          cases answered
  · intro store modifiers
    rfl

end TripleStore.Query
