import Mathlib.Data.List.Perm.Subperm
import TripleStore.Proofs.Store.Numbering
import TripleStore.Proofs.Trial.Splitting

/-!
Contract: random operations stay in their pools, and what is in no pool is never stored.

Owns:
- the pools of a configuration, and the operations that may be drawn from them;
- that the stream of a generator has one such operation at every position;
- that a simulation performs its stream in order, whatever the runs it is cut into;
- that a store then has no terms but those of the pools, so that no removal or query of
  another term finds anything.

Does not own: what the checks of a simulation find (`TripleStore.Proofs.Trial.Simulation`).
-/

namespace TripleStore.Trial

open TripleStore.Random (RandomChoice)

/-! ## Pools -/

namespace GeneratorConfig

def entityPool (config : GeneratorConfig) : List String :=
  (List.range config.entityCount).map poolEntity

def predicatePool (config : GeneratorConfig) : List String :=
  (List.range config.predicateCount).map poolPredicate

variable {config : GeneratorConfig} {term : String}

theorem HasEntity.mem_pool (has : config.HasEntity term) (positive : 0 < config.entityCount) :
    term ∈ config.entityPool := by
  obtain ⟨number, inPool, rfl⟩ := has
  exact List.mem_map_of_mem (List.mem_range.mpr (inPool positive))

theorem HasPredicate.mem_pool
    (has : config.HasPredicate term)
    (positive : 0 < config.predicateCount) :
    term ∈ config.predicatePool := by
  obtain ⟨number, inPool, rfl⟩ := has
  exact List.mem_map_of_mem (List.mem_range.mpr (inPool positive))

theorem NamesEntity.mem_pool (names : config.NamesEntity term) (positive : 0 < config.entityCount) :
    term ∈ unknownEntity :: config.entityPool := by
  rw [List.mem_cons]
  exact names.imp_right fun has => has.mem_pool positive

theorem NamesPredicate.mem_pool
    (names : config.NamesPredicate term)
    (positive : 0 < config.predicateCount) :
    term ∈ unknownPredicate :: config.predicatePool := by
  rw [List.mem_cons]
  exact names.imp_right fun has => has.mem_pool positive

theorem head_of_mem_entityPool (member : term ∈ config.entityPool) :
    term.toList.head? = some 'e' := by
  obtain ⟨number, _, rfl⟩ := List.mem_map.mp member
  simp [poolEntity]

theorem head_of_mem_predicatePool (member : term ∈ config.predicatePool) :
    term.toList.head? = some 'p' := by
  obtain ⟨number, _, rfl⟩ := List.mem_map.mp member
  simp [poolPredicate]

end GeneratorConfig

/-- The two terms that are in no pool. -/
def unknownTerms : List String :=
  [unknownEntity, unknownPredicate]

theorem head_of_mem_unknownTerms {term : String} (unknown : term ∈ unknownTerms) :
    term.toList.head? = some 'u' := by
  simp only [unknownTerms, List.mem_cons, List.not_mem_nil, or_false] at unknown
  rcases unknown with rfl | rfl <;> rfl

theorem payload_injective : Function.Injective payload := by
  intro left right same
  have sameDigits : Nat.toDigits 10 left = Nat.toDigits 10 right := by
    have sameList := congrArg String.toList same
    rw [payload, payload, String.toList_append, String.toList_append,
      List.append_cancel_left_eq] at sameList
    simpa only [Nat.toString_eq_repr, Nat.toList_repr] using sameList
  calc left
      = Nat.ofDigitChars 10 (Nat.toDigits 10 left) 0 := Nat.ofDigitChars_ten_toDigits.symm
    _ = Nat.ofDigitChars 10 (Nat.toDigits 10 right) 0 := by rw [sameDigits]
    _ = right := Nat.ofDigitChars_ten_toDigits

/-! ## Operations of the pools -/

namespace Operation

/-- What the operation with that number may be where neither pool is empty. -/
def FromPools (config : GeneratorConfig) (number : Nat) : Operation → Prop
  | add record value =>
      record.subject ∈ config.entityPool ∧ record.predicate ∈ config.predicatePool ∧
        record.object ∈ config.entityPool ∧ value = payload number
  | remove record =>
      record.subject ∈ unknownEntity :: config.entityPool ∧
        record.predicate ∈ unknownPredicate :: config.predicatePool ∧
          record.object ∈ unknownEntity :: config.entityPool
  | query pattern =>
      (∀ term ∈ pattern.subject, term ∈ unknownEntity :: config.entityPool) ∧
        (∀ term ∈ pattern.predicate, term ∈ unknownPredicate :: config.predicatePool) ∧
          ∀ term ∈ pattern.object, term ∈ unknownEntity :: config.entityPool

theorem Drawn.fromPools
    {config : GeneratorConfig}
    {number : Nat}
    {operation : Operation}
    (drawn : operation.Drawn config number)
    (entities : 0 < config.entityCount)
    (predicates : 0 < config.predicateCount) :
    operation.FromPools config number := by
  cases operation with
  | add record value =>
      obtain ⟨subject, predicate, object, isPayload⟩ := drawn
      exact ⟨subject.mem_pool entities, predicate.mem_pool predicates, object.mem_pool entities,
        isPayload⟩
  | remove record =>
      obtain ⟨subject, predicate, object⟩ := drawn
      exact ⟨subject.mem_pool entities, predicate.mem_pool predicates, object.mem_pool entities⟩
  | query pattern =>
      obtain ⟨subject, predicate, object⟩ := drawn
      exact ⟨fun term bound => (subject term bound).mem_pool entities,
        fun term bound => (predicate term bound).mem_pool predicates,
        fun term bound => (object term bound).mem_pool entities⟩

end Operation

/-! ## The stream of a generator -/

variable {σ : Type}

namespace Generator

variable [RandomChoice σ]

theorem length_take (generator : Generator σ) (count : Nat) :
    (generator.take count).length = count := by
  induction count generalizing generator with
  | zero => rfl
  | succ count inductionHypothesis =>
      rw [take, List.length_cons, inductionHypothesis]

theorem drawn_of_getElem?_take
    {generator : Generator σ}
    {count position : Nat}
    {operation : Operation}
    (found : (generator.take count)[position]? = some operation) :
    operation.Drawn generator.config (generator.count + position + 1) := by
  induction count generalizing generator position with
  | zero => cases found
  | succ count inductionHypothesis =>
      cases position with
      | zero =>
          rw [take, List.getElem?_cons_zero, Option.some.injEq] at found
          rw [← found]
          exact generator.drawn_next
      | succ position =>
          rw [take, List.getElem?_cons_succ] at found
          have drawn := inductionHypothesis found
          have sameNumber : generator.next.2.count + position + 1 =
              generator.count + (position + 1) + 1 := by
            change generator.count + 1 + position + 1 = _
            omega
          rwa [sameNumber] at drawn

end Generator

/-! ## Stores of the pools -/

/-- The lexicons hold no terms but those of the pools. -/
structure OfPools (config : GeneratorConfig) (store : Store) : Prop where
  entities : store.entityTerms.terms.toList ⊆ config.entityPool
  predicates : store.predicateTerms.terms.toList ⊆ config.predicatePool

namespace OfPools

variable {config : GeneratorConfig} {store : Store} {record : Record}

theorem empty : OfPools config Store.empty where
  entities := List.nil_subset _
  predicates := List.nil_subset _

theorem insertRecord
    (ofPools : OfPools config store)
    {number : Nat}
    {value : String}
    (fromPools : (Operation.add record value).FromPools config number) :
    OfPools config (store.insertRecord record value).2 where
  entities := by
    intro term member
    rcases Lexicon.mem_terms_intern member with rfl | earlier
    · exact fromPools.2.2.1
    · rcases Lexicon.mem_terms_intern earlier with rfl | older
      · exact fromPools.1
      · exact ofPools.entities older
  predicates := by
    intro term member
    rcases Lexicon.mem_terms_intern member with rfl | older
    · exact fromPools.2.1
    · exact ofPools.predicates older

theorem of_sameTerms {after : Store} (ofPools : OfPools config store)
    (same : Store.SameTerms store after) : OfPools config after where
  entities := same.entities ▸ ofPools.entities
  predicates := same.predicates ▸ ofPools.predicates

theorem head_of_mem_entities
    (ofPools : OfPools config store)
    {term : String}
    (member : term ∈ store.entityTerms.terms.toList) :
    term.toList.head? = some 'e' :=
  GeneratorConfig.head_of_mem_entityPool (ofPools.entities member)

theorem head_of_mem_predicates
    (ofPools : OfPools config store)
    {term : String}
    (member : term ∈ store.predicateTerms.terms.toList) :
    term.toList.head? = some 'p' :=
  GeneratorConfig.head_of_mem_predicatePool (ofPools.predicates member)

/-- The pools and the unknown terms have other letters in front. -/
theorem not_mem_of_unknown
    (ofPools : OfPools config store)
    {term : String}
    (unknown : term ∈ unknownTerms) :
    term ∉ store.entityTerms.terms.toList ∧ term ∉ store.predicateTerms.terms.toList := by
  have first := head_of_mem_unknownTerms unknown
  constructor
  · intro member
    rw [ofPools.head_of_mem_entities member] at first
    exact absurd first (by decide)
  · intro member
    rw [ofPools.head_of_mem_predicates member] at first
    exact absurd first (by decide)

theorem size_entities_le (ofPools : OfPools config store) (faithful : store.Faithful) :
    store.entityTerms.size ≤ config.entityCount := by
  have fewer := (faithful.entities.nodup_terms.subperm ofPools.entities).length_le
  simpa [GeneratorConfig.entityPool, Lexicon.size] using fewer

theorem size_predicates_le (ofPools : OfPools config store) (faithful : store.Faithful) :
    store.predicateTerms.size ≤ config.predicateCount := by
  have fewer := (faithful.predicates.nodup_terms.subperm ofPools.predicates).length_le
  simpa [GeneratorConfig.predicatePool, Lexicon.size] using fewer

end OfPools

/-! ## Terms that are in no pool -/

/-- Some term of the record is in no pool. -/
def NamesUnknown (record : Record) : Prop :=
  record.subject = unknownEntity ∨ record.predicate = unknownPredicate ∨
    record.object = unknownEntity

def TermPattern.NamesUnknown (pattern : TermPattern) : Prop :=
  pattern.subject = some unknownEntity ∨ pattern.predicate = some unknownPredicate ∨
    pattern.object = some unknownEntity

/-- A record that a pattern with such a term matches has the term itself. -/
theorem TermPattern.NamesUnknown.of_matches
    {pattern : TermPattern}
    {record : Record}
    (names : pattern.NamesUnknown)
    (isMatch : pattern.Matches record) :
    Trial.NamesUnknown record := by
  obtain ⟨subject, predicate, object⟩ := isMatch
  exact names.imp (fun bound => subject _ bound)
    (Or.imp (fun bound => predicate _ bound) fun bound => object _ bound)

namespace OfPools

variable {config : GeneratorConfig} {store : Store} {record : Record}

theorem key?_eq_none
    (ofPools : OfPools config store)
    (faithful : store.Faithful)
    (names : NamesUnknown record) :
    store.key? record = none := by
  obtain ⟨noEntity, _⟩ :=
    ofPools.not_mem_of_unknown (List.mem_cons_self : unknownEntity ∈ unknownTerms)
  obtain ⟨_, noPredicate⟩ :=
    ofPools.not_mem_of_unknown (List.mem_cons_of_mem _ List.mem_cons_self :
      unknownPredicate ∈ unknownTerms)
  cases known : store.key? record with
  | none => rfl
  | some key =>
      obtain ⟨subject, predicate, object⟩ := Store.key?_eq_some_iff.mp known
      rcases names with isUnknown | isUnknown | isUnknown
      · rw [isUnknown] at subject
        exact absurd (Lexicon.mem_terms_of_id? faithful.entities subject) noEntity
      · rw [isUnknown] at predicate
        exact absurd (Lexicon.mem_terms_of_id? faithful.predicates predicate) noPredicate
      · rw [isUnknown] at object
        exact absurd (Lexicon.mem_terms_of_id? faithful.entities object) noEntity

theorem eraseRecord_fst
    (ofPools : OfPools config store)
    (faithful : store.Faithful)
    (names : NamesUnknown record) :
    (store.eraseRecord record).1 = false := by
  rw [Store.eraseRecord, ofPools.key?_eq_none faithful names]

/-- Whatever else the pattern says, the answer to its query has no rows. -/
theorem exists_empty_answer
    (ofPools : OfPools config store)
    {contents : Contents}
    {records : RecordContents}
    (encodes : store.Encodes contents records)
    {pattern : TermPattern}
    (plain : pattern.Plain)
    (names : pattern.NamesUnknown) :
    ∃ answer, Query.answer store (queryText pattern) = .ok answer ∧ answer.rows = [] := by
  obtain ⟨answer, answered, rows⟩ := exists_answer_queryText encodes plain
  refine ⟨answer, answered, ?_⟩
  have nothing : pattern.rows records.keys = [] := by
    rw [TermPattern.rows, List.map_eq_nil_iff, List.filter_eq_nil_iff]
    intro record member
    rw [decide_eq_true_iff]
    intro isMatch
    obtain ⟨key, known⟩ := encodes.known record (Std.ExtTreeMap.mem_keys.mp member)
    rw [ofPools.key?_eq_none encodes.faithful (names.of_matches isMatch)] at known
    cases known
  rw [nothing] at rows
  exact rows.eq_nil

end OfPools

/-! ## Steps and runs -/

namespace Course

variable {config : GeneratorConfig} {course : Course σ}

theorem ofPools_perform
    (course : Course σ)
    (ofPools : OfPools config course.store)
    {number : Nat}
    {operation : Operation}
    (fromPools : operation.FromPools config number) :
    OfPools config (course.perform operation).2.store := by
  cases operation with
  | add record value => exact ofPools.insertRecord fromPools
  | remove record => exact ofPools.of_sameTerms (course.store.sameTerms_eraseRecord record)
  | query pattern => exact ofPools

theorem generator_perform (course : Course σ) (operation : Operation) :
    (course.perform operation).2.generator = course.generator := by
  cases operation <;> rfl

variable [RandomChoice σ]

/-- The generator goes on by one operation, whatever the operation does. -/
theorem generator_step (course : Course σ) :
    course.step.2.generator = course.generator.next.2 :=
  generator_perform { course with generator := course.generator.next.2 } course.generator.next.1

theorem config_step (course : Course σ) :
    course.step.2.generator.config = course.generator.config := by
  rw [generator_step]
  rfl

theorem ofPools_step
    (ofPools : OfPools course.generator.config course.store)
    (entities : 0 < course.generator.config.entityCount)
    (predicates : 0 < course.generator.config.predicateCount) :
    OfPools course.generator.config course.step.2.store :=
  ofPools_perform { course with generator := course.generator.next.2 } ofPools
    (course.generator.drawn_next.fromPools entities predicates)

theorem ofPools_steps
    (course : Course σ)
    (ofPools : OfPools course.generator.config course.store)
    (entities : 0 < course.generator.config.entityCount)
    (predicates : 0 < course.generator.config.predicateCount)
    (count : Nat) :
    OfPools course.generator.config (course.steps count).2.store := by
  induction count generalizing course with
  | zero => exact ofPools
  | succ count inductionHypothesis =>
      have after := ofPools_step ofPools entities predicates
      rw [← course.config_step] at after entities predicates ⊢
      exact inductionHypothesis _ after entities predicates

/-- The operations of the steps are those of the stream, in order. -/
theorem getElem?_take_steps (course : Course σ) (position : Nat) :
    (course.generator.take (position + 1))[position]? =
      some (course.steps position).2.generator.next.1 := by
  induction position generalizing course with
  | zero => rfl
  | succ position inductionHypothesis =>
      rw [Generator.take, List.getElem?_cons_succ, ← generator_step, inductionHypothesis]
      rfl

/-- A removal that finds nothing is counted as missed, and as nothing else. -/
theorem step_fst_of_missed
    {record : Record}
    (isRemoval : course.generator.next.1 = .remove record)
    (missed : (course.store.eraseRecord record).1 = false) :
    course.step.1 = { Counters.zero with performed := 1, missedRemoves := 1 } := by
  simp only [step, isRemoval, perform, missed]
  rfl

/-- One step more adds its counters. -/
theorem steps_succ_fst (course : Course σ) (count : Nat) :
    (course.steps (count + 1)).1 = (course.steps count).1 + (course.steps count).2.step.1 := by
  rw [steps_add]
  rfl

end Course

namespace Simulation

variable [RandomChoice σ]

theorem course_runs_snd (simulation : Simulation σ) (counts : List Nat) :
    (simulation.runs counts).2.course = (simulation.course.steps counts.sum).2 :=
  (simulation.course_runs counts).1.trans
    (Prod.ext_iff.mp (simulation.course.runs_eq_steps counts)).2

/-- After some runs and one more, a simulation is as far in its course as it has performed
operations. -/
theorem course_runs_run (simulation : Simulation σ) (earlier : List Nat) (done : Nat) :
    ((simulation.runs earlier).2.run done).2.course =
      (simulation.course.steps (earlier.sum + done)).2 := by
  rw [((simulation.runs earlier).2.course_run done).1, course_runs_snd, Course.steps_add]

/-- If the next operation is a removal that finds nothing, a run with this operation as well
has missed one more. -/
theorem counters_run_of_missed
    (before : Simulation σ)
    (done : Nat)
    {record : Record}
    (isRemoval : (before.run done).2.generator.next.1 = .remove record)
    (missed : ((before.run done).2.state.store.eraseRecord record).1 = false) :
    (before.run (done + 1)).1.counters =
      { (before.run done).1.counters with
        performed := (before.run done).1.counters.performed + 1
        missedRemoves := (before.run done).1.counters.missedRemoves + 1 } := by
  obtain ⟨sameCourse, sameCounters⟩ := before.course_run done
  have oneMore : (before.course.steps done).2.step.1 =
      { Counters.zero with performed := 1, missedRemoves := 1 } := by
    rw [← sameCourse]
    exact Course.step_fst_of_missed isRemoval missed
  rw [(before.course_run (done + 1)).2, Course.steps_succ_fst, ← sameCounters, oneMore]
  rfl

/-- What holds of a run of so many operations, and of the operation that comes next. -/
structure StaysInPools (config : GeneratorConfig) (before : Simulation σ) (done : Nat) :
    Prop where
  /-- The lexicons hold terms of the pools, and each at most as many. -/
  ofPools : OfPools config (before.run done).2.state.store
  entities_le : (before.run done).2.state.store.entityTerms.size ≤ config.entityCount
  predicates_le : (before.run done).2.state.store.predicateTerms.size ≤ config.predicateCount
  /-- The unknown terms are in neither lexicon. -/
  unknown : ∀ term ∈ unknownTerms,
    term ∉ (before.run done).2.state.store.entityTerms.terms.toList ∧
      term ∉ (before.run done).2.state.store.predicateTerms.terms.toList
  /-- A removal of an unknown term is counted as missed. -/
  missed : ∀ record, (before.run done).2.generator.next.1 = .remove record →
    NamesUnknown record →
      (before.run (done + 1)).1.counters =
        { (before.run done).1.counters with
          performed := (before.run done).1.counters.performed + 1
          missedRemoves := (before.run done).1.counters.missedRemoves + 1 }
  /-- A query of an unknown term matches nothing. -/
  matchless : ∀ pattern, (before.run done).2.generator.next.1 = .query pattern →
    pattern.NamesUnknown →
      ∃ answer, Query.answer (before.run done).2.state.store (queryText pattern) = .ok answer ∧
        answer.rows = []

theorem staysInPools_run
    {config : SimulationConfig}
    (source : σ)
    (entities : 0 < config.operations.entityCount)
    (predicates : 0 < config.operations.predicateCount)
    (earlier : List Nat)
    (done : Nat) :
    StaysInPools config.operations ((start config source).runs earlier).2 done := by
  have earlierAgrees : ((start config source).runs earlier).2.state.Agrees :=
    agrees_runs .empty earlier
  have agrees := agrees_run earlierAgrees done
  obtain ⟨contents, encodes⟩ := agrees.encodes
  have ofPools : OfPools config.operations
      (((start config source).runs earlier).2.run done).2.course.store := by
    rw [course_runs_run]
    exact Course.ofPools_steps (start config source).course .empty entities
      predicates _
  exact
    { ofPools := ofPools
      entities_le := ofPools.size_entities_le encodes.faithful
      predicates_le := ofPools.size_predicates_le encodes.faithful
      unknown := fun term unknown => ofPools.not_mem_of_unknown unknown
      missed := by
        intro record isRemoval names
        exact counters_run_of_missed _ done isRemoval
          (ofPools.eraseRecord_fst encodes.faithful names)
      matchless := by
        intro pattern isQuery names
        have drawn :=
          (((start config source).runs earlier).2.run done).2.generator.drawn_next
        rw [isQuery] at drawn
        exact ofPools.exists_empty_answer encodes drawn.plain names }

/-- Where neither pool is empty, every position of the stream of a simulation has an
operation of the pools, and no two additions have one payload. The simulation performs that
stream, and however its runs are cut, its store never has a term that is in no pool. -/
theorem runs_stay_in_pools
    (config : SimulationConfig)
    (source : σ)
    (entities : 0 < config.operations.entityCount)
    (predicates : 0 < config.operations.predicateCount) :
    let stream := (Generator.start config.operations source).take
    (∀ count, (stream count).length = count ∧
        (∀ (position : Nat) (operation : Operation), (stream count)[position]? = some operation →
          operation.FromPools config.operations (position + 1)) ∧
        ∀ (first second : Nat) (record other : Record) (value otherValue : String),
          (stream count)[first]? = some (.add record value) →
          (stream count)[second]? = some (.add other otherValue) →
          first ≠ second → value ≠ otherValue) ∧
      ∀ earlier done,
        let before := ((start config source).runs earlier).2
        (stream (earlier.sum + done + 1))[earlier.sum + done]? =
            some (before.run done).2.generator.next.1 ∧
          StaysInPools config.operations before done := by
  intro stream
  have inPools : ∀ (count position : Nat) (operation : Operation),
      (stream count)[position]? = some operation →
      operation.FromPools config.operations (position + 1) := by
    intro count position operation found
    have drawn := Generator.drawn_of_getElem?_take found
    rw [Generator.start, Nat.zero_add] at drawn
    exact drawn.fromPools entities predicates
  constructor
  · intro count
    refine ⟨Generator.length_take _ count, inPools count, ?_⟩
    intro first second record other value otherValue isFirst isSecond different same
    obtain ⟨_, _, _, isPayload⟩ := inPools count first _ isFirst
    obtain ⟨_, _, _, isOtherPayload⟩ := inPools count second _ isSecond
    rw [isPayload, isOtherPayload] at same
    exact different (Nat.succ.inj (payload_injective same))
  · intro earlier done before
    refine ⟨?_, staysInPools_run source entities predicates earlier done⟩
    have performed := (start config source).course.getElem?_take_steps (earlier.sum + done)
    rw [← course_runs_run] at performed
    exact performed

/-- Words for an addition, for a removal that names the unknown predicate, and for a query
that names the unknown entity. -/
def wordsForUnknownTerms : Random.Stream where
  key := .replicate 8 0
  counter := 0
  pending :=
    let no := [0, 0xFFFFFFFF]
    let yes := [0, 0]
    let half := [0x80000000]
    no ++ no ++ half ++ half ++ [0] ++
      (no ++ yes ++ no ++ half ++ yes ++ no ++ [0]) ++
        (yes ++ yes ++ yes ++ no ++ no)

/-- The first run adds a triple, the second one misses its only removal, and the query that
comes next matches nothing. -/
theorem runs_stay_in_pools_unknown_terms :
    let before := ((start {} wordsForUnknownTerms).runs [1]).2
    0 < ({} : SimulationConfig).operations.entityCount ∧
      0 < ({} : SimulationConfig).operations.predicateCount ∧
      (before.run 0).2.state.store.size = 1 ∧
      (before.run 1).1.counters.missedRemoves = 1 ∧
      ∃ answer,
        Query.answer (before.run 1).2.state.store
            (queryText { subject := some unknownEntity, predicate := none, object := none }) =
          .ok answer ∧ answer.rows = [] := by
  intro before
  have entities : 0 < ({} : SimulationConfig).operations.entityCount := by decide
  have predicates : 0 < ({} : SimulationConfig).operations.predicateCount := by decide
  obtain ⟨_, inRuns⟩ := runs_stay_in_pools {} wordsForUnknownTerms entities predicates
  have first : StaysInPools ({} : SimulationConfig).operations before 0 := (inRuns [1] 0).2
  have second : StaysInPools ({} : SimulationConfig).operations before 1 := (inRuns [1] 1).2
  have stored : (before.run 0).2.state.store.size = 1 := by decide +kernel
  have removal : (before.run 0).2.generator.next.1 =
      .remove { subject := "e3", predicate := unknownPredicate, object := "e0" } := by
    decide +kernel
  have query : (before.run 1).2.generator.next.1 =
      .query { subject := some unknownEntity, predicate := none, object := none } := by
    decide +kernel
  -- From here on the words no longer matter.
  clear_value before
  have missed := first.missed _ removal (Or.inr (Or.inl rfl))
  exact ⟨entities, predicates, stored, congrArg Counters.missedRemoves missed,
    second.matchless _ query (Or.inl rfl)⟩

end Simulation

end TripleStore.Trial
