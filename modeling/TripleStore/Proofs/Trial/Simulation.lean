import TripleStore.Proofs.Trial.Generator
import TripleStore.Trial.Simulation

/-!
Contract: simulations find no difference between a store and its plain map.

Owns:
- `State.Agrees`, by which the store of a simulation encodes its map and nothing was
  reported, and that every operation and every check keeps it;
- that every run adds up its operations;
- what each report of each run then says.

Does not own: why a check finds nothing (`TripleStore.Proofs.Trial.StoreCheck` and
`TripleStore.Proofs.Trial.QueryCheck`).
-/

namespace TripleStore.Trial

open TripleStore.Random (RandomChoice)

/-! ## States -/

/-- The store encodes the map, and no difference was reported. -/
structure State.Agrees (state : State) : Prop where
  encodes : ∃ contents, state.store.Encodes contents state.model
  clean : state.audit.violations = []

/-- Where nothing is found, nothing is reported. -/
theorem Audit.violations_report
    {audit : Audit}
    {findings : List Finding}
    (clean : audit.violations = [])
    (nothing : findings = [])
    (index : Nat) :
    (audit.report index findings).violations = [] := by
  rw [Audit.report, clean, nothing]
  rfl

namespace State.Agrees

variable {state : State}

theorem empty : State.empty.Agrees where
  encodes := ⟨∅, .empty⟩
  clean := rfl

theorem add (agrees : state.Agrees) (record : Record) (value : String) :
    (state.add record value).Agrees := by
  obtain ⟨contents, encodes⟩ := agrees.encodes
  exact ⟨⟨_, encodes.apply (.insert record value)⟩, agrees.clean⟩

theorem remove (agrees : state.Agrees) (record : Record) (index : Nat) :
    (state.remove record index).2.Agrees := by
  obtain ⟨contents, encodes⟩ := agrees.encodes
  refine ⟨⟨_, encodes.apply (.erase record)⟩, ?_⟩
  apply Audit.violations_report agrees.clean
  rw [reportUnless_eq_nil_iff]
  exact encodes.eraseRecord_fst record

theorem query
    (agrees : state.Agrees)
    {pattern : TermPattern}
    (plain : pattern.Plain)
    (index : Nat) :
    State.Agrees
      { state with audit := state.audit.checkQuery state.store state.model pattern index } := by
  obtain ⟨contents, encodes⟩ := agrees.encodes
  exact ⟨⟨contents, encodes⟩,
    Audit.violations_report agrees.clean
      ((queryFindings_eq_nil_iff encodes plain).mpr (.refl _)) index⟩

theorem check (agrees : state.Agrees) (index : Nat) : (state.check index).Agrees := by
  obtain ⟨contents, encodes⟩ := agrees.encodes
  exact ⟨⟨contents, encodes⟩,
    Audit.violations_report agrees.clean ((storeFindings_eq_nil_iff encodes).mpr rfl) index⟩

end State.Agrees

/-- A removal leaves the state that removing does, whichever counter it raises. -/
theorem State.perform_remove_fst
    (state : State)
    (counters : Counters)
    (index : Nat)
    (record : Record) :
    (state.perform counters index (.remove record)).1 = (state.remove record index).2 := by
  rcases removed : state.remove record index with ⟨_ | _, after⟩ <;>
    simp [State.perform, removed]

/-- Every operation that a generator draws keeps store and map in step. -/
theorem State.Agrees.perform
    {state : State}
    (agrees : state.Agrees)
    {config : GeneratorConfig}
    {number : Nat}
    {operation : Operation}
    (drawn : operation.Drawn config number)
    (counters : Counters)
    (index : Nat) :
    (state.perform counters index operation).1.Agrees := by
  cases operation with
  | add record value => exact agrees.add record value
  | remove record =>
      rw [State.perform_remove_fst]
      exact agrees.remove record index
  | query pattern => exact agrees.query drawn.plain index

/-! ## Counters -/

/-- The operations of each kind add up to those performed. -/
def Counters.AddUp (counters : Counters) : Prop :=
  counters.performed =
    counters.adds + counters.removes + counters.missedRemoves + counters.queries

/-- Every operation is counted once, and as one of its kind. -/
theorem State.addUp_perform
    (state : State)
    {counters : Counters}
    (addUp : counters.AddUp)
    (index : Nat)
    (operation : Operation) :
    (state.perform counters index operation).2.AddUp ∧
      (state.perform counters index operation).2.performed = counters.performed + 1 := by
  unfold Counters.AddUp at addUp ⊢
  cases operation with
  | add record value =>
      simp only [State.perform, and_true]
      omega
  | remove record =>
      rcases removed : state.remove record index with ⟨_ | _, after⟩ <;>
        simp only [State.perform, removed, and_true] <;> omega
  | query pattern =>
      simp only [State.perform, and_true]
      omega

/-! ## Steps and runs -/

namespace Simulation

variable {σ : Type} [RandomChoice σ] {simulation : Simulation σ} {counters : Counters}

theorem agrees_step
    (agrees : simulation.state.Agrees)
    (counters : Counters)
    (index : Nat) :
    (simulation.step counters index).1.state.Agrees := by
  have performed := agrees.perform simulation.generator.drawn_next counters index
  unfold step
  dsimp only
  split
  · exact performed.check index
  · exact performed

theorem addUp_step (simulation : Simulation σ) (addUp : counters.AddUp) (index : Nat) :
    (simulation.step counters index).2.AddUp ∧
      (simulation.step counters index).2.performed = counters.performed + 1 :=
  simulation.state.addUp_perform addUp index simulation.generator.next.1

theorem agrees_steps
    (agrees : simulation.state.Agrees)
    (counters : Counters)
    (index count : Nat) :
    (simulation.steps counters index count).1.state.Agrees := by
  induction count generalizing simulation counters index with
  | zero => exact agrees
  | succ count inductionHypothesis =>
      exact inductionHypothesis (agrees_step agrees counters index) _ (index + 1)

theorem addUp_steps (simulation : Simulation σ) (addUp : counters.AddUp) (index count : Nat) :
    (simulation.steps counters index count).2.AddUp ∧
      (simulation.steps counters index count).2.performed = counters.performed + count := by
  induction count generalizing simulation counters index with
  | zero => exact ⟨addUp, rfl⟩
  | succ count inductionHypothesis =>
      obtain ⟨addUpAfter, performedAfter⟩ := simulation.addUp_step addUp index
      obtain ⟨addUpLast, performedLast⟩ :=
        inductionHypothesis (simulation.step counters index).1 addUpAfter (index + 1)
      refine ⟨addUpLast, performedLast.trans ?_⟩
      rw [performedAfter]
      omega

/-- A run leaves store and map in step, whether or not it was checked on the way. -/
theorem agrees_run (agrees : simulation.state.Agrees) (count : Nat) :
    (simulation.run count).2.state.Agrees := by
  have performed := agrees_steps agrees .zero 0 count
  unfold run
  dsimp only
  split
  · exact performed
  · exact performed.check count

theorem agrees_runs (agrees : simulation.state.Agrees) (counts : List Nat) :
    (simulation.runs counts).2.state.Agrees := by
  induction counts generalizing simulation with
  | nil => exact agrees
  | cons count rest inductionHypothesis => exact inductionHypothesis (agrees_run agrees count)

/-- After any runs of a simulation, whatever its words, the next run finds no difference,
counts each of its operations once, and reports as many triples as the map has. -/
theorem run_finds_nothing
    (config : SimulationConfig)
    (source : σ)
    (earlier : List Nat)
    (count : Nat) :
    let before := ((start config source).runs earlier).2
    let report := (before.run count).1
    let after := (before.run count).2
    report.violations = [] ∧
      report.passed = true ∧
      report.counters.performed = count ∧
      report.counters.adds + report.counters.removes + report.counters.missedRemoves +
        report.counters.queries = count ∧
      report.tripleCount = after.state.model.size := by
  intro before report after
  have agrees : after.state.Agrees := agrees_run (agrees_runs .empty earlier) count
  obtain ⟨contents, encodes⟩ := agrees.encodes
  have clean : report.violations = [] := agrees.clean
  obtain ⟨addUp, performed⟩ := before.addUp_steps (rfl : Counters.zero.AddUp) 0 count
  have counted : report.counters.performed = count :=
    performed.trans (Nat.zero_add count)
  refine ⟨clean, ?_, counted, ?_, encodes.size_eq⟩
  · rw [Report.passed, clean]
    rfl
  · exact addUp.symm.trans counted

end Simulation

end TripleStore.Trial
