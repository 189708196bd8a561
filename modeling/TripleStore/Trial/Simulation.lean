import TripleStore.Trial.Audit
import TripleStore.Trial.Generator

/-!
Contract: random operations on a store, checked against a plain map.

Owns:
- what each operation does to the store, the map and the counters;
- when checks are made, and what a run reports.

Does not own: the operations (`TripleStore.Trial.Generator`), and the checks
(`TripleStore.Trial.Audit`).

Runs of one simulation follow on from each other. A run counts its own operations only,
and its report holds the differences of all runs so far.
-/

namespace TripleStore.Trial

open TripleStore.Random (RandomChoice)

structure SimulationConfig where
  operations : GeneratorConfig := {}
  /-- Check the whole store after every operation, and not only at the end of a run. -/
  checksEveryStep : Bool := true
deriving DecidableEq, Repr

structure Counters where
  performed : Nat
  adds : Nat
  removes : Nat
  missedRemoves : Nat
  queries : Nat
deriving DecidableEq, Repr

structure Report where
  counters : Counters
  tripleCount : Nat
  violations : List Violation
deriving DecidableEq, Repr

def Report.passed (report : Report) : Bool :=
  report.violations.isEmpty

def Counters.zero : Counters where
  performed := 0
  adds := 0
  removes := 0
  missedRemoves := 0
  queries := 0

structure State where
  store : Store
  model : Model
  audit : Audit

namespace State

def empty : State where
  store := .empty
  model := ∅
  audit := .empty

def add (state : State) (record : Record) (value : String) : State :=
  { state with
    store := (state.store.insertRecord record value).2
    model := state.model.insert record value }

/-- Remove a record from both, and compare whether they had it. -/
def remove (state : State) (record : Record) (index : Nat) : Bool × State :=
  let (removed, store) := state.store.eraseRecord record
  let findings :=
    reportUnless (removed = state.model.contains record)
      { description := "remove result differs from model"
        context := spaced record ++ ": " ++ toString removed }
  (removed,
    { store
      model := state.model.erase record
      audit := state.audit.report index findings })

/-- Perform the operation of a run with that index, counted from zero. -/
def perform (state : State) (counters : Counters) (index : Nat) (operation : Operation) :
    State × Counters :=
  let counters := { counters with performed := counters.performed + 1 }
  match operation with
  | .add record value => (state.add record value, { counters with adds := counters.adds + 1 })
  | .remove record =>
      match state.remove record index with
      | (true, after) => (after, { counters with removes := counters.removes + 1 })
      | (false, after) =>
          (after, { counters with missedRemoves := counters.missedRemoves + 1 })
  | .query pattern =>
      ({ state with audit := state.audit.checkQuery state.store state.model pattern index },
        { counters with queries := counters.queries + 1 })

def check (state : State) (index : Nat) : State :=
  { state with audit := state.audit.checkStore state.store state.model index }

end State

/-- A simulation between two runs. -/
structure Simulation (σ : Type) where
  checksEveryStep : Bool
  generator : Generator σ
  state : State

namespace Simulation

variable {σ : Type} [RandomChoice σ]

def start (config : SimulationConfig) (source : σ) : Simulation σ where
  checksEveryStep := config.checksEveryStep
  generator := .start config.operations source
  state := .empty

def step (simulation : Simulation σ) (counters : Counters) (index : Nat) :
    Simulation σ × Counters :=
  let (operation, generator) := simulation.generator.next
  let (performed, counters) := simulation.state.perform counters index operation
  let state := if simulation.checksEveryStep then performed.check index else performed
  ({ simulation with generator, state }, counters)

def steps (simulation : Simulation σ) (counters : Counters) (index : Nat) :
    Nat → Simulation σ × Counters
  | 0 => (simulation, counters)
  | count + 1 =>
      let (after, counters) := simulation.step counters index
      after.steps counters (index + 1) count

/-- Perform a run of so many operations. A final check, if it is the only one, counts
as one after the last operation. -/
def run (simulation : Simulation σ) (count : Nat) : Report × Simulation σ :=
  let (performed, counters) := simulation.steps .zero 0 count
  let state :=
    if simulation.checksEveryStep then performed.state else performed.state.check count
  ({ counters
     tripleCount := state.store.size
     violations := state.audit.violations },
    { performed with state })

/-- The reports of runs that follow on from each other, and the simulation after them. -/
def runs (simulation : Simulation σ) : List Nat → List Report × Simulation σ
  | [] => ([], simulation)
  | count :: rest =>
      let (report, after) := simulation.run count
      let (reports, final) := after.runs rest
      (report :: reports, final)

end Simulation

end TripleStore.Trial
