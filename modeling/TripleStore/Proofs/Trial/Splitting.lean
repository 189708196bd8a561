import Mathlib.Algebra.GroupWithZero.Nat
import TripleStore.Proofs.Trial.Simulation

/-!
Contract: runs of a simulation that follow on from each other make up one run.

Owns:
- sums of counters;
- `Course`, a simulation without its checks, and the steps of one;
- that a simulation, however it checks, goes through the steps of its course;
- that runs in parts go through the steps of one run and count the same operations.

Does not own: what the checks find (`TripleStore.Proofs.Trial.Simulation`).
-/

namespace TripleStore.Trial

open TripleStore.Random (RandomChoice)

/-! ## Sums of counters -/

namespace Counters

instance : Zero Counters where
  zero := zero

instance : Add Counters where
  add left right :=
    { performed := left.performed + right.performed
      adds := left.adds + right.adds
      removes := left.removes + right.removes
      missedRemoves := left.missedRemoves + right.missedRemoves
      queries := left.queries + right.queries }

theorem add_def (left right : Counters) :
    left + right =
      { performed := left.performed + right.performed
        adds := left.adds + right.adds
        removes := left.removes + right.removes
        missedRemoves := left.missedRemoves + right.missedRemoves
        queries := left.queries + right.queries } :=
  rfl

theorem zero_add (counters : Counters) : zero + counters = counters := by
  simp [add_def, zero]

theorem add_zero (counters : Counters) : counters + zero = counters :=
  rfl

theorem add_assoc (first second third : Counters) :
    first + second + third = first + (second + third) := by
  simp [add_def, Nat.add_assoc]

end Counters

/-! ## Courses -/

/-- What the operations of a simulation come from and what they change. -/
structure Course (σ : Type) where
  generator : Generator σ
  store : Store
  model : Model

variable {σ : Type}

namespace Course

/-- The counters of one operation, and the course after it. -/
def perform (course : Course σ) : Operation → Counters × Course σ
  | .add record value =>
      ({ Counters.zero with performed := 1, adds := 1 },
        { course with
          store := (course.store.insertRecord record value).2
          model := course.model.insert record value })
  | .remove record =>
      let (removed, store) := course.store.eraseRecord record
      (if removed then { Counters.zero with performed := 1, removes := 1 }
        else { Counters.zero with performed := 1, missedRemoves := 1 },
        { course with store, model := course.model.erase record })
  | .query _ => ({ Counters.zero with performed := 1, queries := 1 }, course)

variable [RandomChoice σ]

def step (course : Course σ) : Counters × Course σ :=
  let (operation, generator) := course.generator.next
  { course with generator }.perform operation

/-- The counters of so many operations, and the course after them. -/
def steps (course : Course σ) : Nat → Counters × Course σ
  | 0 => (.zero, course)
  | count + 1 => (course.step.1 + (course.step.2.steps count).1, (course.step.2.steps count).2)

/-- The counters of each of some runs, and the course after them. -/
def runs (course : Course σ) : List Nat → List Counters × Course σ
  | [] => ([], course)
  | count :: rest =>
      ((course.steps count).1 :: ((course.steps count).2.runs rest).1,
        ((course.steps count).2.runs rest).2)

theorem steps_add (course : Course σ) (first second : Nat) :
    course.steps (first + second) =
      ((course.steps first).1 + ((course.steps first).2.steps second).1,
        ((course.steps first).2.steps second).2) := by
  induction first generalizing course with
  | zero => rw [Nat.zero_add, steps, Counters.zero_add]
  | succ first inductionHypothesis =>
      rw [Nat.add_right_comm, steps, steps, inductionHypothesis, Counters.add_assoc]

/-- Runs are one run of as many operations, whose counters are their sum. -/
theorem runs_eq_steps (course : Course σ) (counts : List Nat) :
    ((course.runs counts).1.sum, (course.runs counts).2) = course.steps counts.sum := by
  induction counts generalizing course with
  | nil => rfl
  | cons count rest inductionHypothesis =>
      rw [List.sum_cons, steps_add, ← inductionHypothesis]
      rfl

end Course

/-! ## The course of a simulation -/

namespace Simulation

def course (simulation : Simulation σ) : Course σ where
  generator := simulation.generator
  store := simulation.state.store
  model := simulation.state.model

/-- Performing an operation does to store and map what its course says, and raises the
counters by those of the operation. -/
theorem course_perform
    (simulation : Simulation σ)
    (counters : Counters)
    (index : Nat)
    (operation : Operation) :
    let after := simulation.state.perform counters index operation
    course { simulation with state := after.1 } = (simulation.course.perform operation).2 ∧
      after.2 = counters + (simulation.course.perform operation).1 := by
  cases operation with
  | add record value => exact ⟨rfl, rfl⟩
  | query pattern => exact ⟨rfl, rfl⟩
  | remove record =>
      have removed : (simulation.state.remove record index).1 =
          (simulation.state.store.eraseRecord record).1 := rfl
      constructor
      · rw [State.perform_remove_fst]
        rfl
      · change (simulation.state.perform counters index (.remove record)).2 = counters +
          if (simulation.state.store.eraseRecord record).1 then
            { Counters.zero with performed := 1, removes := 1 }
          else { Counters.zero with performed := 1, missedRemoves := 1 }
        rw [← removed, State.perform]
        rcases simulation.state.remove record index with ⟨_ | _, after⟩ <;> rfl

variable [RandomChoice σ]

/-- A check leaves store and map as they are. -/
theorem course_step (simulation : Simulation σ) (counters : Counters) (index : Nat) :
    (simulation.step counters index).1.course = simulation.course.step.2 ∧
      (simulation.step counters index).2 = counters + simulation.course.step.1 := by
  have performed :=
    course_perform { simulation with generator := simulation.generator.next.2 } counters index
      simulation.generator.next.1
  refine ⟨Eq.trans ?_ performed.1, performed.2⟩
  unfold step
  dsimp only
  split <;> rfl

theorem course_steps (simulation : Simulation σ) (counters : Counters) (index count : Nat) :
    (simulation.steps counters index count).1.course = (simulation.course.steps count).2 ∧
      (simulation.steps counters index count).2 =
        counters + (simulation.course.steps count).1 := by
  induction count generalizing simulation counters index with
  | zero => exact ⟨rfl, (Counters.add_zero counters).symm⟩
  | succ count inductionHypothesis =>
      obtain ⟨courseAfter, countersAfter⟩ := simulation.course_step counters index
      obtain ⟨courseLast, countersLast⟩ :=
        inductionHypothesis (simulation.step counters index).1
          (simulation.step counters index).2 (index + 1)
      rw [courseAfter] at courseLast countersLast
      refine ⟨courseLast, countersLast.trans ?_⟩
      rw [countersAfter, Counters.add_assoc]
      rfl

theorem course_run (simulation : Simulation σ) (count : Nat) :
    (simulation.run count).2.course = (simulation.course.steps count).2 ∧
      (simulation.run count).1.counters = (simulation.course.steps count).1 := by
  obtain ⟨courseAfter, countersAfter⟩ := simulation.course_steps .zero 0 count
  rw [Counters.zero_add] at countersAfter
  refine ⟨Eq.trans ?_ courseAfter, countersAfter⟩
  unfold run
  dsimp only
  split <;> rfl

theorem course_runs (simulation : Simulation σ) (counts : List Nat) :
    (simulation.runs counts).2.course = (simulation.course.runs counts).2 ∧
      (simulation.runs counts).1.map Report.counters = (simulation.course.runs counts).1 := by
  induction counts generalizing simulation with
  | nil => exact ⟨rfl, rfl⟩
  | cons count rest inductionHypothesis =>
      obtain ⟨courseAfter, countersAfter⟩ := simulation.course_run count
      obtain ⟨courseLast, countersLast⟩ := inductionHypothesis (simulation.run count).2
      rw [courseAfter] at courseLast countersLast
      exact ⟨courseLast, congrArg₂ List.cons countersAfter countersLast⟩

/-- Runs that follow on from each other leave the generator, the store and the map that one
run of as many operations leaves, and their counters add up to those of that run. When the
checks are made changes neither. -/
theorem runs_split (config : SimulationConfig) (source : σ) (counts : List Nat) :
    let simulation := start config source
    let parts := simulation.runs counts
    let whole := simulation.run counts.sum
    parts.2.course = whole.2.course ∧
      whole.1.counters = (parts.1.map Report.counters).sum ∧
      ∀ checksEveryStep : Bool,
        let otherParts := (start { config with checksEveryStep } source).runs counts
        otherParts.2.course = parts.2.course ∧
          otherParts.1.map Report.counters = parts.1.map Report.counters := by
  intro simulation parts whole
  obtain ⟨courseParts, countersParts⟩ := simulation.course_runs counts
  obtain ⟨courseWhole, countersWhole⟩ := simulation.course_run counts.sum
  have added := Prod.ext_iff.mp (simulation.course.runs_eq_steps counts)
  refine ⟨?_, ?_, ?_⟩
  · exact courseParts.trans (added.2.trans courseWhole.symm)
  · exact countersWhole.trans (added.1.symm.trans (congrArg List.sum countersParts.symm))
  · intro checksEveryStep
    -- Both start with the same course, and how they check is no part of it.
    obtain ⟨courseOther, countersOther⟩ :=
      (start { config with checksEveryStep } source).course_runs counts
    exact ⟨courseOther.trans courseParts.symm, countersOther.trans countersParts.symm⟩

end Simulation

end TripleStore.Trial
