import TripleStore.Proofs.Trial.QueryCheck
import TripleStore.Trial.Generator

/-!
Contract: what random operations name.

Owns:
- `Yields`, what a draw gives whatever the words are, and its rules for draws made of
  draws;
- that every operation names terms of its pools, and removals and queries the unknown
  terms at most besides;
- that no such term holds a quote.

Does not own: how likely an operation is (`TripleStore.Trial.Generator`).
-/

namespace TripleStore.Trial

open TripleStore.Random

variable {σ : Type}

/-! ## Draws -/

/-- Every result of the draw has the property, from whatever source. -/
def Yields {Result : Type} (draw : StateM σ Result) (Property : Result → Prop) : Prop :=
  ∀ source, Property (draw source).1

namespace Yields

variable {First Second : Type} {Property : First → Prop} {Goal : Second → Prop}

theorem pure {value : First} (holds : Property value) :
    Yields (Pure.pure value : StateM σ First) Property :=
  fun _ => holds

theorem bind
    {draw : StateM σ First}
    {next : First → StateM σ Second}
    (first : Yields draw Property)
    (second : ∀ value, Property value → Yields (next value) Goal) :
    Yields (draw >>= next) Goal := by
  intro source
  exact second (draw source).1 (first source) (draw source).2

variable [RandomChoice σ]

/-- Whichever way a chance turns out. -/
theorem occurs
    {chance : Chance}
    {yes no : StateM σ First}
    (ifYes : Yields yes Property)
    (ifNo : Yields no Property) :
    Yields (do if ← RandomChoice.occurs chance then yes else no) Property := by
  have either : Yields (RandomChoice.occurs chance : StateM σ Bool) fun _ => True :=
    fun _ => trivial
  refine either.bind ?_
  intro cameTrue _
  cases cameTrue with
  | true => exact ifYes
  | false => exact ifNo

theorem below (bound : Nat) :
    Yields (RandomChoice.below bound : StateM σ Nat) fun number =>
      0 < bound → number < bound :=
  fun source positive => RandomChoice.below_lt positive source

end Yields

/-! ## Terms -/

namespace GeneratorConfig

variable [RandomChoice σ] (config : GeneratorConfig)

/-- The term is one of the pool of entities. -/
def HasEntity (term : String) : Prop :=
  ∃ number, (0 < config.entityCount → number < config.entityCount) ∧ term = poolEntity number

def HasPredicate (term : String) : Prop :=
  ∃ number, (0 < config.predicateCount → number < config.predicateCount) ∧
    term = poolPredicate number

/-- The terms that removals and queries may name in the place of an entity. -/
def NamesEntity (term : String) : Prop :=
  term = unknownEntity ∨ config.HasEntity term

def NamesPredicate (term : String) : Prop :=
  term = unknownPredicate ∨ config.HasPredicate term

theorem yields_drawKnownEntity :
    Yields (config.drawKnownEntity : StateM σ String) config.HasEntity :=
  (Yields.below config.entityCount).bind fun number inPool => .pure ⟨number, inPool, rfl⟩

theorem yields_drawKnownPredicate :
    Yields (config.drawKnownPredicate : StateM σ String) config.HasPredicate :=
  (Yields.below config.predicateCount).bind fun number inPool => .pure ⟨number, inPool, rfl⟩

theorem yields_drawEntity : Yields (config.drawEntity : StateM σ String) config.NamesEntity := by
  apply Yields.occurs
  · exact .pure (Or.inl rfl)
  · exact fun source => Or.inr (config.yields_drawKnownEntity source)

theorem yields_drawPredicate :
    Yields (config.drawPredicate : StateM σ String) config.NamesPredicate := by
  apply Yields.occurs
  · exact .pure (Or.inl rfl)
  · exact fun source => Or.inr (config.yields_drawKnownPredicate source)

theorem yields_drawIfBound
    {draw : StateM σ String}
    {Property : String → Prop}
    (bound : Yields draw Property) :
    Yields (drawIfBound draw) fun drawn => ∀ term ∈ drawn, Property term := by
  apply Yields.occurs
  · refine bound.bind ?_
    intro term holds
    exact .pure (by simpa using holds)
  · exact .pure (by simp)

end GeneratorConfig

/-! ## Operations -/

namespace Operation

/-- What the operation with that number may be. -/
def Drawn (config : GeneratorConfig) (number : Nat) : Operation → Prop
  | add record value =>
      config.HasEntity record.subject ∧ config.HasPredicate record.predicate ∧
        config.HasEntity record.object ∧ value = payload number
  | remove record =>
      config.NamesEntity record.subject ∧ config.NamesPredicate record.predicate ∧
        config.NamesEntity record.object
  | query pattern =>
      (∀ term ∈ pattern.subject, config.NamesEntity term) ∧
        (∀ term ∈ pattern.predicate, config.NamesPredicate term) ∧
          ∀ term ∈ pattern.object, config.NamesEntity term

end Operation

namespace GeneratorConfig

variable [RandomChoice σ] (config : GeneratorConfig) (number : Nat)

theorem yields_drawAdd :
    Yields (config.drawAdd number : StateM σ Operation) (Operation.Drawn config number) := by
  refine config.yields_drawKnownEntity.bind ?_
  intro subject isSubject
  refine config.yields_drawKnownPredicate.bind ?_
  intro predicate isPredicate
  refine config.yields_drawKnownEntity.bind ?_
  intro object isObject
  exact .pure ⟨isSubject, isPredicate, isObject, rfl⟩

theorem yields_drawRemove :
    Yields (config.drawRemove : StateM σ Operation) (Operation.Drawn config number) := by
  refine config.yields_drawEntity.bind ?_
  intro subject isSubject
  refine config.yields_drawPredicate.bind ?_
  intro predicate isPredicate
  refine config.yields_drawEntity.bind ?_
  intro object isObject
  exact .pure ⟨isSubject, isPredicate, isObject⟩

theorem yields_drawQuery :
    Yields (config.drawQuery : StateM σ Operation) (Operation.Drawn config number) := by
  refine (yields_drawIfBound config.yields_drawEntity).bind ?_
  intro subject isSubject
  refine (yields_drawIfBound config.yields_drawPredicate).bind ?_
  intro predicate isPredicate
  refine (yields_drawIfBound config.yields_drawEntity).bind ?_
  intro object isObject
  exact .pure ⟨isSubject, isPredicate, isObject⟩

theorem yields_drawOperation :
    Yields (config.drawOperation number : StateM σ Operation) (Operation.Drawn config number) := by
  apply Yields.occurs
  · exact config.yields_drawQuery number
  · apply Yields.occurs
    · exact config.yields_drawRemove number
    · exact config.yields_drawAdd number

end GeneratorConfig

/-- The next operation is one of the pools of the generator. -/
theorem Generator.drawn_next [RandomChoice σ] (generator : Generator σ) :
    generator.next.1.Drawn generator.config (generator.count + 1) :=
  generator.config.yields_drawOperation (generator.count + 1) generator.source

/-! ## No quotes -/

theorem plain_numbered {letter : String} (plain : Plain letter) (number : Nat) :
    Plain (letter ++ toString number) := by
  intro member
  rw [String.toList_append, List.mem_append] at member
  rcases member with inLetter | inNumber
  · exact plain inLetter
  · change '\x27' ∈ number.repr.toList at inNumber
    rw [Nat.repr_eq_ofList_toDigits, String.toList_ofList] at inNumber
    have isDigit := Nat.isDigit_of_mem_toDigits (by decide) (by decide) inNumber
    exact absurd isDigit (by decide)

namespace GeneratorConfig

variable {config : GeneratorConfig} {term : String}

theorem NamesEntity.plain (names : config.NamesEntity term) : Plain term := by
  rcases names with isUnknown | ⟨number, _, inPool⟩
  · rw [isUnknown]
    decide
  · rw [inPool]
    exact plain_numbered (by decide) number

theorem NamesPredicate.plain (names : config.NamesPredicate term) : Plain term := by
  rcases names with isUnknown | ⟨number, _, inPool⟩
  · rw [isUnknown]
    decide
  · rw [inPool]
    exact plain_numbered (by decide) number

end GeneratorConfig

/-- A random query can be written with its terms between single quotes. -/
theorem Operation.Drawn.plain
    {config : GeneratorConfig}
    {number : Nat}
    {pattern : TermPattern}
    (drawn : (Operation.query pattern).Drawn config number) :
    pattern.Plain :=
  ⟨fun term member => (drawn.1 term member).plain,
    fun term member => (drawn.2.1 term member).plain,
    fun term member => (drawn.2.2 term member).plain⟩

end TripleStore.Trial
