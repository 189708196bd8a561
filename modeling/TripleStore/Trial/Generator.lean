import TripleStore.Random.Draw
import TripleStore.Trial.Operation

/-!
Contract: an endless sequence of random operations.

Owns: how likely each kind of operation is, and which terms and payloads it names.

Does not own: the words that decide (`TripleStore.Random`).

Terms come from small pools, so that the same triples are hit again and again. Removals
and queries now and then name a term that is never added.
-/

namespace TripleStore.Trial

open TripleStore.Random
open TripleStore.Random.RandomChoice (occurs below)

structure GeneratorConfig where
  queryChance : Chance := .ofFraction 3 10
  removeChance : Chance := .ofFraction 2 10
  /-- The chance that a removal or a query names a term outside the pool. -/
  unknownChance : Chance := .ofFraction 5 100
  entityCount : Nat := 6
  predicateCount : Nat := 3
deriving DecidableEq, Repr

def poolEntity (number : Nat) : String := "e" ++ toString number

def poolPredicate (number : Nat) : String := "p" ++ toString number

def unknownEntity : String := "unknown_entity"

def unknownPredicate : String := "unknown_predicate"

def payload (number : Nat) : String := "v" ++ toString number

def boundChance : Chance := .ofFraction 1 2

namespace GeneratorConfig

variable {σ : Type} [RandomChoice σ]

def drawKnownEntity (config : GeneratorConfig) : StateM σ String := do
  return poolEntity (← below config.entityCount)

def drawKnownPredicate (config : GeneratorConfig) : StateM σ String := do
  return poolPredicate (← below config.predicateCount)

def drawEntity (config : GeneratorConfig) : StateM σ String := do
  if ← occurs config.unknownChance then
    return unknownEntity
  else
    config.drawKnownEntity

def drawPredicate (config : GeneratorConfig) : StateM σ String := do
  if ← occurs config.unknownChance then
    return unknownPredicate
  else
    config.drawKnownPredicate

/-- A term for a place that is bound as often as not. -/
def drawIfBound (term : StateM σ String) : StateM σ (Option String) := do
  if ← occurs boundChance then
    return some (← term)
  else
    return none

def drawAdd (config : GeneratorConfig) (number : Nat) : StateM σ Operation := do
  let subject ← config.drawKnownEntity
  let predicate ← config.drawKnownPredicate
  let object ← config.drawKnownEntity
  return .add { subject, predicate, object } (payload number)

def drawRemove (config : GeneratorConfig) : StateM σ Operation := do
  let subject ← config.drawEntity
  let predicate ← config.drawPredicate
  let object ← config.drawEntity
  return .remove { subject, predicate, object }

def drawQuery (config : GeneratorConfig) : StateM σ Operation := do
  let subject ← drawIfBound config.drawEntity
  let predicate ← drawIfBound config.drawPredicate
  let object ← drawIfBound config.drawEntity
  return .query { subject, predicate, object }

def drawOperation (config : GeneratorConfig) (number : Nat) : StateM σ Operation := do
  if ← occurs config.queryChance then
    config.drawQuery
  else if ← occurs config.removeChance then
    config.drawRemove
  else
    config.drawAdd number

end GeneratorConfig

structure Generator (σ : Type) where
  config : GeneratorConfig
  count : Nat
  source : σ

namespace Generator

variable {σ : Type} [RandomChoice σ]

def start (config : GeneratorConfig) (source : σ) : Generator σ where
  config := config
  count := 0
  source := source

def next (generator : Generator σ) : Operation × Generator σ :=
  let number := generator.count + 1
  let (operation, source) := generator.config.drawOperation number generator.source
  (operation, { generator with count := number, source })

def take (generator : Generator σ) : Nat → List Operation
  | 0 => []
  | count + 1 => generator.next.1 :: generator.next.2.take count

end Generator

end TripleStore.Trial
