import TripleStore.Random.Stream

/-!
Contract: chances and choices made from random words.

Owns:
- what is asked of chances and choices by those who use them;
- chances, and whether one comes true;
- a number below a bound.

Does not own: the words (`TripleStore.Random.Stream`).

A chance is a fraction rounded to a double, as a share of all pairs of words. Which
choices come out depends on that rounding, so it is exact.
-/

namespace TripleStore.Random

/-! ## Chances -/

def pairCount : Nat := UInt64.size

/-- A chance, by the number of pairs of words for which it comes true. -/
structure Chance where
  threshold : Nat
deriving DecidableEq, Repr

/-- The quotient to the nearest whole number, and to the even one halfway. -/
def roundedQuotient (numerator denominator : Nat) : Nat :=
  let quotient := numerator / denominator
  let twice := 2 * (numerator % denominator)
  if denominator < twice ∨ (twice = denominator ∧ quotient % 2 = 1) then
    quotient + 1
  else
    quotient

def significandBits : Nat := 52

/-- The power of two by which a fraction below one has to be multiplied so that its
whole part takes up a significand. -/
def significandShift (numerator denominator : Nat) : Nat :=
  let shift := significandBits + denominator.log2 - numerator.log2
  if numerator <<< shift < denominator <<< significandBits then shift + 1 else shift

def Chance.ofFraction (numerator denominator : Nat) : Chance where
  threshold :=
    if numerator = 0 then
      0
    else if denominator ≤ numerator then
      pairCount
    else
      let shift := significandShift numerator denominator
      (roundedQuotient (numerator <<< shift) denominator * pairCount) >>> shift

/-! ## What is asked of a source -/

/-- A source of chances and choices. Nothing is assumed of it but that a choice is below its
bound. -/
class RandomChoice (σ : Type) where
  occurs : Chance → StateM σ Bool
  below : Nat → StateM σ Nat
  below_lt : ∀ {bound : Nat}, 0 < bound → ∀ source, (below bound source).1 < bound

/-! ## Words -/

variable {σ : Type} [RandomSource σ]

def nextWord : StateM σ UInt32 :=
  RandomSource.nextWord

/-- The next two words as one number, the first of them its low half. -/
def nextPair : StateM σ UInt64 := do
  let low ← nextWord
  let high ← nextWord
  return high.toUInt64 <<< 32 ||| low.toUInt64

/-- Whether the chance comes true. A certain one takes no words, and an impossible one
takes as many as any other. -/
def Chance.occurs (chance : Chance) : StateM σ Bool :=
  if pairCount ≤ chance.threshold then
    pure true
  else do
    return (← nextPair).toNat < chance.threshold

/-! ## Choices -/

def fitsWord (bound : Nat) : Bool :=
  bound < UInt32.size

/-- The number of values of the draw that a choice below the bound starts from. -/
def drawCount (bound : Nat) : Nat :=
  if fitsWord bound then UInt32.size else pairCount

def draw (bound : Nat) : StateM σ Nat :=
  if fitsWord bound then do
    return (← nextWord).toNat
  else do
    return (← nextPair).toNat

/-- A number below the bound. Where the bias of one draw could matter, a second one
carries on its fraction. -/
def below (bound : Nat) : StateM σ Nat := do
  let product := (← draw bound) * bound
  if drawCount bound - bound < product % drawCount bound then
    let carry := (← draw bound) * bound / drawCount bound
    return (product + carry) / drawCount bound
  else
    return product / drawCount bound

/-! ## Choices stay below their bound -/

theorem draw_lt (bound : Nat) (source : σ) :
    (draw bound source).1 < drawCount bound := by
  unfold draw drawCount
  split
  · exact UInt32.toNat_lt _
  · exact UInt64.toNat_lt _

theorem below_lt {bound : Nat} (positive : 0 < bound) (source : σ) :
    (below bound source).1 < bound := by
  have count : 0 < drawCount bound := Nat.lt_of_le_of_lt (Nat.zero_le _) (draw_lt bound source)
  rcases first : draw bound source with ⟨value, afterFirst⟩
  have valueLt : value < drawCount bound := by
    have drawn := draw_lt bound source
    rwa [first] at drawn
  have scaled : value * bound + bound ≤ drawCount bound * bound := by
    have stepped := Nat.mul_le_mul_right bound (Nat.succ_le_of_lt valueLt)
    rwa [Nat.succ_mul] at stepped
  simp only [below, bind, StateT.bind, first]
  split
  · rcases second : draw bound afterFirst with ⟨other, afterSecond⟩
    have otherLt : other < drawCount bound := by
      have drawn := draw_lt bound afterFirst
      rwa [second] at drawn
    have carry : other * bound / drawCount bound < bound := by
      rw [Nat.div_lt_iff_lt_mul count, Nat.mul_comm bound]
      exact Nat.mul_lt_mul_of_pos_right otherLt positive
    simp only [StateT.bind, second]
    change (value * bound + other * bound / drawCount bound) / drawCount bound < bound
    rw [Nat.div_lt_iff_lt_mul count, Nat.mul_comm bound]
    omega
  · change value * bound / drawCount bound < bound
    rw [Nat.div_lt_iff_lt_mul count, Nat.mul_comm bound]
    omega

instance : RandomChoice σ where
  occurs := Chance.occurs
  below := below
  below_lt := below_lt

end TripleStore.Random
