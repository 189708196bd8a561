import TripleStore.Random.ChaCha

/-!
Contract: words that look random and are determined by a seed.

Owns:
- what a source of words is;
- the stream of words for a seed.

Does not own: chances and choices made from words (`TripleStore.Random.Draw`).

All words of a block are used, in their order, before the next block is made.
-/

namespace TripleStore.Random

class RandomSource (σ : Type) where
  nextWord : σ → UInt32 × σ

structure Stream where
  key : ChaCha.Key
  counter : UInt64
  /-- What is left of the block before it. -/
  pending : List UInt32
deriving Repr

namespace Stream

def nextWord (stream : Stream) : UInt32 × Stream :=
  match stream.pending with
  | word :: rest => (word, { stream with pending := rest })
  | [] =>
      let words := ChaCha.block stream.key stream.counter
      (words[0],
        { stream with counter := stream.counter + 1, pending := words.toList.tail })

instance : RandomSource Stream where
  nextWord := nextWord

/-! ## Seeds -/

/-- One step of the generator that spreads a seed over a key. -/
def spread (state : UInt64) : UInt64 :=
  state * 6364136223846793005 + 11634580027462260723

def rotateRight (word places : UInt32) : UInt32 :=
  (word >>> places) ||| (word <<< (32 - places))

def spreadWord (state : UInt64) : UInt32 :=
  rotateRight (((state >>> 18) ^^^ state) >>> 27).toUInt32 (state >>> 59).toUInt32

def spreadState (seed : UInt64) (steps : Nat) : UInt64 :=
  steps.repeat spread seed

def ofSeed (seed : UInt64) : Stream where
  key := Vector.ofFn fun place => spreadWord (spreadState seed (place.val + 1))
  counter := 0
  pending := []

end Stream

end TripleStore.Random
