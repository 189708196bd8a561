/-!
Contract: blocks of a ChaCha keystream with twelve rounds.

Owns: the quarter round, the rounds, and the block for a key and a counter.

Does not own: where keys come from, and how words are taken from blocks
(`TripleStore.Random.Stream`).
-/

namespace TripleStore.Random.ChaCha

abbrev Block := Vector UInt32 16

abbrev Key := Vector UInt32 8

/-- The word with its bits moved up by some places and the top ones brought round. -/
def rotateLeft (word places : UInt32) : UInt32 :=
  (word <<< places) ||| (word >>> (32 - places))

def quarterRound (block : Block) (a b c d : Fin 16) : Block :=
  let block := block.set a (block[a] + block[b])
  let block := block.set d (rotateLeft (block[d] ^^^ block[a]) 16)
  let block := block.set c (block[c] + block[d])
  let block := block.set b (rotateLeft (block[b] ^^^ block[c]) 12)
  let block := block.set a (block[a] + block[b])
  let block := block.set d (rotateLeft (block[d] ^^^ block[a]) 8)
  let block := block.set c (block[c] + block[d])
  block.set b (rotateLeft (block[b] ^^^ block[c]) 7)

def mixedPlaces : List (Fin 16 × Fin 16 × Fin 16 × Fin 16) :=
  [(0, 4, 8, 12), (1, 5, 9, 13), (2, 6, 10, 14), (3, 7, 11, 15),
    (0, 5, 10, 15), (1, 6, 11, 12), (2, 7, 8, 13), (3, 4, 9, 14)]

def doubleRound (block : Block) : Block :=
  mixedPlaces.foldl (fun block (a, b, c, d) => quarterRound block a b c d) block

def doubleRoundCount : Nat := 6

/-- The block before any round: four constants, the key, the counter with its low half
first, and two zeros. -/
def start (key : Key) (counter : UInt64) : Block :=
  #v[0x61707865, 0x3320646e, 0x79622d32, 0x6b206574,
    key[0], key[1], key[2], key[3], key[4], key[5], key[6], key[7],
    counter.toUInt32, (counter >>> 32).toUInt32, 0, 0]

def block (key : Key) (counter : UInt64) : Block :=
  let initial := start key counter
  (doubleRoundCount.repeat doubleRound initial).zipWith (· + ·) initial

end TripleStore.Random.ChaCha
