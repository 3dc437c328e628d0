import LifeStory.Random.Xoshiro

/-!
# The generator ChaCha20

The key stream of ChaCha20 as a sequence of words of 32 bits, with a block counter of 64 bits and
stream number zero. `ChaCha.below` draws a whole number below a bound without bias: the high half
of a product is the number, and a low half above the zone is drawn again.
-/

namespace LifeStory

/-- A ChaCha20 generator: its key, and how many words it has handed out. -/
structure ChaCha where
  key : List UInt32
  position : Nat
deriving DecidableEq, Repr

namespace ChaCha

/-- Rotates the bits of a word to the left. -/
def rotateLeft32 (x : UInt32) (k : UInt32) : UInt32 := (x <<< k) ||| (x >>> (32 - k))

/-- A quarter round on four words of the block. -/
def quarterRound (block : Vector UInt32 16) (a b c d : Fin 16) : Vector UInt32 16 :=
  let xa := block[a]
  let xb := block[b]
  let xc := block[c]
  let xd := block[d]
  let xa := xa + xb
  let xd := rotateLeft32 (xd ^^^ xa) 16
  let xc := xc + xd
  let xb := rotateLeft32 (xb ^^^ xc) 12
  let xa := xa + xb
  let xd := rotateLeft32 (xd ^^^ xa) 8
  let xc := xc + xd
  let xb := rotateLeft32 (xb ^^^ xc) 7
  (((block.set a xa).set b xb).set c xc).set d xd

/-- A round on the columns and a round on the diagonals. -/
def doubleRound (block : Vector UInt32 16) : Vector UInt32 16 :=
  let block := quarterRound block 0 4 8 12
  let block := quarterRound block 1 5 9 13
  let block := quarterRound block 2 6 10 14
  let block := quarterRound block 3 7 11 15
  let block := quarterRound block 0 5 10 15
  let block := quarterRound block 1 6 11 12
  let block := quarterRound block 2 7 8 13
  quarterRound block 3 4 9 14

/-- The block with the given counter before the rounds. -/
def initial (key : List UInt32) (counter : Nat) : Vector UInt32 16 :=
  let constants : List UInt32 := [0x61707865, 0x3320646e, 0x79622d32, 0x6b206574]
  let low := counter.toUInt32
  let high := (counter >>> 32).toUInt32
  let words := constants ++ key ++ [low, high, 0, 0]
  Vector.ofFn fun i ↦ words.getD i.val 0

/-- The block of the key stream with the given counter. -/
def block (key : List UInt32) (counter : Nat) : Vector UInt32 16 :=
  let start := initial key counter
  let mixed := (List.range 10).foldl (fun block _ ↦ doubleRound block) start
  Vector.zipWith (· + ·) mixed start

/-- The generator that a seed stands for. -/
def ofSeed (seed : UInt64) : ChaCha := ⟨seedWords 8 seed, 0⟩

/-- The next word of 32 bits. -/
def next32 (c : ChaCha) : UInt32 × ChaCha :=
  let words := block c.key (c.position / 16)
  (words.get ⟨c.position % 16, Nat.mod_lt _ (by decide)⟩, { c with position := c.position + 1 })

/-- The next two words, the low one first. -/
def next64 (c : ChaCha) : UInt64 × ChaCha :=
  let (low, c) := c.next32
  let (high, c) := c.next32
  (Xoshiro.joinWords low high, c)

instance : RandomSource ChaCha := ⟨next64, next32⟩

/-- The low halves of products that are accepted by a draw below the bound: the largest multiple of
the bound by a power of two that fits a word, less one. -/
def zone (bound : Nat) : Nat := bound <<< (63 - Nat.log2 bound) - 1

/-- Draws until a low half is within the zone, at most the given number of times. -/
def drawWithin (bound : Nat) : Nat → ChaCha → Nat × ChaCha
  | 0, c => (0, c)
  | attempts + 1, c =>
    let (word, c) := c.next64
    let product := word.toNat * bound
    if product % 1 <<< 64 ≤ zone bound then (product >>> 64, c)
    else drawWithin bound attempts c

/-- Draws a whole number below a positive bound. Half of the words or more are accepted, so that
the limit on the attempts is never met in practice. -/
def below (bound : Nat) (c : ChaCha) : Nat × ChaCha := drawWithin bound 1024 c

end ChaCha

end LifeStory
