import LifeStory.Random.Source

/-!
# The generator xoshiro256++

Four words of state, seeded from one word: a congruential generator with permuted output fills the
state with 32 bits at a time.
-/

namespace LifeStory

/-- Rotates the bits of a word to the left. -/
def rotateLeft64 (x : UInt64) (k : UInt64) : UInt64 := (x <<< k) ||| (x >>> (64 - k))

/-- Rotates the bits of a word to the right. -/
def rotateRight32 (x : UInt32) (k : UInt32) : UInt32 := (x >>> k) ||| (x <<< (32 - k))

/-- One step of the seeding generator: 32 bits and its next state. -/
def seedStep (state : UInt64) : UInt32 × UInt64 :=
  let state := state * 6364136223846793005 + 11634580027462260723
  let shifted := (((state >>> 18) ^^^ state) >>> 27).toUInt32
  (rotateRight32 shifted (state >>> 59).toUInt32, state)

/-- The words that a seed is stretched to. -/
def seedWords : Nat → UInt64 → List UInt32
  | 0, _ => []
  | n + 1, state =>
    let (word, state) := seedStep state
    word :: seedWords n state

/-- The state of a xoshiro256++ generator. -/
structure Xoshiro where
  s0 : UInt64
  s1 : UInt64
  s2 : UInt64
  s3 : UInt64
deriving DecidableEq, Repr

namespace Xoshiro

/-- Two words of 32 bits, the low one first. -/
def joinWords (low high : UInt32) : UInt64 := low.toUInt64 ||| (high.toUInt64 <<< 32)

/-- The generator that a seed stands for. -/
def ofSeed (seed : UInt64) : Xoshiro :=
  match seedWords 8 seed with
  | [a, b, c, d, e, f, g, h] => ⟨joinWords a b, joinWords c d, joinWords e f, joinWords g h⟩
  | _ => ⟨0, 0, 0, 0⟩

/-- The next word and the state after it. -/
def next (x : Xoshiro) : UInt64 × Xoshiro :=
  let result := rotateLeft64 (x.s0 + x.s3) 23 + x.s0
  let t := x.s1 <<< 17
  let s2 := x.s2 ^^^ x.s0
  let s3 := x.s3 ^^^ x.s1
  let s1 := x.s1 ^^^ s2
  let s0 := x.s0 ^^^ s3
  (result, ⟨s0, s1, s2 ^^^ t, rotateLeft64 s3 45⟩)

/-- A word of 32 bits is the high half of a word. -/
instance : RandomSource Xoshiro where
  next64 := next
  next32 x := let (word, x) := x.next; ((word >>> 32).toUInt32, x)

end Xoshiro

end LifeStory
