import LifeStory.Scalar

/-!
# Sources of randomness

A source hands out machine words of 32 and of 64 bits. All that is drawn is made of them:
`Counted.bytes` cuts words of 64 bits into bytes, the low byte first, and `Counted.unit` takes the
53 high bits of a word as a fraction in `[0, 1)`. A `Counted` source counts its draws; a draw of
bytes is one draw, whatever the number of bytes.
-/

namespace LifeStory

/-- A source of machine words. -/
class RandomSource (G : Type) where
  /-- Draws a word of 64 bits. -/
  next64 : G → UInt64 × G
  /-- Draws a word of 32 bits. -/
  next32 : G → UInt32 × G

/-- The bytes of a word, the low one first. -/
def bytesOfWord (word : UInt64) (count : Nat) : List UInt8 :=
  (List.range count).map fun i ↦ (word >>> (8 * i).toUInt64).toUInt8

/-- Draws bytes: one word of 64 bits for eight bytes each; a rest of up to four bytes takes a word
of 32 bits, a larger rest one of 64. -/
def RandomSource.bytes {G : Type} [RandomSource G] (source : G) (count : Nat) :
    List UInt8 × G :=
  if 8 ≤ count then
    let (word, source) := next64 source
    let (rest, source) := RandomSource.bytes source (count - 8)
    (bytesOfWord word 8 ++ rest, source)
  else if count = 0 then ([], source)
  else if count ≤ 4 then
    let (word, source) := next32 source
    (bytesOfWord word.toUInt64 count, source)
  else
    let (word, source) := next64 source
    (bytesOfWord word count, source)
termination_by count

/-- A source that counts how often it was drawn from. -/
structure Counted (G : Type) where
  source : G
  draws : Nat
deriving Repr

namespace Counted

variable {G : Type} [RandomSource G]

/-- A source that has not been drawn from. -/
def fresh (source : G) : Counted G := ⟨source, 0⟩

/-- Draws a word of 64 bits. -/
def next64 (c : Counted G) : UInt64 × Counted G :=
  let (word, source) := RandomSource.next64 c.source
  (word, ⟨source, c.draws + 1⟩)

/-- Draws a word of 32 bits. -/
def next32 (c : Counted G) : UInt32 × Counted G :=
  let (word, source) := RandomSource.next32 c.source
  (word, ⟨source, c.draws + 1⟩)

/-- Draws bytes. -/
def bytes (c : Counted G) (count : Nat) : List UInt8 × Counted G :=
  let (bytes, source) := RandomSource.bytes c.source count
  (bytes, ⟨source, c.draws + 1⟩)

/-- Draws a fraction in `[0, 1)`, a multiple of `2 ^ -53`. -/
def unit (R : Type) [Scalar R] (c : Counted G) : R × Counted G :=
  let (word, c) := c.next64
  (Scalar.ofFraction (word >>> 11).toNat, c)

end Counted

end LifeStory
