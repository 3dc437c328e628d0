import LifeStory.Random.Source

/-!
# A source that counts in equal steps

The words of a `Stepper` are an arithmetic progression modulo `2 ^ 64`, which makes every draw
predictable; a word of 32 bits is the low half of a word.
-/

namespace LifeStory

/-- A source whose next word is the last one and a fixed increment. -/
structure Stepper where
  value : UInt64
  increment : UInt64
deriving DecidableEq, Repr

namespace Stepper

/-- The next word and the state after it. -/
def next (s : Stepper) : UInt64 × Stepper := (s.value, ⟨s.value + s.increment, s.increment⟩)

instance : RandomSource Stepper where
  next64 := next
  next32 s := let (word, s) := s.next; (word.toUInt32, s)

end Stepper

end LifeStory
