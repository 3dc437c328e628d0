import LifeStory.Random.Digest
import LifeStory.Random.Xoshiro

/-!
# The random streams of a run

A run draws from four streams, one for each kind of decision, so that a draw of one kind never
shifts those of another. All four come from one seed: the seed of a stream is the start of the
keyed digest of the stream's name under the seed.
-/

namespace LifeStory

/-- A source that a seed determines. -/
class SeededSource (G : Type) extends RandomSource G where
  /-- The source of a seed. -/
  ofSeed : UInt64 → G

instance : SeededSource Xoshiro where
  ofSeed := Xoshiro.ofSeed

/-- The kinds of decision that have a stream of their own. -/
inductive StreamName where
  | events
  | choices
  | results
  | text
deriving DecidableEq, Repr

/-- The name that the seed of the stream is derived from. -/
def StreamName.label : StreamName → String
  | .events => "events"
  | .choices => "choices"
  | .results => "results"
  | .text => "text"

/-- The bytes of a word, the low one first, as one word again. -/
def wordOfBytes (bytes : List UInt8) : UInt64 :=
  bytes.foldr (fun b word ↦ (word <<< 8) ||| b.toUInt64) 0

/-- The seed for a purpose that a byte string names. -/
def deriveSeed (seed : UInt64) (tag : List UInt8) : UInt64 :=
  wordOfBytes ((Digest.hmac (bytesOfWord seed 8) tag).take 8)

/-- The seed of a run that goes on from a save of the given turn. A save of turn zero goes on with
the seed itself; later turns take a seed of their own, so that no draw is repeated. -/
def resumeSeed (seed : UInt64) (turn : Nat) : UInt64 :=
  if turn = 0 then seed
  else deriveSeed seed ("resume".toUTF8.toList ++ bytesOfWord turn.toUInt64 4)

/-- The four streams of a run. -/
structure Streams (G : Type) where
  /-- The seed that the streams come from. -/
  seed : UInt64
  events : Counted G
  choices : Counted G
  results : Counted G
  text : Counted G
deriving Repr

namespace Streams

variable {G : Type}

/-- The stream of a seed with the given name. -/
def streamOf [SeededSource G] (seed : UInt64) (name : StreamName) : Counted G :=
  .fresh (SeededSource.ofSeed (deriveSeed seed name.label.toUTF8.toList))

/-- The four streams of a seed. -/
def ofSeed [SeededSource G] (seed : UInt64) : Streams G :=
  ⟨seed, streamOf seed .events, streamOf seed .choices, streamOf seed .results, streamOf seed .text⟩

/-- The stream with the given name. -/
def get (s : Streams G) : StreamName → Counted G
  | .events => s.events
  | .choices => s.choices
  | .results => s.results
  | .text => s.text

/-- Puts a stream in the place of the one with the given name. -/
def set (s : Streams G) (c : Counted G) : StreamName → Streams G
  | .events => { s with events := c }
  | .choices => { s with choices := c }
  | .results => { s with results := c }
  | .text => { s with text := c }

end Streams

/-- How often each stream was drawn from. -/
structure DrawCounts where
  events : Nat
  choices : Nat
  results : Nat
  text : Nat
deriving DecidableEq, Repr

/-- How often each stream was drawn from. -/
def Streams.drawCounts {G : Type} (s : Streams G) : DrawCounts :=
  ⟨s.events.draws, s.choices.draws, s.results.draws, s.text.draws⟩

end LifeStory
