import LifeStory.Draw
import LifeStory.Life.Basic
import LifeStory.Content

/-!
# The draw of a choice and of its result

Left to itself a life scores its choices: how strongly they draw it, and an impulse. The scores are
the weights of a draw. A choice with buckets then draws one of them; if no bucket has any weight,
the last one counts.
-/

namespace LifeStory

variable {R G : Type} [Scalar R] [RandomSource G]

/-- The least score of a choice. -/
def minScore : R := 0.1

namespace Choice

/-- Scores a choice; its impulse is drawn below `chaos`. -/
def scored (life : Life R) (chaos : R) (id : String) (choice : Choice R) (source : Counted G) :
    Weighted R × Counted G :=
  let base := choice.tendency life * choice.strength
  let (u, source) := source.unit R
  let impulse := u * chaos
  (⟨id, base, [⟨"impulse", impulse⟩], Scalar.max (base + impulse) minScore⟩, source)

/-- Scores choices in order; `position` is that of the first one. -/
def scoredFrom (life : Life R) (chaos : R) : Nat → List (Choice R) → Counted G →
    List (Weighted R) × Counted G
  | _, [], source => ([], source)
  | position, choice :: rest, source =>
    let (first, source) := choice.scored life chaos (choice.label position) source
    let (others, source) := scoredFrom life chaos (position + 1) rest source
    (first :: others, source)

/-- The name of what is drawn from, in the trace of a draw of choices. -/
def pool : String := "choices"

/-- Draws one of the choices. -/
def draw (life : Life R) (chaos : R) (choices : List (Choice R)) (source : Counted G) :
    Option (Choice R) × Trace R × Counted G :=
  let (candidates, source) := scoredFrom life chaos 0 choices source
  let (index, trace, source) := (Trace.ofCandidates pool candidates).draw source
  (index.bind (choices[·]?), trace, source)

end Choice

/-- How a choice turned out. -/
structure Resolution (R : Type) where
  feedback : Option String
  outcomes : List (Directive R)
  /-- The position of the bucket that was drawn. -/
  bucket : Option Nat
  trace : Option (Trace R)

/-- The name of a bucket among others. -/
def bucketLabel (position : Nat) : String := "#" ++ toString position

/-- The buckets as candidates of a draw. -/
def Bucket.weightedAll (buckets : List (Bucket R)) : List (Weighted R) :=
  buckets.mapIdx fun position b ↦ ⟨bucketLabel position, b.drawWeight, [], b.drawWeight⟩

/-- What comes of a bucket. -/
def Resolution.ofBucket (buckets : List (Bucket R)) (position : Nat) (trace : Trace R) :
    Resolution R :=
  let bucket := buckets[position]?
  ⟨bucket.bind Bucket.feedback, (bucket.map Bucket.outcomes).getD [], some position, some trace⟩

/-- Resolves a choice: draws a bucket if it has any, and takes its own outcomes otherwise. -/
def Choice.resolve (choice : Choice R) (source : Counted G) : Resolution R × Counted G :=
  let buckets := choice.results
  if buckets.isEmpty then (⟨choice.feedback, choice.outcomes, none, none⟩, source)
  else
    match (Trace.ofCandidates "results" (Bucket.weightedAll buckets)).draw source with
    | (some position, trace, source) => (.ofBucket buckets position trace, source)
    | (none, trace, source) =>
      let last := buckets.length - 1
      (.ofBucket buckets last { trace with chosen := some (bucketLabel last) }, source)

end LifeStory
