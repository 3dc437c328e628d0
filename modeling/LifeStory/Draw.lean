import LifeStory.Random.Source

/-!
# Weighted draws

A draw among candidates rolls a number below the sum of their weights and walks the weights with
it. A draw leaves a `Trace`, from which it can be explained: the candidates with their weights, the
roll, and who was chosen.
-/

namespace LifeStory

/-- A factor in the weight of a candidate. -/
structure Factor (R : Type) where
  label : String
  value : R
deriving BEq, Repr

/-- A candidate of a draw. -/
structure Weighted (R : Type) where
  id : String
  /-- The weight before the factors. -/
  base : R
  /-- The factors, in the order in which they were applied. -/
  factors : List (Factor R)
  /-- The weight in the draw. -/
  weight : R
deriving BEq, Repr

/-- The record of a draw. -/
structure Trace (R : Type) where
  /-- What was drawn from. -/
  pool : String
  roll : R
  /-- The sum of the weights. -/
  total : R
  candidates : List (Weighted R)
  chosen : Option String
deriving BEq, Repr

namespace Draw

variable {R G : Type} [Scalar R] [RandomSource G]

/-- Walks the weights with a roll: the first position at which the weights so far reach the roll,
else the last. -/
def pickByRoll : List R → R → Option Nat
  | [], _ => none
  | [_], _ => some 0
  | weight :: more, roll =>
    let left := roll - weight
    if left ≤ 0.0 then some 0 else (pickByRoll more left).map (· + 1)

/-- Draws a position by weight: the position and the roll. Nothing is drawn when the sum of the
weights is not positive. -/
def byWeight (weights : List R) (source : Counted G) : Option (Nat × R) × Counted G :=
  let total := Scalar.sum weights
  if Scalar.isNaN total ∨ total ≤ 0.0 then (none, source)
  else
    let (u, source) := source.unit R
    let roll := u * total
    ((pickByRoll weights roll).map (·, roll), source)

end Draw

namespace Trace

variable {R G : Type} [Scalar R] [RandomSource G]

/-- The record of a draw that has not taken place. -/
def ofCandidates (pool : String) (candidates : List (Weighted R)) : Trace R where
  pool := pool
  roll := 0.0
  total := Scalar.sum (candidates.map Weighted.weight)
  candidates := candidates
  chosen := none

/-- Draws one of the candidates and records the draw. -/
def draw (trace : Trace R) (source : Counted G) : Option Nat × Trace R × Counted G :=
  match Draw.byWeight (trace.candidates.map Weighted.weight) source with
  | (none, source) => (none, trace, source)
  | (some (index, roll), source) =>
    let chosen := (trace.candidates[index]?).map Weighted.id
    (some index, { trace with roll := roll, chosen := chosen }, source)

end Trace

end LifeStory
