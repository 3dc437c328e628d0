/-!
# Quantities

Stats, weights, rolls and multipliers are quantities. `Scalar` lists all that the rules of the
simulation ask of them, so that the rules can be run on double precision and studied in exact
arithmetic. No law is part of the class: of floating point numbers few hold.
-/

namespace LifeStory

/-- What the rules ask of a quantity. -/
class Scalar (R : Type) extends Add R, Sub R, Mul R, BEq R, LT R, LE R, OfScientific R where
  decLt : DecidableLT R
  decLe : DecidableLE R
  /-- A count as a quantity. -/
  ofNat : Nat → R
  /-- The fraction `n / 2 ^ 53`. -/
  ofFraction : Nat → R
  /-- The largest whole quantity that is not above. -/
  floor : R → R
  /-- The whole part of a positive finite quantity, as a count. -/
  wholePart : R → Nat
  /-- The sum of nothing, which leaves every quantity that it is added to as it is. -/
  nothing : R
  isNaN : R → Bool
  isFinite : R → Bool
  /-- The value of a text that is no number. -/
  undefined : R
  /-- The number that a text spells. -/
  ofText? : String → Option R
  /-- The quantity in running text. -/
  text : R → String

namespace Scalar

variable {R : Type} [Scalar R]

instance : DecidableLT R := Scalar.decLt

instance : DecidableLE R := Scalar.decLe

/-- The larger of two quantities, the second of equal ones; an undefined one gives way to the
other. -/
def max (a b : R) : R := if b < a ∨ isNaN b then a else b

/-- Rounds to the nearest whole quantity, a half upwards; zero for what is not finite. -/
def roundHalfUp (x : R) : R := if isFinite x then floor (x + 0.5) else 0.0

/-- The quantity as a position in a list of the given length, moved to the nearest position when it
lies outside. There is none in an empty list. -/
def toIndex? (x : R) (length : Nat) : Option Nat :=
  if length = 0 then none
  else if ¬ isFinite x ∨ x ≤ 0.0 then some 0
  else some (min (wholePart (floor x)) (length - 1))

/-- The quantity, unless it is zero or undefined. -/
def nonzero? (x : R) : Option R := if x == 0.0 ∨ isNaN x then none else some x

/-- The sum of a list, from the first to the last. -/
def sum (xs : List R) : R := xs.foldl (· + ·) nothing

end Scalar

end LifeStory
