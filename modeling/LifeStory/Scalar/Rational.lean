import LifeStory.Decimal.Parse
import LifeStory.Scalar
import Mathlib.Algebra.Order.Ring.Rat

/-!
# Quantities in exact arithmetic

Rational numbers as quantities: nothing is rounded, and every quantity is a finite number. A numeral
has the value that it spells, and there is none for the words of infinity and of what is not a
number.
-/

namespace LifeStory

namespace Decimal

/-- The value of a numeral. -/
def Numeral.toRat (n : Numeral) : ℚ :=
  ofDigits (n.whole ++ n.fraction) * 10 ^ (n.power - n.fraction.length)

/-- Reads a number of running text. -/
def ratOfText? (s : String) : Option ℚ :=
  match s.toList with
  | '-' :: unsigned => (Numeral.ofChars? unsigned).map fun n ↦ -n.toRat
  | '+' :: unsigned => (Numeral.ofChars? unsigned).map Numeral.toRat
  | unsigned => (Numeral.ofChars? unsigned).map Numeral.toRat

end Decimal

instance : Scalar ℚ where
  decLt := inferInstance
  decLe := inferInstance
  ofNat n := n
  ofFraction n := n / 2 ^ 53
  floor x := x.floor
  wholePart x := x.floor.toNat
  nothing := 0
  isNaN _ := false
  isFinite _ := true
  undefined := 0
  ofText? := Decimal.ratOfText?
  text := toString

/-- The decimal zero is the zero of the rationals. -/
theorem Scalar.zero_eq_zero : (0.0 : ℚ) = 0 := by decide +kernel

end LifeStory
