import LifeStory.Decimal.Layout
import LifeStory.Decimal.Parse
import LifeStory.Scalar

/-!
# Quantities of double precision

The quantities that the program runs on.
-/

namespace LifeStory

instance : Scalar Float where
  decLt := inferInstance
  decLe := inferInstance
  ofNat n := n.toUInt64.toFloat
  ofFraction n := n.toUInt64.toFloat * 1.1102230246251565e-16
  floor := Float.floor
  wholePart x := x.toUInt64.toNat
  nothing := -0.0
  isNaN := Float.isNaN
  isFinite := Float.isFinite
  undefined := 0 / 0
  ofText? := Decimal.ofText?
  text := Decimal.plainText

end LifeStory
