/-!
# A total order of double precision

`totalKey` orders all numbers of double precision, as `<` does where `<` decides: minus zero comes
right before zero, and what is not a number comes first.
-/

namespace LifeStory

/-- The place of a number in the total order. -/
def totalKey (x : Float) : Int :=
  if x.isNaN then -((1 <<< 64 : Nat) : Int)
  else
    let bits := x.toBits.toNat
    if bits < 1 <<< 63 then bits else -((bits - 1 <<< 63 : Nat) : Int) - 1

end LifeStory
