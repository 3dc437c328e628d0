/-!
# Binary floating point numbers as exact fractions

A finite number of double precision is `mantissa · 2 ^ exponent` with a sign. Everything that is
written about it is computed from this triple in exact natural arithmetic.
-/

namespace LifeStory.Decimal

/-- A finite number of double precision, `± mantissa · 2 ^ exponent`. -/
structure Binary where
  /-- Whether the sign bit is set; zero has one too. -/
  negative : Bool
  mantissa : Nat
  exponent : Int
  /-- Whether the number below is half as far away as the one above: the mantissa is a power of
  two, and the number is not among the smallest. -/
  narrowBelow : Bool
deriving DecidableEq, Repr

/-- What a number of double precision is. -/
inductive Reading where
  | finite (value : Binary)
  | infinite (negative : Bool)
  | notANumber
deriving DecidableEq, Repr

/-- Reads the three fields of the binary format: sign, biased exponent, fraction. -/
def Reading.ofFloat (x : Float) : Reading :=
  let bits := x.toBits
  let negative := bits >>> 63 == 1
  let biased := ((bits >>> 52) &&& 0x7FF).toNat
  let fraction := (bits &&& 0xFFFFFFFFFFFFF).toNat
  if biased = 0x7FF then
    if fraction = 0 then .infinite negative else .notANumber
  else if biased = 0 then .finite ⟨negative, fraction, -1074, false⟩
  else .finite ⟨negative, 1 <<< 52 + fraction, biased - 1075, fraction = 0 ∧ 1 < biased⟩

/-- The number as a fraction of a unit of the decimal grid `10 ^ grid`, that is
`mantissa · num / den` with the numerator and the denominator that are given back. -/
def Binary.scale (exponent grid : Int) : Nat × Nat :=
  (Nat.pow 2 exponent.toNat * Nat.pow 10 (-grid).toNat,
    Nat.pow 2 (-exponent).toNat * Nat.pow 10 grid.toNat)

end LifeStory.Decimal
