import LifeStory.Decimal.Shortest

/-!
# How numbers are written

Three forms are in use. In documents a number has the fewest digits that read back, a point in
every case, and an exponent outside of `10 ^ -5 ≤ |x| < 10 ^ 16` (`documentText`). In running text
it has the same digits, never an exponent, and no point when it is whole (`plainText`). In reports
it is rounded to a fixed number of places, a half going to the even neighbour (`fixedText`).
-/

namespace LifeStory.Decimal

/-- The sign of a number that has its sign bit set. -/
def signText (negative : Bool) : String := if negative then "-" else ""

/-- What is written for the numbers that are not finite. -/
def specialText : Reading → String
  | .infinite negative => signText negative ++ "inf"
  | _ => "NaN"

/-- A run of zeros. -/
def zeros (n : Nat) : List Char := List.replicate n '0'

/-- The digits before the point and those after it, without an exponent. -/
def Digits.positional (d : Digits) : List Char × List Char :=
  if d.point ≤ 0 then (['0'], zeros (-d.point).toNat ++ d.digits)
  else
    let whole := d.point.toNat
    if d.digits.length ≤ whole then (d.digits ++ zeros (whole - d.digits.length), [])
    else (d.digits.take whole, d.digits.drop whole)

/-- One digit before the point, and a signed power of ten. -/
def Digits.exponential (d : Digits) : String :=
  let power := d.point - 1
  let fraction := d.digits.drop 1
  let mark := if power < 0 then "e-" else "e+"
  String.ofList (d.digits.take 1) ++ (if fraction = [] then "" else "." ++ String.ofList fraction)
    ++ mark ++ toString power.natAbs

/-- A finite number as documents hold it. -/
def documentText (x : Binary) : String :=
  signText x.negative ++
    if x.mantissa = 0 then "0.0"
    else
      let d := x.shortest
      if -5 < d.point ∧ d.point ≤ 16 then
        let (whole, fraction) := d.positional
        String.ofList whole ++ "." ++ (if fraction = [] then "0" else String.ofList fraction)
      else d.exponential

/-- A number as running text holds it. -/
def plainText (x : Float) : String :=
  match Reading.ofFloat x with
  | .finite b =>
    signText b.negative ++
      if b.mantissa = 0 then "0"
      else
        let (whole, fraction) := b.shortest.positional
        String.ofList whole ++ (if fraction = [] then "" else "." ++ String.ofList fraction)
  | special => specialText special

/-- The quotient rounded to the nearest whole number, a half to the even one. -/
def roundDiv (num den : Nat) : Nat :=
  let q := num / den
  let r := num % den
  if 2 * r < den ∨ (2 * r = den ∧ q % 2 = 0) then q else q + 1

/-- A number with the given number of places after the point. -/
def fixedText (places : Nat) (x : Float) : String :=
  match Reading.ofFloat x with
  | .finite b =>
    let (num, den) := Binary.scale b.exponent (-(places : Int))
    let digits := natDigits (roundDiv (b.mantissa * num) den)
    let padded := zeros (places + 1 - digits.length) ++ digits
    let whole := padded.take (padded.length - places)
    let fraction := padded.drop (padded.length - places)
    signText b.negative ++ String.ofList whole
      ++ (if fraction = [] then "" else "." ++ String.ofList fraction)
  | special => specialText special

end LifeStory.Decimal
