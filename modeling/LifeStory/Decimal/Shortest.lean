import LifeStory.Decimal.Binary

/-!
# The fewest digits that read back

A decimal with `k` digits reads back as a given binary number when it lies between the half-way
points to the number's neighbours, the ends included for an even mantissa. `Binary.shortest` tries
`k = 1, 2, …, 17`: the first grid on which one of the two neighbours of the number reads back
decides, and of two hits the nearer is taken, an exact tie going to the even digit.
-/

namespace LifeStory.Decimal

/-- Decimal digits `digits · 10 ^ exponent`, the number of the digits given by their text. -/
structure Digits where
  /-- The digits, the most significant first; no zero stands at the end. -/
  digits : List Char
  /-- How many of the digits stand before the point; it may lie outside of them. -/
  point : Int
deriving DecidableEq, Repr

/-- The floor of the decimal logarithm of `mantissa · 2 ^ exponent`, for a positive mantissa. -/
def Binary.magnitude (x : Binary) : Int :=
  let estimate := (((Nat.log2 x.mantissa : Int) + x.exponent) * 30103).fdiv 100000
  let (num, den) := Binary.scale x.exponent (estimate + 1)
  if den ≤ x.mantissa * num then estimate + 1 else estimate

/-- The decimal on the grid `10 ^ grid` that reads back as the number, if one of the two grid
points around it does. -/
def Binary.nearestOn (x : Binary) (grid : Int) : Option Nat :=
  let (num, den) := Binary.scale (x.exponent - 2) grid
  let value := 4 * x.mantissa * num
  let low := (4 * x.mantissa - (if x.narrowBelow then 1 else 2)) * num
  let high := (4 * x.mantissa + 2) * num
  let even := x.mantissa % 2 = 0
  let readsBack (n : Nat) : Bool :=
    decide (low < n * den ∧ n * den < high) || (decide even && (n * den == low || n * den == high))
  let below := value / den
  let above := below + 1
  match readsBack below, readsBack above with
  | true, true =>
    let down := value - below * den
    let up := above * den - value
    if down < up ∨ (down = up ∧ below % 2 = 0) then some below else some above
  | true, false => some below
  | false, true => some above
  | false, false => none

/-- Takes the zeros off the end of a digit list. -/
def dropZerosEnd (digits : List Char) : List Char :=
  (digits.reverse.dropWhile (· = '0')).reverse

/-- The decimal digits of a natural number. -/
def natDigits (n : Nat) : List Char := Nat.toDigits 10 n

/-- The fewest digits that read back as the number, for a positive mantissa. -/
def Binary.shortest (x : Binary) : Digits :=
  let top := x.magnitude + 1
  let found := (List.range 17).findSome? fun (k : Nat) ↦
    let grid : Int := top - ((k : Int) + 1)
    (x.nearestOn grid).map fun n ↦ (natDigits n, grid)
  match found with
  | some (digits, grid) => ⟨dropZerosEnd digits, digits.length + grid⟩
  | none => ⟨[], 0⟩

end LifeStory.Decimal
