import LifeStory.Decimal.Shortest

/-!
# Reading numbers

`ofText?` reads a number that an author wrote in running text, correctly rounded: a sign, digits
with at most one point, an exponent; or one of the words for infinity and not-a-number, in any case
of letters. Blanks, other signs and other digits are refused.

`ofScaled` is the rule for numbers in documents: the leading digits that fit a machine word are
taken as a whole number, and this number is multiplied or divided by one power of ten. Long
decimals may come out one unit in the last place away from the nearest number.
-/

namespace LifeStory.Decimal

/-- The value of a decimal digit. -/
def digitValue (c : Char) : Nat := c.toNat - '0'.toNat

/-- The number with the given decimal digits. -/
def ofDigits (digits : List Char) : Nat := digits.foldl (fun n c ↦ n * 10 + digitValue c) 0

/-- An unsigned decimal numeral, cut at its point and its exponent mark. -/
structure Numeral where
  whole : List Char
  fraction : List Char
  /-- The power of ten after the exponent mark; zero without one. -/
  power : Int
deriving DecidableEq, Repr

/-- A signed run of digits that is the whole of the text. -/
def power? (cs : List Char) : Option Int :=
  let (negative, digits) :=
    match cs with
    | '-' :: rest => (true, rest)
    | '+' :: rest => (false, rest)
    | rest => (false, rest)
  if digits = [] ∨ ¬ digits.all Char.isDigit then none
  else some (if negative then -(ofDigits digits : Int) else ofDigits digits)

/-- Cuts a numeral at its point and its exponent mark; digits may be missing on one side of the
point. -/
def Numeral.ofChars? (cs : List Char) : Option Numeral :=
  let whole := cs.takeWhile Char.isDigit
  let (fraction, rest) :=
    match cs.dropWhile Char.isDigit with
    | '.' :: rest => (rest.takeWhile Char.isDigit, rest.dropWhile Char.isDigit)
    | rest => ([], rest)
  if whole = [] ∧ fraction = [] then none
  else
    match rest with
    | [] => some ⟨whole, fraction, 0⟩
    | c :: rest => if c = 'e' ∨ c = 'E' then (power? rest).map (⟨whole, fraction, ·⟩) else none

/-- The number of double precision nearest to `mantissa · 10 ^ power`. -/
def nearest (mantissa : Nat) (power : Int) : Float :=
  let magnitude := (natDigits mantissa).length + power
  if mantissa = 0 ∨ magnitude < -400 then 0
  else if 400 < magnitude then 1 / 0
  else Float.ofScientific mantissa (power < 0) power.natAbs

/-- The value of a numeral, correctly rounded. -/
def Numeral.toFloat (n : Numeral) : Float :=
  nearest (ofDigits (n.whole ++ n.fraction)) (n.power - n.fraction.length)

/-- A word with its ASCII letters in lower case. -/
def lowerWord (cs : List Char) : String := String.ofList (cs.map Char.toLower)

/-- Reads a number of running text. -/
def ofText? (s : String) : Option Float :=
  let (negative, unsigned) :=
    match s.toList with
    | '-' :: rest => (true, rest)
    | '+' :: rest => (false, rest)
    | rest => (false, rest)
  let magnitude : Option Float :=
    match lowerWord unsigned with
    | "nan" => some (0 / 0)
    | "inf" | "infinity" => some (1 / 0)
    | _ => (Numeral.ofChars? unsigned).map Numeral.toFloat
  magnitude.map fun x ↦ if negative then -x else x

/-! ### Numbers in documents -/

/-- The largest whole number that a machine word holds. -/
def maxWord : Nat := 1 <<< 64 - 1

/-- The leading digits that fit a machine word, and a power of ten that stands for the others. -/
structure Scaled where
  leading : Nat
  power : Int
deriving DecidableEq, Repr

/-- Takes in one more digit before the point. Once a digit does not fit, this one and all further
ones only raise the power. -/
def Scaled.takeWhole : Scaled → List Char → Scaled
  | s, [] => s
  | s, c :: cs =>
    let next := s.leading * 10 + digitValue c
    if maxWord < next then ⟨s.leading, s.power + (cs.length + 1)⟩
    else Scaled.takeWhole ⟨next, s.power⟩ cs

/-- Takes in the digits after the point as far as they fit; the others are dropped. -/
def Scaled.takeFraction : Scaled → List Char → Scaled
  | s, [] => s
  | s, c :: cs =>
    let next := s.leading * 10 + digitValue c
    if maxWord < next then s else Scaled.takeFraction ⟨next, s.power - 1⟩ cs

/-- The power of ten, nearest number of double precision. -/
def powerOfTen (n : Nat) : Float := Float.ofScientific 1 false n

/-- Divides by `10 ^ n`, by at most `10 ^ 308` at a time. -/
def divPowerOfTen (x : Float) (n : Nat) : Float :=
  if n ≤ 308 then x / powerOfTen n
  else if x == 0 then x
  else divPowerOfTen (x / powerOfTen 308) (n - 308)
termination_by n

/-- The value of a numeral of a document, by one multiplication or division; none when it is
beyond the range of double precision. -/
def ofScaled (n : Numeral) : Option Float :=
  let s := ((Scaled.mk 0 0).takeWhole n.whole).takeFraction n.fraction
  let power := s.power + n.power
  let x := s.leading.toUInt64.toFloat
  if 0 ≤ power then
    if 308 < power then if x == 0 then some x else none
    else
      let y := x * powerOfTen power.toNat
      if y.isInf then none else some y
  else some (divPowerOfTen x (-power).toNat)

end LifeStory.Decimal
