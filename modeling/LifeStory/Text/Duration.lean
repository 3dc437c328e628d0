import LifeStory.Decimal.Shortest

/-!
# Durations in text

A duration is a count of nanoseconds. It is written in the largest unit that it reaches, with as
many places as it needs.
-/

namespace LifeStory.Text

/-- A whole number of units and the parts of a unit that are left, which are given by their count
of digits. Zeros at the end are not written. -/
def withPlaces (whole rest digits : Nat) : String :=
  let written := Decimal.natDigits rest
  let places := List.replicate (digits - written.length) '0' ++ written
  let kept := (places.reverse.dropWhile (· = '0')).reverse
  toString whole ++ (if kept = [] then "" else "." ++ String.ofList kept)

/-- A duration in seconds, milliseconds, microseconds or nanoseconds. -/
def duration (nanoseconds : Nat) : String :=
  if 1000000000 ≤ nanoseconds then
    withPlaces (nanoseconds / 1000000000) (nanoseconds % 1000000000) 9 ++ "s"
  else if 1000000 ≤ nanoseconds then
    withPlaces (nanoseconds / 1000000) (nanoseconds % 1000000) 6 ++ "ms"
  else if 1000 ≤ nanoseconds then
    withPlaces (nanoseconds / 1000) (nanoseconds % 1000) 3 ++ "µs"
  else toString nanoseconds ++ "ns"

end LifeStory.Text
