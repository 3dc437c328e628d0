import LifeStory.Scalar
import LifeStory.Text.Blank

/-!
# Variables

A life carries variables that its stories set and read: a truth value, a number or a text.
-/

namespace LifeStory

/-- The value of a variable. -/
inductive Variable (R : Type) where
  | flag (value : Bool)
  | number (value : R)
  | text (value : String)
deriving BEq, Repr

namespace Variable

variable {R : Type} [Scalar R]

/-- The value as a number. True counts one and false nothing; a text counts what it spells, a blank
text nothing, and any other text is undefined. -/
def toNumber : Variable R → R
  | flag value => if value then 1.0 else 0.0
  | number value => value
  | text value =>
    let trimmed := Text.trim value
    if trimmed = "" then 0.0 else (Scalar.ofText? trimmed).getD Scalar.undefined

/-- Whether the value counts as true: a number other than zero, a text that is not empty. -/
def isTruthy : Variable R → Bool
  | flag value => value
  | number value => (Scalar.nonzero? value).isSome
  | text value => value ≠ ""

/-- The value in running text. -/
def display : Variable R → String
  | flag value => if value then "true" else "false"
  | number value => Scalar.text value
  | text value => value

end Variable

end LifeStory
