import LifeStory.Json.Value
import LifeStory.Life.Basic

/-!
# Conditions

Authors guard events, choices and achievements with conditions on the life so far. A condition that
could not be understood is kept as it was written and always holds.
-/

namespace LifeStory

/-! ### Comparisons -/

/-- How two numbers are compared. -/
inductive Comparison where
  | ge
  | le
  | eq
  | gt
  | lt
  | ne
  /-- A symbol that stands for no comparison. -/
  | unsupported (symbol : String)
deriving DecidableEq, Repr

namespace Comparison

/-- The comparison that a symbol stands for; equality may be written with one more sign. -/
def ofSymbol (s : String) : Comparison :=
  match Text.trim s with
  | ">=" => ge
  | "<=" => le
  | "==" | "===" => eq
  | ">" => gt
  | "<" => lt
  | "!=" | "!==" => ne
  | other => unsupported other

/-- The symbol of a comparison. -/
def symbol : Comparison → String
  | ge => ">="
  | le => "<="
  | eq => "=="
  | gt => ">"
  | lt => "<"
  | ne => "!="
  | unsupported s => s

/-- The outcome of a comparison, if its symbol stands for one. -/
def compare? {R : Type} [Scalar R] (op : Comparison) (left right : R) : Option Bool :=
  match op with
  | ge => some (decide (right ≤ left))
  | le => some (decide (left ≤ right))
  | eq => some (left == right)
  | gt => some (decide (right < left))
  | lt => some (decide (left < right))
  | ne => some (left != right)
  | unsupported _ => none

/-- Whether the symbol stands for a comparison. -/
def isSupported : Comparison → Bool
  | unsupported _ => false
  | _ => true

end Comparison

/-! ### Conditions -/

/-- Asks whether something is there, or whether it is not. -/
structure Presence where
  has : Option String
  hasNot : Option String
deriving DecidableEq, Repr

/-- An id that is not empty. -/
def givenId? (id : Option String) : Option String := id.filter (· ≠ "")

/-- Whether the answer is yes. Being there is asked first; an empty id is not given; with none given
the answer is no. -/
def Presence.test (p : Presence) (holds : String → Bool) : Bool :=
  match givenId? p.has, givenId? p.hasNot with
  | some id, _ => holds id
  | none, some id => !holds id
  | none, none => false

/-- A condition on a life. -/
inductive Condition (R : Type) where
  | stat (name : String) (op : Option Comparison) (value : Option R)
  | worldview (dominant : String)
  | status (check : Presence)
  | event (check : Presence)
  | inventory (check : Presence)
  | madeChoice (choice : String)
  | talent (check : Presence)
  | tag (check : Presence)
  /-- Asks about a variable that the life carries. -/
  | carried (key : Option String) (op : Option Comparison) (value : Option R)
      (present : Option Bool)
  | ending (reason : String)
  /-- A condition that could not be understood. -/
  | unknown (raw : Json)

namespace Condition

variable {R : Type}

/-- The type name under which documents hold the condition. -/
def typeName? : Condition R → Option String
  | stat .. => some "stat_check"
  | worldview .. => some "worldview_check"
  | status .. => some "status_check"
  | event .. => some "event_check"
  | inventory .. => some "inventory_check"
  | madeChoice .. => some "made_choice_check"
  | talent .. => some "talent_check"
  | tag .. => some "tag_check"
  | carried .. => some "variable_check"
  | ending .. => some "ending_check"
  | unknown .. => none

variable [Scalar R]

/-- Whether a comparison was given, is supported and holds. -/
def compareHolds (op : Option Comparison) (left : R) (right : Option R) : Bool :=
  match op, right with
  | some op, some right => (op.compare? left right).getD false
  | _, _ => false

/-- Whether a condition on a variable holds. Without a supported comparison the variable has to be
true; a variable that is not there satisfies nothing but the question whether it is absent. -/
def carriedHolds (life : Life R) (key : Option String) (op : Option Comparison)
    (value : Option R) (present : Option Bool) : Bool :=
  match givenId? key with
  | none => false
  | some key =>
    match life.vars.get? key with
    | none => present == some false
    | some v =>
      match op.filter Comparison.isSupported with
      | some op => compareHolds (some op) v.toNumber value
      | none => v.isTruthy

/-- Whether a condition holds. -/
def holds (life : Life R) : Condition R → Bool
  | stat name op value =>
    match life.stat? name with
    | some current => compareHolds op current value
    | none => false
  | worldview dominant => life.dominantView.name = dominant
  | status check => check.test life.hasStatus
  | event check => check.test life.triggered.contains
  | inventory check => check.test life.hasItem
  | madeChoice choice => life.chosen.contains choice
  | talent check => check.test life.hasTalent
  | tag check => check.test life.hasTag
  | carried key op value present => carriedHolds life key op value present
  | ending reason => life.endReason = some reason
  | unknown _ => true

end Condition

/-- Whether all conditions of a list hold. -/
def allHold {R : Type} [Scalar R] (life : Life R) (conditions : List (Condition R)) : Bool :=
  conditions.all (Condition.holds life)

end LifeStory
