import LifeStory.Json.Value
import LifeStory.Life.Variable
import LifeStory.StringMap

/-!
# Directives

What choices, status effects and talents do to a life is authored as lists of directives. A
directive that could not be understood is kept as it was written and does nothing.
-/

namespace LifeStory

/-- A change to a life. -/
inductive Directive (R : Type) where
  /-- Adds to stats; each amount is multiplied by the factor of its stat and rounded. -/
  | changeStat (deltas : StringMap R)
  /-- Multiplies the factor of a stat. -/
  | addMultiplier (stat : String) (factor : R)
  | setStat (stat : String) (value : R)
  | addItem (item : String)
  | removeItem (item : String)
  /-- Takes up a tag; with `replace`, in place of the tags that exclude it. -/
  | addTag (tag : String) (replace : Bool)
  | removeTag (tag : String)
  /-- Puts a status effect in force; without a duration, for the one that it is defined with. -/
  | addStatus (id : String) (duration : Option Int)
  | removeStatus (id : String)
  | unlockEvent (event : String)
  /-- Lets an event that has taken place count as new. -/
  | resetEvent (event : String)
  | modifyTagProbability (tag : String) (multiplier : R)
  | modifyEventWeight (event : String) (multiplier : R) (duration : Int)
  | triggerEnding (ending : String)
  | unlockAchievement (achievement : String)
  | setVariable (key : String) (value : Variable R)
  | changeVariable (key : String) (delta : R)
  /-- A directive that could not be understood. -/
  | unknown (raw : Json)

/-- The type name under which documents hold the directive. -/
def Directive.typeName? {R : Type} : Directive R → Option String
  | changeStat .. => some "change_stat"
  | addMultiplier .. => some "add_multiplier"
  | setStat .. => some "set_stat"
  | addItem .. => some "add_item"
  | removeItem .. => some "remove_item"
  | addTag .. => some "add_tag"
  | removeTag .. => some "remove_tag"
  | addStatus .. => some "add_status"
  | removeStatus .. => some "remove_status"
  | unlockEvent .. => some "unlock_event"
  | resetEvent .. => some "reset_event"
  | modifyTagProbability .. => some "modify_tag_probability"
  | modifyEventWeight .. => some "modify_event_weight"
  | triggerEnding .. => some "trigger_ending"
  | unlockAchievement .. => some "unlock_achievement"
  | setVariable .. => some "set_variable"
  | changeVariable .. => some "change_variable"
  | unknown .. => none

end LifeStory
