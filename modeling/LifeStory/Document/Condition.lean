import LifeStory.Condition
import LifeStory.Json.Record
import LifeStory.Scalar.Float

/-!
# Conditions in documents

A condition is an object with a type and parameters. Whatever is none of the known forms is a
condition that could not be understood, which is written as it was read. So every value without an
unreadable leaf is a condition (`Condition.ofValue`); it is brought to key order first.
-/

namespace LifeStory

open Json

/-- The type and the parameters of a directive or a condition. -/
def Json.typed? (j : Json) : Option (String × Json) :=
  match (j.get? "type").bind string?, j.get? "params" with
  | some _, some .null => none
  | some type, some params => some (type, params)
  | _, _ => none

/-- An object with a type and parameters. -/
def Json.ofTyped (type : String) (params : Json) : Json :=
  .object [("params", params), ("type", .string type)]

/-- A value in key order, if no leaf of it is unreadable. -/
def Json.value? (j : Json) : Option Json := if j.isReadable then some j.canonical else none

namespace Condition

/-- The symbol of a comparison. -/
def comparison? (j : Json) : Option Comparison := (string? j).map Comparison.ofSymbol

/-- Reads a condition on what is there, with the names of the two questions. -/
def presenceFields (has hasNot : String) : Fields Presence := do
  return {
    has := ← .maybe has string?
    hasNot := ← .maybe hasNot string? }

/-- Reads the parameters of the condition on a stat. -/
def statFields : Fields (Condition Float) := do
  let name ← .required "stat" string?
  let op ← .maybe "operator" comparison?
  let value ← .maybe "value" float?
  return .stat name op value

/-- Reads the parameters of the condition on a variable. -/
def carriedFields : Fields (Condition Float) := do
  let key ← .maybe "key" string?
  let op ← .maybe "operator" comparison?
  let value ← .maybe "value" float?
  let present ← .maybe "exists" bool?
  return .carried key op value present

/-- Reads the one parameter of a condition. -/
def singleField (name : String) (make : String → Condition Float) : Fields (Condition Float) := do
  let value ← .required name string?
  return make value

/-- Reads the parameters of a condition on what is there. -/
def presence (make : Presence → Condition Float) : Fields (Condition Float) :=
  make <$> presenceFields "has" "has_not"

/-- Reads the parameters of the type of condition with a name. -/
def fields? (type : String) : Option (Fields (Condition Float)) :=
  match type with
  | "stat_check" => some statFields
  | "worldview_check" => some (singleField "dominant" .worldview)
  | "status_check" => some (presence .status)
  | "event_check" => some (.event <$> presenceFields "has_triggered" "has_not_triggered")
  | "inventory_check" => some (presence .inventory)
  | "made_choice_check" => some (singleField "choiceId" .madeChoice)
  | "talent_check" => some (presence .talent)
  | "tag_check" => some (presence .tag)
  | "variable_check" => some carriedFields
  | "ending_check" | "ending_id" => some (singleField "is" .ending)
  | _ => none

/-- The condition that a value in key order stands for. -/
def ofValue (j : Json) : Condition Float :=
  let known := j.typed?.bind fun (type, params) ↦ (fields? type).bind fun fields ↦
    record? fields params
  known.getD (.unknown j)

/-- The condition in a document. -/
def ofJson? (j : Json) : Option (Condition Float) := j.value?.map ofValue

/-- The parameters of a condition on what is there, in key order. -/
def presenceParams (has hasNot : String) (p : Presence) : Json :=
  .object (fieldIfSome has .string p.has ++ fieldIfSome hasNot .string p.hasNot)

/-- The symbol of a comparison, if there is one. -/
def comparisonField (op : Option Comparison) : List (String × Json) :=
  fieldIfSome "operator" (fun c ↦ .string (Comparison.symbol c)) op

/-- The parameters of a condition, in key order. -/
def params : Condition Float → Json
  | stat name op value =>
    .object (comparisonField op ++ [("stat", .string name)] ++ fieldIfSome "value" ofFloat value)
  | worldview dominant => .object [("dominant", .string dominant)]
  | event check => .object (fieldIfSome "has_not_triggered" .string check.hasNot
      ++ fieldIfSome "has_triggered" .string check.has)
  | status check | inventory check | talent check | tag check =>
    presenceParams "has" "has_not" check
  | madeChoice choice => .object [("choiceId", .string choice)]
  | carried key op value present =>
    .object (fieldIfSome "exists" .bool present ++ fieldIfSome "key" .string key
      ++ comparisonField op ++ fieldIfSome "value" ofFloat value)
  | ending reason => .object [("is", .string reason)]
  | unknown raw => raw

/-- A condition as a value in key order. -/
def toJson (condition : Condition Float) : Json :=
  match condition.typeName? with
  | some type => ofTyped type condition.params
  | none => condition.params

end Condition

end LifeStory
