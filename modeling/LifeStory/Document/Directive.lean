import LifeStory.Directive
import LifeStory.Document.Condition
import LifeStory.Document.Life

/-!
# Directives in documents

A directive is an object with a type and parameters, like a condition. Whatever is none of the
known forms is a directive that could not be understood, which is written as it was read.
-/

namespace LifeStory.Directive

open Json

/-- Reads the one parameter of a directive, which may be known under several names. -/
def singleField (names : List String) (make : String → Directive Float) :
    Fields (Directive Float) := do
  let value ← .read names string? none none
  return make value

/-- Reads the parameters of a directive that gives something a number. -/
def numberFields (key number : String) (make : String → Float → Directive Float) :
    Fields (Directive Float) := do
  let key ← .required key string?
  let value ← .required number float?
  return make key value

/-- The names under which a status effect is given. -/
def statusNames : List String := ["id", "effectId", "statusId"]

/-- Reads the parameters of the directive that takes up a tag. -/
def addTagFields : Fields (Directive Float) := do
  let tag ← .required "tag" string?
  let replace ← .defaulted ["replace"] bool? false
  return .addTag tag replace

/-- Reads the parameters of the directive that puts a status effect in force. -/
def addStatusFields : Fields (Directive Float) := do
  let id ← .read statusNames string? none none
  let duration ← .maybe "duration" int32?
  return .addStatus id duration

/-- Reads the parameters of the directive that modifies the weight of an event. -/
def eventWeightFields : Fields (Directive Float) := do
  let event ← .required "eventId" string?
  let multiplier ← .required "multiplier" float?
  let duration ← .required "duration" int32?
  return .modifyEventWeight event multiplier duration

/-- Reads the parameters of the directive that gives a variable a value. -/
def setVariableFields : Fields (Directive Float) := do
  let key ← .required "key" string?
  let value ← .required "value" Variable.ofJson?
  return .setVariable key value

/-- Reads the parameters of the type of directive with a name. -/
def reader? (type : String) : Option (Json → Option (Directive Float)) :=
  match type with
  | "change_stat" => some fun params ↦ (stringMap? float? params).map .changeStat
  | "add_multiplier" => some (record? (numberFields "stat" "value" .addMultiplier))
  | "set_stat" => some (record? (numberFields "stat" "value" .setStat))
  | "add_item" => some (record? (singleField ["itemId"] .addItem))
  | "remove_item" => some (record? (singleField ["itemId"] .removeItem))
  | "add_tag" => some (record? addTagFields)
  | "remove_tag" => some (record? (singleField ["tag"] .removeTag))
  | "add_status" => some (record? addStatusFields)
  | "remove_status" => some (record? (singleField statusNames .removeStatus))
  | "unlock_event" | "unlocksEvent" => some (record? (singleField ["eventId"] .unlockEvent))
  | "reset_event" => some (record? (singleField ["eventId"] .resetEvent))
  | "modify_tag_probability" =>
    some (record? (numberFields "tag" "multiplier" .modifyTagProbability))
  | "modify_event_weight" => some (record? eventWeightFields)
  | "trigger_ending" => some (record? (singleField ["endingId"] .triggerEnding))
  | "unlock_achievement" => some (record? (singleField ["achievementId"] .unlockAchievement))
  | "set_variable" => some (record? setVariableFields)
  | "change_variable" => some (record? (numberFields "key" "delta" .changeVariable))
  | _ => none

/-- The directive that a value in key order stands for. -/
def ofValue (j : Json) : Directive Float :=
  let known := j.typed?.bind fun (type, params) ↦ (reader? type).bind fun read ↦ read params
  known.getD (.unknown j)

/-- The directive in a document. -/
def ofJson? (j : Json) : Option (Directive Float) := j.value?.map ofValue

/-- The parameters of a directive, in key order. -/
def params : Directive Float → Json
  | changeStat deltas => ofStringMap ofFloat deltas
  | addMultiplier stat value | setStat stat value =>
    .object [("stat", .string stat), ("value", ofFloat value)]
  | addItem item | removeItem item => .object [("itemId", .string item)]
  | addTag tag replace =>
    .object ((if replace then [("replace", .bool true)] else []) ++ [("tag", .string tag)])
  | removeTag tag => .object [("tag", .string tag)]
  | addStatus id duration =>
    .object (fieldIfSome "duration" .int duration ++ [("id", .string id)])
  | removeStatus id => .object [("id", .string id)]
  | unlockEvent event | resetEvent event => .object [("eventId", .string event)]
  | modifyTagProbability tag multiplier =>
    .object [("multiplier", ofFloat multiplier), ("tag", .string tag)]
  | modifyEventWeight event multiplier duration =>
    .object [("duration", .int duration), ("eventId", .string event),
      ("multiplier", ofFloat multiplier)]
  | triggerEnding ending => .object [("endingId", .string ending)]
  | unlockAchievement achievement => .object [("achievementId", .string achievement)]
  | setVariable key value => .object [("key", .string key), ("value", value.toJson)]
  | changeVariable key delta => .object [("delta", ofFloat delta), ("key", .string key)]
  | unknown raw => raw

/-- A directive as a value in key order. -/
def toJson (directive : Directive Float) : Json :=
  match directive.typeName? with
  | some type => ofTyped type directive.params
  | none => directive.params

end LifeStory.Directive
