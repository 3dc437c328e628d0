import LifeStory.Config
import LifeStory.Json.Reader
import LifeStory.Json.Record
import LifeStory.Scalar.Float

/-!
# Settings in documents

Every setting may be missing and has a value of its own then. Settings that a document gives are
checked; the message of a refusal gives the first setting that is out of bounds.
-/

namespace LifeStory

open Json

/-- Reads a number that may be missing. -/
def Json.number (name : String) (value : Float) : Fields Float := .defaulted [name] float? value

/-- Reads thresholds. -/
def Thresholds.fields : Fields (Thresholds Float) := do
  let start : Thresholds Float := Config.defaultThresholds
  return {
    debtFloor := ← number "debt_floor" start.debtFloor
    fameCeiling := ← number "fame_ceiling" start.fameCeiling
    maxAge := ← number "max_age" start.maxAge }

/-- Thresholds. -/
def Thresholds.toJson (t : Thresholds Float) : Json :=
  .object [("debt_floor", ofFloat t.debtFloor), ("fame_ceiling", ofFloat t.fameCeiling),
    ("max_age", ofFloat t.maxAge)]

/-- Reads the course of ageing. -/
def Aging.fields : Fields (Aging Float) := do
  let start : Aging Float := Config.defaultAging
  return {
    agePerTurn := ← number "age_per_turn" start.agePerTurn
    healthDecayAge := ← number "health_decay_age" start.healthDecayAge
    healthDecay := ← number "health_decay" start.healthDecay
    sanityDecayAge := ← number "sanity_decay_age" start.sanityDecayAge
    sanityDecay := ← number "sanity_decay" start.sanityDecay }

/-- The course of ageing. -/
def Aging.toJson (a : Aging Float) : Json :=
  .object [("age_per_turn", ofFloat a.agePerTurn), ("health_decay_age", ofFloat a.healthDecayAge),
    ("health_decay", ofFloat a.healthDecay), ("sanity_decay_age", ofFloat a.sanityDecayAge),
    ("sanity_decay", ofFloat a.sanityDecay)]

namespace Config

/-- Reads settings. -/
def fields : Fields (Config Float) := do
  let start : Config Float := .default
  return {
    showTestEvents := ← .defaulted ["show_test_events"] bool? false
    logCapacity := ← .defaulted ["log_capacity"] nat64? start.logCapacity
    manualChoiceCount := ← .defaulted ["manual_choice_count"] nat64? start.manualChoiceCount
    specialChoiceChance := ← number "special_choice_chance" start.specialChoiceChance
    choiceChaos := ← number "choice_chaos" start.choiceChaos
    thresholds := ← .defaulted ["thresholds"] (record? Thresholds.fields) start.thresholds
    aging := ← .defaulted ["aging"] (record? Aging.fields) start.aging }

/-- The settings in a document, without a check. -/
def ofJson? : Json → Option (Config Float) := record? fields

/-- Settings. -/
def toJson (c : Config Float) : Json :=
  .object [("show_test_events", .bool c.showTestEvents), ("log_capacity", ofNat c.logCapacity),
    ("manual_choice_count", ofNat c.manualChoiceCount),
    ("special_choice_chance", ofFloat c.specialChoiceChance),
    ("choice_chaos", ofFloat c.choiceChaos), ("thresholds", c.thresholds.toJson),
    ("aging", c.aging.toJson)]

/-- A setting in the message of a refusal, with two places. -/
def amount (x : Float) : String := Decimal.fixedText 2 x

/-- What is wrong with a setting. -/
def Violation.message : Violation Float → String
  | .zeroLogCapacity => "log_capacity must be at least 1"
  | .belowLeast field least value =>
    field ++ " must be at least " ++ amount least ++ " (got " ++ amount value ++ ")"
  | .outsideRange field least greatest value =>
    field ++ " must be between " ++ amount least ++ " and " ++ amount greatest
      ++ " (got " ++ amount value ++ ")"

/-- Why the text of a document gives no settings. -/
inductive Refusal where
  /-- The text is no document of settings. -/
  | malformed
  | violation (v : Violation Float)

/-- What the author of the document is told. -/
def Refusal.message : Refusal → String
  | malformed => "invalid engine config"
  | violation v => v.message

/-- The settings that the text of a document gives. -/
def ofText (text : String) : Except Refusal (Config Float) :=
  match (Json.parse? text).bind ofJson? with
  | none => .error .malformed
  | some config =>
    match config.violation? with
    | some v => .error (.violation v)
    | none => .ok config

end Config

end LifeStory
