import LifeStory.Json.Record
import LifeStory.Trial.Result

/-!
# Results in documents

The form of a result in documents. Durations are written in whole milliseconds.
-/

namespace LifeStory.Trial.Result

open LifeStory.Json

/-- How many nanoseconds a millisecond has. -/
def nanosecondsPerMillisecond : Nat := 1000000

/-- A duration of whole milliseconds. -/
def milliseconds? (j : Json) : Option Nat := (nat64? j).map (· * nanosecondsPerMillisecond)

/-- A duration without the part of a millisecond that is left. -/
def ofDuration (nanoseconds : Nat) : Json := .int (nanoseconds / nanosecondsPerMillisecond)

/-- Reads a result. -/
def fields : Fields Result := do
  return {
    scenario := ← .required "scenario_name" string?
    seed := ← .required "seed" nat64?
    passed := ← .required "passed" bool?
    attempts := ← .required "iterations_run" nat64?
    successes := ← .required "successful_iterations" nat64?
    failures := ← .required "failures" (list? string?)
    meanTurns := ← .required "average_turns" float?
    meanDuration := ← .required "average_duration" milliseconds?
    durations := ← .required "performance_data" (list? milliseconds?) }

/-- The result in a document. -/
def ofJson? : Json → Option Result := record? fields

/-- A result without its durations. -/
def untimedFields (result : Result) : List (String × Json) :=
  [("scenario_name", .string result.scenario), ("seed", .int result.seed),
    ("passed", .bool result.passed), ("iterations_run", .int result.attempts),
    ("successful_iterations", .int result.successes), ("failures", ofStrings result.failures),
    ("average_turns", .real result.meanTurns)]

/-- A result. -/
def toJson (result : Result) : Json :=
  .object (result.untimedFields ++ [("average_duration", ofDuration result.meanDuration),
    ("performance_data", .array (result.durations.map ofDuration))])

end LifeStory.Trial.Result
