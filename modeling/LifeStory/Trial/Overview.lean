import LifeStory.Decimal.Layout
import LifeStory.Document.Result
import LifeStory.Json.Printer
import LifeStory.Text.Duration
import LifeStory.Text.Style

/-!
# Overviews of results

Results are shown in three formats: lines for a terminal, a table with a list of failures, and a
document.
-/

namespace LifeStory.Trial

/-- The formats of an overview. -/
inductive Format where
  | console
  | markdown
  | json
deriving DecidableEq, Repr

namespace Format

/-- The name of a format on the command line. -/
def key : Format → String
  | console => "console"
  | markdown => "markdown"
  | json => "json"

/-- The format with a name on the command line. -/
def ofKey? (s : String) : Option Format := [json, markdown, console].find? fun f ↦ f.key = s

end Format

namespace Overview

/-- Lines, each with an end. -/
def unlines (lines : List String) : String := String.join (lines.map (· ++ "\n"))

/-- How many results passed. -/
def passedCount (results : List Result) : Nat := results.countP Result.passed

/-- The share of results that passed, in percent. -/
def successRate (results : List Result) : String :=
  let share :=
    if results.isEmpty then 0.0
    else Float.ofNat (passedCount results) / Float.ofNat results.length * 100.0
  Decimal.fixedText 1 share ++ "%"

/-- How many attempts of a result passed. -/
def attemptsText (result : Result) : String :=
  toString result.successes ++ "/" ++ toString result.attempts

/-- The scenario and the seed of a result. -/
def seedText (result : Result) (name : String) : String :=
  name ++ " (seed " ++ toString result.seed ++ ")"

/-! ### Lines for a terminal -/

/-- The numbers over all results. -/
def consoleHead (colours : Bool) (results : List Result) (total : Nat) : List String :=
  let passed := passedCount results
  [ "",
    Text.Style.boldBrightCyan.paint colours "📊 Logic Test Results Summary",
    Text.Style.cyan.paint colours "==============================",
    "Total runs: " ++ toString results.length,
    "Passed: " ++ Text.Style.green.paint colours (toString passed),
    "Failed: " ++ Text.Style.red.paint colours (toString (results.length - passed)),
    "Success rate: " ++ successRate results,
    "Total time: " ++ Text.duration total,
    "" ]

/-- Whether a result passed. -/
def verdict (colours : Bool) (result : Result) : String :=
  if result.passed then Text.Style.green.paint colours "✅ PASS"
  else Text.Style.red.paint colours "❌ FAIL"

/-- The failures of a result. -/
def consoleFailures (colours : Bool) (result : Result) : List String :=
  if result.failures = [] then []
  else
    "   Failures:" :: result.failures.map fun failure ↦
      "     • " ++ Text.Style.red.paint colours failure

/-- One result. -/
def consoleResult (colours : Bool) (result : Result) : List String :=
  [ verdict colours result ++ " "
      ++ seedText result (Text.Style.bold.paint colours result.scenario),
    "   Iterations: " ++ attemptsText result ++ " successful",
    "   Average turns: " ++ Decimal.fixedText 1 result.meanTurns,
    "   Average time: " ++ Text.duration result.meanDuration ]
    ++ consoleFailures colours result ++ [""]

/-- The first of several results that is at least as good as all others. -/
def bestOf (better : Result → Result → Bool) (first : Result) (rest : List Result) : Result :=
  rest.foldl (fun best result ↦ if better result best then result else best) first

/-- A result that stands out by its duration. -/
def extreme (colours : Bool) (style : Text.Style) (label : String) (result : Result) : String :=
  label ++ ": " ++ style.paint colours result.scenario ++ " ("
    ++ Text.duration result.meanDuration ++ ")"

/-- The fastest and the slowest result: the first of the fastest, and the last of the slowest. -/
def consoleExtremes (colours : Bool) : List Result → List String
  | [] => []
  | first :: rest =>
    let fastest := bestOf (fun a b ↦ a.meanDuration < b.meanDuration) first rest
    let slowest := bestOf (fun a b ↦ b.meanDuration ≤ a.meanDuration) first rest
    [ Text.Style.boldBrightYellow.paint colours "⚡ Performance Summary",
      Text.Style.yellow.paint colours "=====================",
      extreme colours .green "Fastest" fastest,
      extreme colours .yellow "Slowest" slowest ]

/-- The lines for a terminal. -/
def console (colours : Bool) (results : List Result) (total : Nat) : String :=
  unlines (consoleHead colours results total ++ results.flatMap (consoleResult colours)
    ++ consoleExtremes colours results)

/-! ### Tables -/

/-- The numbers over all results, and the head of the table. -/
def markdownHead (results : List Result) : List String :=
  let passed := passedCount results
  [ "# Rabbithole Logic Test Results", "",
    "## Summary", "",
    "- **Total runs**: " ++ toString results.length,
    "- **Passed**: " ++ toString passed,
    "- **Failed**: " ++ toString (results.length - passed),
    "- **Success rate**: " ++ successRate results, "",
    "## Detailed Results", "",
    "| Scenario | Seed | Result | Iterations | Avg turns | Avg time |",
    "|---|---|---|---|---|---|" ]

/-- The row of a result. -/
def markdownRow (result : Result) : String :=
  "| " ++ String.intercalate " | "
    [ result.scenario, toString result.seed, if result.passed then "✅" else "❌",
      attemptsText result, Decimal.fixedText 1 result.meanTurns,
      Text.duration result.meanDuration ] ++ " |"

/-- The failures of a result. -/
def markdownFailure (result : Result) : List String :=
  [seedText result ("### " ++ result.scenario), ""]
    ++ result.failures.map (fun failure ↦ "- " ++ failure) ++ [""]

/-- The failures of all results that did not pass. -/
def markdownFailures (results : List Result) : List String :=
  let failed := results.filter fun result ↦ !result.passed
  if failed.isEmpty then [] else ["", "## Failures", ""] ++ failed.flatMap markdownFailure

/-- The table with the list of failures. -/
def markdown (results : List Result) : String :=
  unlines (markdownHead results ++ results.map markdownRow ++ markdownFailures results)

/-! ### Documents -/

/-- The document. -/
def json (results : List Result) : String :=
  (Json.array (results.map Result.toJson)).pretty ++ "\n"

/-- Shows results in a format; `total` is the time that was taken for all of them. -/
def text (format : Format) (colours : Bool) (results : List Result) (total : Nat) : String :=
  match format with
  | .console => console colours results total
  | .markdown => markdown results
  | .json => json results

end Overview

end LifeStory.Trial
