import LifeStory.Trial.Scenario

/-!
# Results

A scenario is attempted several times for a seed, each time with the next seed. An attempt passes
if its trial is played without a setback and without a complaint; the failure of an attempt says
where the run stopped and what the last choices were. A `Result` sums the attempts up.
-/

namespace LifeStory.Trial

/-! ### Attempts -/

/-- How an attempt turned out. -/
inductive Outcome where
  /-- The attempt passed after so many turns; the reason why the run is over, if there is one. -/
  | passed (turns : Nat) (reason : String)
  | failed (failure : String)
deriving DecidableEq, Repr

namespace Outcome

/-- The failure of an attempt that failed. -/
def failure? : Outcome → Option String
  | passed _ _ => none
  | failed failure => some failure

/-- The turns of an attempt that passed. -/
def turns? : Outcome → Option Nat
  | passed turns _ => some turns
  | failed _ => none

end Outcome

/-- A choice that was made, in text. -/
def Move.text (move : Move) : String :=
  let rationale := (move.rationale.filter (· ≠ "")).getD "-"
  "turn " ++ toString move.turn ++ " " ++ move.event ++ " -> " ++ move.choice ++ " ["
    ++ move.player ++ " of " ++ toString move.offered ++ "] " ++ rationale

namespace Summary

/-- How many of the last choices a failure tells. -/
def movesTold : Nat := 3

/-- The last choices, the latest first. -/
def lastMoves (summary : Summary) : String :=
  if summary.chronicle.moves = [] then "no decisions recorded"
  else
    String.intercalate " | "
      ((summary.chronicle.moves.reverse.take movesTold).map Move.text)

/-- Where the run stopped. -/
def whereabouts (summary : Summary) : String :=
  "turn " ++ toString summary.life.turn ++ ", " ++ summary.life.phase.name ++ " ("
    ++ summary.reason ++ "), last decisions: " ++ summary.lastMoves

end Summary

namespace Scenario

/-- How a trial of a scenario turned out, or what is wrong with it. -/
def judge (scenario : Scenario) (played : Except Setback Summary) : Except String Summary :=
  match played with
  | .error setback => .error setback.message
  | .ok summary =>
    match scenario.complaint? summary with
    | some complaint => .error (summary.whereabouts ++ ": " ++ complaint)
    | none => .ok summary

/-- Attempts a scenario; attempts are counted from zero. -/
def attempt (scenario : Scenario) (setting : Setting Float) (seed : UInt64) (index : Nat) :
    Outcome :=
  let seed := seed + index.toUInt64
  match scenario.judge (scenario.plan.run setting seed) with
  | .ok summary => .passed summary.life.turn summary.reason
  | .error complaint =>
    .failed ("Iteration " ++ toString (index + 1) ++ " (seed " ++ toString seed.toNat ++ "): "
      ++ complaint)

end Scenario

/-! ### Results -/

/-- What became of the attempts of a scenario with a seed. Durations are in nanoseconds. -/
structure Result where
  scenario : String
  seed : Nat
  passed : Bool
  attempts : Nat
  successes : Nat
  failures : List String
  /-- The mean of the turns of the attempts that passed. -/
  meanTurns : Float
  /-- The mean of the durations. -/
  meanDuration : Nat
  /-- The durations of the attempts that passed. -/
  durations : List Nat

namespace Result

/-- The sum of whole numbers. -/
def total (ns : List Nat) : Nat := ns.foldl (· + ·) 0

/-- The mean of whole numbers, zero if there are none. -/
def mean (ns : List Nat) : Float :=
  if ns = [] then 0.0 else Float.ofNat (total ns) / Float.ofNat ns.length

/-- Sums up attempts and their durations. -/
def ofOutcomes (scenario : String) (seed : UInt64) (outcomes : List (Outcome × Nat)) : Result :=
  let failures := outcomes.filterMap fun o ↦ o.1.failure?
  let turns := outcomes.filterMap fun o ↦ o.1.turns?
  let durations := (outcomes.filter fun o ↦ o.1.turns?.isSome).map Prod.snd
  { scenario := scenario
    seed := seed.toNat
    passed := failures.isEmpty
    attempts := outcomes.length
    successes := turns.length
    failures := failures
    meanTurns := mean turns
    meanDuration := total durations / durations.length
    durations := durations }

end Result

namespace Scenario

/-- Attempts a scenario so many times for a seed, once in any case. No time is taken. -/
def result (scenario : Scenario) (setting : Setting Float) (attempts : Nat) (seed : UInt64) :
    Result :=
  .ofOutcomes scenario.name seed ((List.range (max attempts 1)).map fun index ↦
    (scenario.attempt setting seed index, 0))

end Scenario

end LifeStory.Trial
