import LifeStory.Trial.Chronicle
import LifeStory.Trial.Player

/-!
# Playing trials

A plan says how a life is played: who decides, for how many turns, with which talents, and which
ending is triggered when play stops. `Plan.play` plays it once for a seed, and `Plan.run` a second
time where the plan asks whether the seed replays the run.

The simulation plays a turn as long as the run is active (`playAlone`). A player plays rounds, in
each of which the offer of a turn is answered and the next turn begins (`Stage.round`), until the
run is over, or a turn has begun that is past the limit (`Stage.play`). Turns are numbered up to a
largest number. A limit that is as large stops nobody, and play with it need not come to an end;
that is a result of its own (`Setback.endless`).
-/

namespace LifeStory.Trial

/-- Why a trial cannot go on. -/
inductive Setback where
  /-- The run refuses to let time pass. -/
  | timeStoodStill (reason : PlayError)
  /-- The run refuses the choice that the player makes. -/
  | rejected (id : CandidateId) (reason : PlayError)
  /-- The rounds that may be played do not bring play to an end. -/
  | endless
deriving DecidableEq

/-- What is reported of a setback. -/
def Setback.message : Setback → String
  | timeStoodStill reason => "time could not pass in an active run: " ++ reason.message
  | rejected id reason => "candidate " ++ id.text ++ " was rejected: " ++ reason.message
  | endless => "play does not come to an end"

/-- What is known of a trial that was played. -/
structure Summary where
  seed : UInt64
  chronicle : Chronicle
  /-- The life when play stopped. -/
  life : Life Float
  /-- The achievements that were unlocked, the first one first. -/
  unlocked : List String
  draws : DrawCounts
  /-- Whether the ending of the plan was refused a second time, if it has one. -/
  finaleRepeatRefused : Option Bool
  /-- Whether a second run was the same, if there was one. -/
  replayConsistent : Option Bool
  /-- The largest size of an offer. -/
  offerLimit : Nat

namespace Summary

/-- Why the run is over, if there is a reason. -/
def reason (summary : Summary) : String := summary.life.endReason.getD "none"

/-- Whether two summaries tell of the same run. -/
def sameRun (a b : Summary) : Bool :=
  a.life == b.life && a.draws == b.draws && a.chronicle.reports == b.chronicle.reports

end Summary

/-- How a life is played in a trial. -/
structure Plan where
  strategy : Strategy
  maxTurns : Nat
  talents : List String
  /-- What is changed in the life before it is played. -/
  setup : Life Float → Life Float
  /-- The ending that is triggered when play stops. -/
  finale : Option String
  /-- Whether the seed is played twice to compare the runs. -/
  checksReplay : Bool

/-! ### Turns without a player -/

/-- How many choices the simulation drew from in a turn; one if it did not draw. -/
def choicesDrawnFrom (report : TurnReport Float) : Nat :=
  match report.traces.find? fun trace ↦ trace.pool = Choice.pool with
  | some trace => trace.candidates.length
  | none => 1

/-- The choice that the simulation made in a turn. -/
def moveOfReport? (report : TurnReport Float) : Option Move :=
  match report.event, report.choice with
  | some event, some choice =>
    some ⟨report.turn, event, choice, "engine", choicesDrawnFrom report, none⟩
  | _, _ => none

/-- Takes down a turn of the simulation. -/
def chronicleTurn (run : Run) (report : TurnReport Float) : Chronicle :=
  let move := (moveOfReport? report).elim Chronicle.empty Chronicle.ofMove
  move.append (.ofReport run report)

/-- Plays turns without a player until the run is over, at most as many as given. -/
def playAlone : Nat → Run → Chronicle × Run
  | 0, run => (.empty, run)
  | turns + 1, run =>
    if run.life.isActive then
      let (report, run) := run.runTurn
      let (rest, stopped) := playAlone turns run
      ((chronicleTurn run report).append rest, stopped)
    else (.empty, run)

/-! ### Turns of a player -/

/-- The choice of an offer that a decision is for, the last one if the position is past the end. -/
def Decision.of? {α : Type} (decision : Decision) (offered : List α) : Option α :=
  offered[min decision.index (offered.length - 1)]?

/-- The choice that a player made. -/
def moveOfPlayer (run : Run) (player : Player) (decision : Decision) (offered : Nat)
    (picked : Candidate Float) : Move :=
  ⟨run.life.turn, picked.origin.id, picked.choice.id.getD "", player.name, offered,
    decision.rationale⟩

/-- A player answers an offer: what is taken down, and the player and the run afterwards. -/
def answer (player : Player) (offered : List (Candidate Float)) (run : Run) :
    Except Setback (Chronicle × Player × Run) :=
  let (decision, next) := player.pick run.life offered
  match decision.of? offered with
  | none => .ok (.ofOffer offered.length, next, run)
  | some picked =>
    match run.choose picked.id with
    | (.error reason, _) => .error (.rejected picked.id reason)
    | (.ok report, after) =>
      let page := (Chronicle.ofOffer offered.length).append
        (.ofMove (moveOfPlayer run player decision offered.length picked))
      .ok (page.append (.ofReport after report), next, after)

/-- Where the play of a player stands when a turn has begun. -/
structure Stage where
  current : ManualTurn Float
  player : Player
  run : Run

namespace Stage

/-- The turn that a player begins in a run. -/
def begin (player : Player) (run : Run) : Stage :=
  let (current, run) := run.beginManual
  ⟨current, player, run⟩

/-- Plays a round: what is taken down, and the stage after it, or the run if play stops. -/
def round (stage : Stage) : Except Setback (Chronicle × (Stage ⊕ Run)) :=
  let page := Chronicle.ofReport stage.run stage.current.report
  match stage.current.offer with
  | .runOver => .ok (page, .inr stage.run)
  | .timePasses =>
    match stage.run.timePasses with
    | (.error reason, _) => .error (.timeStoodStill reason)
    | (.ok next, later) => .ok (page, .inl ⟨next, stage.player, later⟩)
  | .candidates offered =>
    match answer stage.player offered stage.run with
    | .error setback => .error setback
    | .ok (made, player, after) =>
      .ok (page.append made, if after.life.isActive then .inl (begin player after) else .inr after)

/-- Plays rounds from a stage until play stops, or a turn has begun that is past the limit. The
second number bounds the rounds; play that it does not bring to an end is `endless`. -/
def play (limit rounds : Nat) (stage : Stage) : Except Setback (Chronicle × Run) :=
  if limit < stage.run.life.turn then .ok (.empty, stage.run)
  else
    match rounds with
    | 0 => .error .endless
    | rounds + 1 =>
      match stage.round with
      | .error setback => .error setback
      | .ok (page, .inr stopped) => .ok (page, stopped)
      | .ok (page, .inl next) => do
        let (rest, stopped) ← next.play limit rounds
        return (page.append rest, stopped)

end Stage

/-- A player plays a run until it is over, or a turn has begun that is past the limit. One round
more than the limit gets past it, unless turns are not numbered that far: what is not over by then
is `endless`, also where it would be over after more rounds. -/
def playManual (limit : Nat) (player : Player) (run : Run) : Except Setback (Chronicle × Run) :=
  (Stage.begin player run).play limit (limit + 1)

/-! ### Plans -/

namespace Plan

/-- How many turns are played unless it is said otherwise. -/
def defaultMaxTurns : Nat := 400

/-- A plan without talents, ending or replay. -/
def simple (strategy : Strategy) (maxTurns : Nat) : Plan where
  strategy := strategy
  maxTurns := maxTurns
  talents := []
  setup := id
  finale := none
  checksReplay := false

/-- The run of a plan before it is played. -/
def start (plan : Plan) (setting : Setting Float) (seed : UInt64) : Run :=
  let run : Run := .beginWithLedger setting seed plan.talents
  { run with world := run.world.mapLife plan.setup }

/-- Plays the turns of a plan. -/
def playTurns (plan : Plan) (seed : UInt64) (run : Run) : Except Setback (Chronicle × Run) :=
  match Player.ofStrategy? plan.strategy seed with
  | none => .ok (playAlone plan.maxTurns run)
  | some player => playManual plan.maxTurns player run

/-- Triggers an ending twice: whether it was refused the second time. -/
def close (ending : String) (run : Run) : Bool × Run :=
  let (_, run) := run.triggerEnding ending
  let (again, run) := run.triggerEnding ending
  (!again, run)

/-- Triggers the ending of a plan, if it has one. -/
def closeIfAsked (plan : Plan) (run : Run) : Option Bool × Run :=
  match plan.finale with
  | none => (none, run)
  | some ending =>
    let (refused, run) := close ending run
    (some refused, run)

/-- Plays a plan once. -/
def play (plan : Plan) (setting : Setting Float) (seed : UInt64) : Except Setback Summary := do
  let (chronicle, run) ← plan.playTurns seed (plan.start setting seed)
  let (refused, run) := plan.closeIfAsked run
  return ⟨seed, chronicle, run.life, run.world.sink.unlocked, run.world.streams.drawCounts, refused,
    none, setting.config.manualChoiceCount⟩

/-- Plays a plan, a second time if it is to be compared. -/
def run (plan : Plan) (setting : Setting Float) (seed : UInt64) : Except Setback Summary := do
  let summary ← plan.play setting seed
  if plan.checksReplay then
    let replay ← plan.play setting seed
    return { summary with replayConsistent := some (replay.sameRun summary) }
  else return summary

end Plan

end LifeStory.Trial
