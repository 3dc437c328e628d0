import LifeStory.Turn.Report
import LifeStory.Turn.World

/-!
# Turns

In every turn time passes first: the life grows older, status effects act, modifiers wear out, and
the thresholds are enforced. If the run is still active, either the simulation goes on by itself
(`World.runTurn`): it draws an event, lets the life choose and resolves the choice; or a player is
offered choices (`World.beginManual`), of which one is resolved later (`World.resolve`). Both ways
share the resolution of a choice (`World.make`).
-/

namespace LifeStory

/-- Written when no event takes place. -/
def nothingLine : String := "You sit with your thoughts. Nothing in particular happens."

/-- Written when an event leaves nothing to do. -/
def directionlessLine : String := "> A wave of confusion: you have no idea where to go."

/-- Written when the player lets time pass. -/
def timePassesLine : String := "The days drift by uneventfully..."

/-! ### Time -/

namespace Life

variable {R : Type} [Scalar R]

/-- A turn older. Past certain ages health and sanity decay. -/
def grownOlder (life : Life R) (aging : Aging R) : Life R :=
  let age := life.stats.age + aging.agePerTurn
  let health :=
    if aging.healthDecayAge < age then life.stats.health - aging.healthDecay
    else life.stats.health
  let sanity :=
    if aging.sanityDecayAge < age then life.stats.sanity - aging.sanityDecay
    else life.stats.sanity
  { life with
    turn := succUpTo maxTurn life.turn
    stats := { life.stats with age := age, health := health, sanity := sanity } }

end Life

namespace Scene

variable {R A G : Type} [Scalar R] [AchievementSink A] [RandomSource G]

/-- Lets one turn pass over an active run. -/
def passTurn (setting : Setting R) (scene : Scene R A G) : Advance × Scene R A G :=
  let scene := scene.mapLife (·.grownOlder setting.config.aging)
  let (status, scene) := scene.tickStatuses setting.catalog
  let (expired, life) := scene.life.wearModifiers
  let (death, scene) :=
    { scene with life := life }.enforceThresholds setting.catalog setting.config.thresholds
  (⟨status, expired, death⟩, scene)

end Scene

namespace World

variable {R A G : Type} [Scalar R] [AchievementSink A] [RandomSource G]

/-- Lets one turn pass. Nothing happens to a run that is over. -/
def advance (setting : Setting R) (world : World R A G) : Advance × World R A G :=
  if world.life.isActive then world.onScene (Scene.passTurn setting) else (.idle, world)

/-! ### Events and choices -/

/-- Tells an event, and takes down that it took place. -/
def stage (origin : Origin) (world : World R A G) : World R A G :=
  let (title, world) := world.render origin.title
  let (text, world) := world.render origin.text
  let world := world.note .event (Life.titleIfAny title) text
  world.mapLife fun life ↦ { life with triggered := life.triggered.add origin.id }

/-- Tells a choice, and takes down that it was made. -/
def tellChoice (choice : Choice R) (world : World R A G) : World R A G :=
  let world := world.mapLife fun life ↦
    { life with chosen := choice.id.elim life.chosen life.chosen.add }
  let (line, world) := world.render choice.text
  world.note .choice none ("> " ++ line)

/-- Tells what comes of a choice, unless there is nothing to tell. -/
def tellFeedback (feedback : Option String) (world : World R A G) : World R A G :=
  match feedback with
  | none => world
  | some template =>
    let (text, world) := world.render template
    world.note .feedback none text

/-- Draws how a choice turns out. -/
def drawResult (choice : Choice R) (world : World R A G) : Resolution R × World R A G :=
  let (resolution, source) := choice.resolve world.streams.results
  (resolution, { world with streams := { world.streams with results := source } })

/-- Applies what comes of a choice, and enforces the thresholds. -/
def applyResult (setting : Setting R) (outcomes : List (Directive R)) (world : World R A G) :
    Option DeathCause × World R A G :=
  world.onScene fun scene ↦
    let (_, scene) := scene.applyAll setting.catalog outcomes
    scene.enforceThresholds setting.catalog setting.config.thresholds

/-- Makes a choice, and takes down what comes of it. -/
def make (setting : Setting R) (choice : Choice R) (report : TurnReport R)
    (world : World R A G) : TurnReport R × World R A G :=
  let (resolution, world) := (world.tellChoice choice).drawResult choice
  let (death, world) :=
    (world.tellFeedback resolution.feedback).applyResult setting resolution.outcomes
  ({ report with
      choice := choice.id
      bucket := resolution.bucket
      traces := report.traces ++ resolution.trace.toList
      death := death.or report.death }, world)

/-! ### Turns without a player -/

/-- Draws an event from the event stream. -/
def drawEvent (setting : Setting R) (world : World R A G) :
    Option (Event R) × Trace R × World R A G :=
  let (event, trace, source) :=
    setting.catalog.drawEvent setting.config.showTestEvents world.life world.streams.events
  (event, trace, { world with streams := { world.streams with events := source } })

/-- Lets the life choose, with the choice stream. -/
def drawChoice (setting : Setting R) (event : Event R) (world : World R A G) :
    Option (Choice R) × Trace R × World R A G :=
  let choices := setting.catalog.available world.life event
  let (choice, trace, source) :=
    Choice.draw world.life setting.config.choiceChaos choices world.streams.choices
  (choice, trace, { world with streams := { world.streams with choices := source } })

/-- Lets an event take place, and the life choose. -/
def liveThrough (setting : Setting R) (event : Event R) (report : TurnReport R)
    (world : World R A G) : TurnReport R × World R A G :=
  let world := world.stage ⟨event.id, event.title, event.text⟩
  let (choice, trace, world) := world.drawChoice setting event
  let report := { report with event := some event.id, traces := report.traces ++ [trace] }
  match choice with
  | some choice => world.make setting choice report
  | none => (report, world.note .system none directionlessLine)

/-- What happens in an active run after time has passed. -/
def happen (setting : Setting R) (report : TurnReport R) (world : World R A G) :
    TurnReport R × World R A G :=
  let (event, trace, world) := world.drawEvent setting
  let report := { report with traces := report.traces ++ [trace] }
  match event with
  | some event => world.liveThrough setting event report
  | none => (report, world.note .system none nothingLine)

/-- One turn of the simulation by itself. -/
def runTurn (setting : Setting R) (world : World R A G) : TurnReport R × World R A G :=
  let since := world.life.log.nextSeq
  let (advance, world) := world.advance setting
  let report := TurnReport.blank.absorb advance
  let (report, world) :=
    if world.life.isActive then world.happen setting report else (report, world)
  (report.close world.life since, world)

/-! ### Turns of a player -/

/-- Draws the choices that a player is offered, from the choice stream. -/
def drawCandidates (setting : Setting R) (world : World R A G) :
    List (Candidate R) × World R A G :=
  let (candidates, source) :=
    setting.catalog.drawCandidates setting.config setting.config.manualChoiceCount world.life
      world.streams.choices
  (candidates, { world with streams := { world.streams with choices := source } })

/-- What a player may do in an active run. -/
def gatherOffer (setting : Setting R) (world : World R A G) : Offer R × World R A G :=
  if (setting.catalog.eligible setting.config.showTestEvents world.life).isEmpty then
    (.timePasses, world.note .system none nothingLine)
  else
    let (candidates, world) := world.drawCandidates setting
    if candidates.isEmpty then (.timePasses, world.note .system none directionlessLine)
    else (.candidates candidates, world)

/-- Lets time pass, and offers what the player may do. -/
def beginManual (setting : Setting R) (world : World R A G) : ManualTurn R × World R A G :=
  let since := world.life.log.nextSeq
  let (advance, world) := world.advance setting
  let report := TurnReport.blank.absorb advance
  let (offer, world) :=
    if world.life.isActive then world.gatherOffer setting else (.runOver, world)
  (⟨report.close world.life since, offer⟩, world)

/-- Makes the choice that a player was offered. Time does not pass. -/
def resolve (setting : Setting R) (candidate : Candidate R) (world : World R A G) :
    TurnReport R × World R A G :=
  let since := world.life.log.nextSeq
  let world := world.stage candidate.origin
  let report := { TurnReport.blank with event := some candidate.origin.id }
  let (report, world) := world.make setting candidate.choice report
  (report.close world.life since, world)

/-- Lets time pass without a choice, and offers what the player may do then. The report covers
both. -/
def passTime (setting : Setting R) (world : World R A G) : ManualTurn R × World R A G :=
  let since := world.life.log.nextSeq
  let (next, world) := (world.note .system none timePassesLine).beginManual setting
  ({ next with report := { next.report with entries := world.life.log.since since } }, world)

end World

end LifeStory
