import LifeStory.Beginning
import LifeStory.Turn.Play

/-!
# Sessions

A session is a run that goes on: its setting, its world, and the choices that the player is offered
and has not answered yet. Whatever may change the life takes these choices back, so that no choice
is made in a state that it was not offered in.
-/

namespace LifeStory

/-- Why the player's answer is refused. -/
inductive PlayError where
  /-- The run is over. -/
  | runNotActive (phase : Phase)
  /-- No such choice is offered. -/
  | unknownCandidate (id : CandidateId)
deriving DecidableEq

namespace PlayError

/-- What the player is told. -/
def message : PlayError → String
  | runNotActive phase => "cannot resolve a choice: the run is " ++ phase.name
  | unknownCandidate id => "unknown manual candidate `" ++ id.text ++ "`"

end PlayError

/-- A run that goes on. -/
structure Session (R A G : Type) where
  setting : Setting R
  world : World R A G
  /-- The choices that the player is offered. -/
  pending : List (Candidate R)

namespace Session

variable {R A G : Type}

/-- The life of the run. -/
def life (session : Session R A G) : Life R := session.world.life

/-- A session without open choices. -/
def idle (setting : Setting R) (world : World R A G) : Session R A G := ⟨setting, world, []⟩

/-- Goes on with a life. -/
def ofLife [SeededSource G] (setting : Setting R) (seed : UInt64) (sink : A) (life : Life R) :
    Session R A G :=
  .idle setting ⟨life, sink, .ofSeed seed⟩

/-- Draws from the streams of another seed from now on. -/
def reseed [SeededSource G] (session : Session R A G) (seed : UInt64) : Session R A G :=
  { session with world := { session.world with streams := .ofSeed seed } }

/-- The session after its world has changed; the choices that were offered are taken back. -/
def moveOn (session : Session R A G) (world : World R A G) : Session R A G :=
  .idle session.setting world

section Actions

variable [Scalar R] [AchievementSink A] [RandomSource G]

/-- Begins the run anew. The streams go on. -/
def reset (session : Session R A G) (talents : List String) : Session R A G :=
  let setting := session.setting
  let scene := session.world.scene.begin setting.catalog setting.config.logCapacity talents
  session.moveOn (session.world.setScene scene)

/-- Plays a turn without the player. -/
def runTurn (session : Session R A G) : TurnReport R × Session R A G :=
  let (report, world) := session.world.runTurn session.setting
  (report, session.moveOn world)

/-- Plays turns without the player until the run is over, at most as many as given. -/
def runUntilOver : Nat → Session R A G → List (TurnReport R) × Session R A G
  | 0, session => ([], session)
  | turns + 1, session =>
    if session.life.isActive then
      let (report, session) := session.runTurn
      let (reports, session) := runUntilOver turns session
      (report :: reports, session)
    else ([], session)

/-- The session after a turn that offers something. -/
def openOffer (session : Session R A G) (turn : ManualTurn R) (world : World R A G) :
    ManualTurn R × Session R A G :=
  (turn, ⟨session.setting, world, turn.offer.pending⟩)

/-- Begins a turn of the player. -/
def beginManual (session : Session R A G) : ManualTurn R × Session R A G :=
  let (turn, world) := session.world.beginManual session.setting
  session.openOffer turn world

/-- Makes the choice that is offered under an id. A refusal changes nothing. -/
def choose (session : Session R A G) (id : CandidateId) :
    Except PlayError (TurnReport R) × Session R A G :=
  if session.life.isActive then
    match session.pending.find? fun c ↦ c.id = id with
    | some candidate =>
      let (report, world) := session.world.resolve session.setting candidate
      (.ok report, session.moveOn world)
    | none => (.error (.unknownCandidate id), session)
  else (.error (.runNotActive session.life.phase), session)

/-- Lets time pass, and begins the next turn of the player. -/
def timePasses (session : Session R A G) :
    Except PlayError (ManualTurn R) × Session R A G :=
  if session.life.isActive then
    let (turn, world) := session.world.passTime session.setting
    let (turn, session) := session.openOffer turn world
    (.ok turn, session)
  else (.error (.runNotActive session.life.phase), session.moveOn session.world)

/-- Closes the run with an ending; says whether it was not closed already. -/
def triggerEnding (session : Session R A G) (ending : String) : Bool × Session R A G :=
  let (closed, world) :=
    session.world.onScene fun scene ↦ scene.triggerEnding session.setting.catalog ending
  (closed, session.moveOn world)

end Actions

section Beginnings

variable [Scalar R] [SeededSource G]

/-- A run that begins. -/
def begin [AchievementSink A] (setting : Setting R) (seed : UInt64) (sink : A)
    (talents : List String) : Session R A G :=
  (ofLife setting seed sink (Life.fresh Life.defaultLogCapacity)).reset talents

/-- A run that begins, with a ledger for the achievements of the catalog. -/
def beginWithLedger (setting : Setting R) (seed : UInt64) (talents : List String) :
    Session R Ledger G :=
  begin setting seed (.ofCatalog setting.catalog) talents

end Beginnings

end Session

end LifeStory
