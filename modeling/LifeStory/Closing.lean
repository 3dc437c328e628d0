import LifeStory.Config
import LifeStory.Scene
import LifeStory.Template.Render

/-!
# The end of a run

A run ends by itself when a stat breaches its threshold, and is closed by an authored ending. A
dead life can still be closed, and keeps the reason that it died for; a closed one stays as it is.
-/

namespace LifeStory

/-- What the last line of a life begins with. -/
def overMark : String := "[SIMULATION OVER]"

/-- The last line of a life that is closed by an ending which the catalog does not know. -/
def genericEnding : String := "Your story reaches its end."

namespace Life

variable {R : Type} [Scalar R]

/-- The first threshold that a life breaches. -/
def breach? (life : Life R) (thresholds : Thresholds R) : Option DeathCause :=
  let stats := life.stats
  if stats.health ≤ 0.0 then some .health
  else if stats.sanity ≤ 0.0 then some .sanity
  else if stats.money < thresholds.debtFloor then some .debt
  else if thresholds.fameCeiling < stats.fame then some .fame
  else if stats.anonymity < 0.0 then some .anonymity
  else if thresholds.maxAge < stats.age then some .oldAge
  else none

/-- A title, unless it is empty. -/
def titleIfAny (title : String) : Option String := if title = "" then none else some title

end Life

namespace Scene

variable {R A G : Type} [Scalar R] [AchievementSink A] [RandomSource G]

/-- The end of a life by itself. -/
def passAway (catalog : Catalog R) (cause : DeathCause) (scene : Scene R A G) : Scene R A G :=
  (scene.mapLife fun life ↦
    { life with alive := false, endReason := some cause.name }.note .ending none
      (overMark ++ " " ++ cause.message)).reportAchievements catalog

/-- Ends an active run for a cause; says whether it was active. -/
def die (catalog : Catalog R) (cause : DeathCause) (scene : Scene R A G) :
    Bool × Scene R A G :=
  if scene.life.isActive then (true, scene.passAway catalog cause) else (false, scene)

/-- Ends an active run that breaches a threshold; gives the cause. -/
def enforceThresholds (catalog : Catalog R) (thresholds : Thresholds R) (scene : Scene R A G) :
    Option DeathCause × Scene R A G :=
  if scene.life.isActive then
    match scene.life.breach? thresholds with
    | some cause => (some cause, scene.passAway catalog cause)
    | none => (none, scene)
  else (none, scene)

/-- The life that an ending closes, before the ending is told. A life that is over keeps the reason
that it has. -/
def closed (ending : String) (life : Life R) : Life R :=
  let reason := if life.alive then some ending else some (life.endReason.getD ending)
  { life with alive := false, endReason := reason, ended := true }

/-- Tells an ending; the catalog's text is a template. -/
def tellEnding (catalog : Catalog R) (id : String) (scene : Scene R A G) : Scene R A G :=
  match catalog.ending? id with
  | some ending =>
    let (title, source) := Template.render scene.life ending.title scene.text
    let (text, source) := Template.render scene.life ending.text source
    { scene with text := source }.note .ending (Life.titleIfAny title) (overMark ++ " " ++ text)
  | none => scene.note .ending none (overMark ++ " " ++ genericEnding)

/-- Closes a run with an ending; says whether it was not closed already. -/
def triggerEnding (catalog : Catalog R) (id : String) (scene : Scene R A G) :
    Bool × Scene R A G :=
  match scene.life.phase with
  | .ended => (false, scene)
  | _ => (true, ((scene.mapLife (closed id)).tellEnding catalog id).reportAchievements catalog)

end Scene

end LifeStory
