import LifeStory.Achievement
import LifeStory.Random.Source

/-!
# Scenes

Whatever a directive may touch is a scene: the life, the sink for achievements, and the source that
the texts of endings are drawn from.
-/

namespace LifeStory

/-- What directives act on. -/
structure Scene (R A G : Type) where
  life : Life R
  sink : A
  text : Counted G

namespace Scene

variable {R A G : Type}

/-- Changes the life of a scene. -/
def mapLife (scene : Scene R A G) (f : Life R → Life R) : Scene R A G :=
  { scene with life := f scene.life }

/-- Writes a line to the log. -/
def note (scene : Scene R A G) (kind : LogKind) (title : Option String) (text : String) :
    Scene R A G :=
  scene.mapLife (·.note kind title text)

/-- Reports the achievements that the life meets. -/
def reportAchievements [Scalar R] [AchievementSink A] (catalog : Catalog R)
    (scene : Scene R A G) : Scene R A G :=
  { scene with sink := catalog.reportAchievements scene.life scene.sink }

end Scene

end LifeStory
