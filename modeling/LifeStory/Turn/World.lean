import LifeStory.Config
import LifeStory.Random.Streams
import LifeStory.Scene
import LifeStory.Template.Render

/-!
# Worlds

A world is all that a turn may change: the life, the sink for achievements and the random streams.
A setting is all that it may not.
-/

namespace LifeStory

/-- The content and the settings of a run. -/
structure Setting (R : Type) where
  catalog : Catalog R
  config : Config R

/-- What changes in a run. -/
structure World (R A G : Type) where
  life : Life R
  sink : A
  streams : Streams G

namespace World

variable {R A G : Type}

/-- Changes the life of a world. -/
def mapLife (world : World R A G) (f : Life R → Life R) : World R A G :=
  { world with life := f world.life }

/-- Writes a line to the log. -/
def note (world : World R A G) (kind : LogKind) (title : Option String) (text : String) :
    World R A G :=
  world.mapLife (·.note kind title text)

/-- The scene that directives act on. -/
def scene (world : World R A G) : Scene R A G := ⟨world.life, world.sink, world.streams.text⟩

/-- Puts a scene in the place of the one that it was made from. -/
def setScene (world : World R A G) (scene : Scene R A G) : World R A G :=
  ⟨scene.life, scene.sink, { world.streams with text := scene.text }⟩

/-- Lets an action act on the scene of a world. -/
def onScene {α : Type} (world : World R A G) (act : Scene R A G → α × Scene R A G) :
    α × World R A G :=
  let (a, scene) := act world.scene
  (a, world.setScene scene)

variable [Scalar R] [RandomSource G]

/-- Resolves a template with the text stream. -/
def render (world : World R A G) (template : String) : String × World R A G :=
  let (text, source) := Template.render world.life template world.streams.text
  (text, { world with streams := { world.streams with text := source } })

end World

end LifeStory
