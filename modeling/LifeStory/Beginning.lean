import LifeStory.Outcome

/-!
# The beginning of a run

A run begins with the stats that packs add, two lines in the log, and the talents that were chosen,
whose effects are applied in order. Talents that the catalog does not know are passed over.
-/

namespace LifeStory

/-- The first line of a run. -/
def resetLine : String := "...system reset // a new life begins..."

/-- The second line of a run, which names the talents. -/
def talentLine (names : List String) : String :=
  if names = [] then "You step into the rabbit hole with nothing but yourself."
  else "You step into the rabbit hole carrying: " ++ String.intercalate ", " names ++ "."

namespace Catalog

variable {R : Type}

/-- The values that the stats of packs begin with; of two stats with one id the later counts. -/
def initialStats (catalog : Catalog R) : StringMap R :=
  .ofList (catalog.customStats.map fun stat ↦ (stat.id, stat.initial))

end Catalog

namespace Scene

variable {R A G : Type} [Scalar R] [AchievementSink A] [RandomSource G]

/-- Gives a life a talent with its effects. -/
def receiveTalent (catalog : Catalog R) (scene : Scene R A G) (talent : Talent R) :
    Scene R A G :=
  ((scene.mapLife fun life ↦
    { life with talents := life.talents ++ [⟨talent.id, talent.name⟩] }).applyAll catalog
      talent.effects).2

/-- A life with the given talents begins, in place of the one that there is. -/
def begin (catalog : Catalog R) (logCapacity : Nat) (talents : List String)
    (scene : Scene R A G) : Scene R A G :=
  let chosen := talents.filterMap catalog.talent?
  let life := { Life.fresh logCapacity with customStats := catalog.initialStats }
  let life := life.note .system none resetLine
  let life := life.note .system none (talentLine (chosen.map Talent.name))
  chosen.foldl (receiveTalent catalog) { scene with life := life }

end Scene

end LifeStory
