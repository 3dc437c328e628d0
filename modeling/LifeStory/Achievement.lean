import LifeStory.Catalog

/-!
# Achievements

Unlocked achievements are reported to a sink. A `Ledger` is a sink that knows the achievements of a
catalog and keeps the order in which they were unlocked; a set of names is a sink that takes any
name. Neither takes the empty name, or a name twice.
-/

namespace LifeStory

/-- Where unlocked achievements are reported. -/
class AchievementSink (A : Type) where
  /-- Takes an unlocked achievement. -/
  unlock : A → String → A

instance : AchievementSink StringSet where
  unlock set id := if id = "" then set else set.add id

/-- The achievements that were unlocked, among those that are known. -/
structure Ledger where
  known : StringSet
  /-- The unlocked achievements, the first one first. -/
  unlocked : List String
deriving BEq

namespace Ledger

/-- A ledger for the achievements of a catalog, with none unlocked. -/
def ofCatalog {R : Type} (catalog : Catalog R) : Ledger :=
  ⟨.ofNames (catalog.achievements.map Achievement.id), []⟩

/-- Unlocks an achievement that is known and not yet unlocked. -/
def unlock (ledger : Ledger) (id : String) : Ledger :=
  if id = "" ∨ id ∈ ledger.unlocked ∨ ¬ ledger.known.contains id then ledger
  else { ledger with unlocked := ledger.unlocked ++ [id] }

/-- Unlocks achievements in order. -/
def unlockAll (ledger : Ledger) (ids : List String) : Ledger := ids.foldl unlock ledger

instance : AchievementSink Ledger := ⟨unlock⟩

end Ledger

/-- Whether an achievement is unlocked by a life that is over. One without conditions is unlocked by
directives only. -/
def Achievement.isMetBy {R : Type} [Scalar R] (a : Achievement R) (life : Life R) : Bool :=
  !a.conditions.isEmpty && allHold life a.conditions

namespace Catalog

variable {R A : Type} [Scalar R]

/-- The achievements that a life meets. -/
def metAchievements (catalog : Catalog R) (life : Life R) : List (Achievement R) :=
  catalog.achievements.filter fun a ↦ a.isMetBy life

/-- Reports the achievements that a life meets. -/
def reportAchievements [AchievementSink A] (catalog : Catalog R) (life : Life R) (sink : A) : A :=
  (catalog.metAchievements life).foldl (fun sink a ↦ AchievementSink.unlock sink a.id) sink

end Catalog

end LifeStory
