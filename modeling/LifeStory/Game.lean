import LifeStory.Session

/-!
# Games

A game hands out runs of its setting: runs that begin, and runs that go on from a save. A save may
be older than the content; stats that packs have added since begin with the value that they have in
a new run.
-/

namespace LifeStory

namespace Catalog

variable {R : Type}

/-- Adds the custom stats that a life does not have. -/
def backfill (catalog : Catalog R) (life : Life R) : Life R :=
  { life with
    customStats := catalog.customStats.foldl (fun stats s ↦
      if stats.contains s.id then stats else stats.insert s.id s.initial) life.customStats }

end Catalog

namespace Setting

variable {R : Type}

/-- The setting of content under settings that a switch may change. -/
def ofContent [Scalar R] (base : BaseContent R) (packs : List (Pack R)) (config : Config R)
    (testSwitch : Option String) : Setting R :=
  ⟨.assemble base packs, config.withTestSwitch testSwitch⟩

/-- The life of a run that begins. -/
def newLife (G : Type) [Scalar R] [SeededSource G] (setting : Setting R) (seed : UInt64)
    (talents : List String) : Life R :=
  (Session.beginWithLedger (G := G) setting seed talents).life

/-- The life that a slot holds, if there is one. -/
def load? (setting : Setting R) (saves : StringMap (Life R)) (slot : String) : Option (Life R) :=
  (saves.get? slot).map setting.catalog.backfill

/-- A run that goes on from a life that was loaded. Its streams are seeded from the seed and the
turn, and its ledger is empty. -/
def resume {G : Type} [SeededSource G] (setting : Setting R) (seed : UInt64) (life : Life R) :
    Session R Ledger G :=
  .ofLife setting (resumeSeed seed life.turn) (.ofCatalog setting.catalog) life

end Setting

end LifeStory
