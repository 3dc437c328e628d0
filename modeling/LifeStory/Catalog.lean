import LifeStory.Content

/-!
# The catalog

A catalog is the base content with packs laid over it in order. Lists are appended, and the first
definition of an event, a talent or an ending counts; of status effects with one id the one of the
last pack counts.
-/

namespace LifeStory

/-- The content of a run. -/
structure Catalog (R : Type) where
  events : List (Event R)
  talents : List (Talent R)
  endings : List Ending
  statusEffects : StringMap (StatusEffect R)
  customStats : List (CustomStat R)
  achievements : List (Achievement R)
  tagRules : TagRules
  /-- The table of the conflict groups of the tag rules. -/
  exclusions : Exclusions
  packIds : List String

namespace Catalog

variable {R : Type}

/-- Lays a pack over a catalog. -/
def addPack (catalog : Catalog R) (pack : Pack R) : Catalog R :=
  { catalog with
    events := catalog.events ++ pack.events
    talents := catalog.talents ++ pack.talents
    endings := catalog.endings ++ pack.endings
    statusEffects := catalog.statusEffects.union pack.statusEffects
    customStats := catalog.customStats ++ pack.customStats
    achievements := catalog.achievements ++ pack.achievements
    packIds := catalog.packIds ++ [pack.id] }

/-- The catalog of the base content alone. -/
def ofBase (base : BaseContent R) : Catalog R where
  events := base.events
  talents := base.talents
  endings := base.endings
  statusEffects := base.statusEffects
  customStats := []
  achievements := base.achievements
  tagRules := base.tags
  exclusions := .ofGroups base.tags.conflicts
  packIds := []

/-- The catalog of the base content and packs. -/
def assemble (base : BaseContent R) (packs : List (Pack R)) : Catalog R :=
  packs.foldl addPack (ofBase base)

/-- The event with an id. -/
def event? (catalog : Catalog R) (id : String) : Option (Event R) :=
  catalog.events.find? fun e ↦ e.id = id

/-- The talent with an id. -/
def talent? (catalog : Catalog R) (id : String) : Option (Talent R) :=
  catalog.talents.find? fun t ↦ t.id = id

/-- The ending with an id. -/
def ending? (catalog : Catalog R) (id : String) : Option Ending :=
  catalog.endings.find? fun e ↦ e.id = id

/-- The status effect with an id. -/
def statusEffect? (catalog : Catalog R) (id : String) : Option (StatusEffect R) :=
  catalog.statusEffects.get? id

/-- Whether a choice would take up a tag that excludes one of those held. A directive that replaces
the tags it excludes does no harm. -/
def introducesConflict (catalog : Catalog R) (choice : Choice R) (held : List String) : Bool :=
  choice.allOutcomes.any fun directive ↦
    match directive with
    | .addTag tag false => catalog.exclusions.clashes tag held
    | _ => false

end Catalog

end LifeStory
