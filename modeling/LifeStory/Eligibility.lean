import LifeStory.Catalog
import LifeStory.Config

/-!
# What may happen, and what may be done about it

An event may take place when none of its marks speaks against it and its conditions hold. A choice
may be made when its conditions hold and it takes up no tag that excludes one of those held.
-/

namespace LifeStory

/-- The tag of events that never take place by themselves. -/
def metaTag : String := "meta"

/-- The tag of events for testing. -/
def testTag : String := "test"

namespace Catalog

variable {R : Type} [Scalar R]

/-- Whether an event is open by its marks: it is not hidden, not spent, not locked and not closed
by a tag. -/
def isOpen (catalog : Catalog R) (showTests : Bool) (life : Life R) (event : Event R) : Bool :=
  !event.tags.contains metaTag
    && (showTests || !event.tags.contains testTag)
    && !(event.unique && life.triggered.contains event.id)
    && !(event.locked && !life.unlocked.contains event.id)
    && catalog.tagRules.permits event.tags life.tags

/-- Whether an event may take place. -/
def isEligible (catalog : Catalog R) (showTests : Bool) (life : Life R) (event : Event R) : Bool :=
  catalog.isOpen showTests life event && allHold life event.conditions

/-- The events that may take place, in the order of the catalog. -/
def eligible (catalog : Catalog R) (showTests : Bool) (life : Life R) : List (Event R) :=
  catalog.events.filter (catalog.isEligible showTests life)

/-- Whether a choice may be made. -/
def isAvailable (catalog : Catalog R) (life : Life R) (choice : Choice R) : Bool :=
  allHold life choice.conditions && !catalog.introducesConflict choice life.tags

/-- The choices of an event that may be made. -/
def available (catalog : Catalog R) (life : Life R) (event : Event R) : List (Choice R) :=
  event.choices.filter (catalog.isAvailable life)

end Catalog

end LifeStory
