import LifeStory.Draw
import LifeStory.Eligibility

/-!
# The draw of an event

The weight of an event is its priority times the factors of its tags and of the modifiers that are
in force for it, and never below zero.
-/

namespace LifeStory

variable {R : Type} [Scalar R]

/-- The least weight of an event before the factors. -/
def minEventWeight : R := 0.1

/-- The label of the factor of a modifier. -/
def modifierLabel : String := "event_modifier"

namespace Event

/-- The factor of a tag, unless there is none or it is zero. -/
def tagFactor? (life : Life R) (tag : String) : Option (Factor R) :=
  ((life.tagOdds.get? tag).filter fun odds ↦ odds != 0.0).map fun odds ↦ ⟨"tag:" ++ tag, odds⟩

/-- The factors on the weight of the event: those of its tags, then those of modifiers. -/
def factors (event : Event R) (life : Life R) : List (Factor R) :=
  event.tags.filterMap (tagFactor? life)
    ++ (life.eventModifiers.filter fun m ↦ m.event = event.id).map fun m ↦
      ⟨modifierLabel, m.multiplier⟩

/-- The event as a candidate of a draw. -/
def weighted (event : Event R) (life : Life R) : Weighted R :=
  let base := Scalar.max event.authoredPriority minEventWeight
  let factors := event.factors life
  let product := factors.foldl (fun weight f ↦ weight * f.value) base
  ⟨event.id, base, factors, Scalar.max product 0.0⟩

end Event

namespace Catalog

variable {G : Type} [RandomSource G]

/-- Draws one of the events that may take place. -/
def drawEvent (catalog : Catalog R) (showTests : Bool) (life : Life R) (source : Counted G) :
    Option (Event R) × Trace R × Counted G :=
  let pool := catalog.eligible showTests life
  let (index, trace, source) :=
    (Trace.ofCandidates "events" (pool.map fun e ↦ e.weighted life)).draw source
  (index.bind (pool[·]?), trace, source)

end Catalog

end LifeStory
