import LifeStory.Condition
import LifeStory.Directive
import LifeStory.Exclusion

/-!
# Authored content

Events offer choices; a choice has outcomes, or weighted buckets of them. Base content and content
packs also define status effects, talents, endings, achievements and custom stats.
-/

namespace LifeStory

/-- One of the ways in which a choice may turn out. -/
structure Bucket (R : Type) where
  weight : Option R
  outcomes : List (Directive R)
  feedback : Option String

/-- The weight of a bucket in the draw: one when it is not given or zero, and never below zero. -/
def Bucket.drawWeight {R : Type} [Scalar R] (b : Bucket R) : R :=
  Scalar.max ((b.weight.bind Scalar.nonzero?).getD 1.0) 0.0

/-- Something that a life can do about an event. -/
structure Choice (R : Type) where
  id : Option String
  text : String
  conditions : List (Condition R)
  /-- The stat that draws a life towards the choice. -/
  worldview : Option String
  /-- How strongly it draws. -/
  magnitude : Option R
  special : Bool
  outcomes : List (Directive R)
  results : List (Bucket R)
  feedback : Option String

namespace Choice

variable {R : Type}

/-- A choice with nothing but an id and a text. -/
def plain (id : Option String) (text : String) : Choice R :=
  ⟨id, text, [], none, none, false, [], [], none⟩

/-- How strongly the choice draws; one when it is not given or zero. -/
def strength [Scalar R] (c : Choice R) : R := (c.magnitude.bind Scalar.nonzero?).getD 1.0

/-- The value of the stat that draws a life towards the choice, zero without one. -/
def tendency [Scalar R] (c : Choice R) (life : Life R) : R :=
  (c.worldview.bind life.stat?).getD 0.0

/-- All that the choice may do: the outcomes of all buckets, or its own when it has no buckets. -/
def allOutcomes (c : Choice R) : List (Directive R) :=
  if c.results.isEmpty then c.outcomes else c.results.flatMap Bucket.outcomes

/-- The name of the choice among others: its id, else its position. -/
def label (c : Choice R) (position : Nat) : String := c.id.getD ("#" ++ toString position)

end Choice

/-- Something that may happen in a turn. -/
structure Event (R : Type) where
  id : String
  title : String
  text : String
  conditions : List (Condition R)
  choices : List (Choice R)
  tags : List String
  priority : Option R
  /-- Whether the event takes place once at most. -/
  unique : Bool
  /-- Whether the event has to be unlocked first. -/
  locked : Bool

namespace Event

variable {R : Type}

/-- The weight that the event was authored with; one when it is not given or zero. -/
def authoredPriority [Scalar R] (e : Event R) : R := (e.priority.bind Scalar.nonzero?).getD 1.0

end Event

/-- An effect that acts in every turn while it is in force. -/
structure StatusEffect (R : Type) where
  name : String
  description : String
  duration : Option Int
  outcomes : List (Directive R)

/-- A gift that a life may begin with. -/
structure Talent (R : Type) where
  id : String
  name : String
  description : String
  effects : List (Directive R)

/-- An authored ending. -/
structure Ending where
  id : String
  title : String
  text : String
deriving DecidableEq, Repr

/-- A distinction for a life that meets its conditions when it is over. -/
structure Achievement (R : Type) where
  id : String
  name : String
  description : String
  hidden : Bool
  conditions : List (Condition R)

/-- A stat that a content pack adds. -/
structure CustomStat (R : Type) where
  id : String
  name : String
  initial : R
deriving Repr

/-- The content that the game comes with. -/
structure BaseContent (R : Type) where
  events : List (Event R)
  talents : List (Talent R)
  endings : List Ending
  statusEffects : StringMap (StatusEffect R)
  tags : TagRules
  achievements : List (Achievement R)

/-- No content. -/
def BaseContent.empty {R : Type} : BaseContent R := ⟨[], [], [], .empty, .empty, []⟩

/-- Content that is laid over the base. -/
structure Pack (R : Type) where
  id : String
  name : String
  description : Option String
  events : List (Event R)
  talents : List (Talent R)
  endings : List Ending
  statusEffects : StringMap (StatusEffect R)
  customStats : List (CustomStat R)
  achievements : List (Achievement R)

end LifeStory
