import LifeStory.Candidate
import LifeStory.Random.ChaCha
import LifeStory.Scalar.Float
import LifeStory.Scalar.Order

/-!
# Players

A trial is played by a strategy: the simulation by itself, or one of the players, who answer offers
in a fixed way. A player says what was decided by, where there is something to say.
-/

namespace LifeStory.Trial

/-- How a trial is played. -/
inductive Strategy where
  /-- The simulation decides. -/
  | autonomous
  /-- The first choice that is offered. -/
  | firstOffer
  /-- Any of the choices that are offered. -/
  | random
  /-- The choice that the dominant world view draws to. -/
  | devout
  /-- No special choice, and the one that draws least. -/
  | cautious
deriving DecidableEq, Repr

namespace Strategy

/-- All strategies. -/
def all : List Strategy := [autonomous, firstOffer, random, devout, cautious]

/-- The name of a strategy in reports. -/
def label : Strategy → String
  | autonomous => "Autonomous"
  | firstOffer => "First Offer"
  | random => "Random"
  | devout => "Devout"
  | cautious => "Cautious"

/-- The name of a strategy on the command line. -/
def key : Strategy → String
  | autonomous => "autonomous"
  | firstOffer => "first-offer"
  | random => "random"
  | devout => "devout"
  | cautious => "cautious"

/-- The strategy with a name on the command line. -/
def ofKey? (s : String) : Option Strategy := all.find? fun strategy ↦ strategy.key = s

/-- Whether a player decides. -/
def isManual (strategy : Strategy) : Bool := strategy ≠ autonomous

end Strategy

/-- What a player decided: the position of a choice, and by what. -/
structure Decision where
  index : Nat
  rationale : Option String
deriving DecidableEq, Repr

/-- A player. -/
inductive Player where
  | first
  | random (source : ChaCha)
  | devout
  | cautious

namespace Player

/-- The player of a strategy; the seed is that of the player's own draws. -/
def ofStrategy? (strategy : Strategy) (seed : UInt64) : Option Player :=
  match strategy with
  | .autonomous => none
  | .firstOffer => some .first
  | .random => some (.random (.ofSeed seed))
  | .devout => some .devout
  | .cautious => some .cautious

/-- The name of a player. -/
def name : Player → String
  | first => Strategy.firstOffer.label
  | random _ => Strategy.random.label
  | devout => Strategy.devout.label
  | cautious => Strategy.cautious.label

/-- The best of several items, the first of equal ones, with its position. -/
def bestBy {α : Type} (better : α → α → Bool) (items : List α) : Option (Nat × α) :=
  items.zipIdx.foldl (fun best (a, i) ↦
    match best with
    | some (j, b) => some (if better a b then (i, a) else (j, b))
    | none => some (i, a)) none

/-- How much a choice means to who follows a world view: whether it is a choice of that view, and
how strongly it draws. -/
structure Pull where
  aligned : Bool
  strength : Float

/-- How much a choice means to who follows a world view. -/
def Pull.ofChoice (life : Life Float) (view : Worldview) (choice : Choice Float) : Pull :=
  ⟨choice.worldview = some view.name, choice.tendency life * choice.strength⟩

/-- Whether a pull is stronger than another. A choice of the view comes before any other. -/
def Pull.stronger (a b : Pull) : Bool :=
  if a.aligned = b.aligned then totalKey b.strength < totalKey a.strength else a.aligned

/-- What a follower of a world view decides by. -/
def Pull.describe (view : Worldview) (pull : Pull) : String :=
  view.name ++ (if pull.aligned then " aligned" else " unaligned") ++ " pull "
    ++ Decimal.fixedText 1 pull.strength

/-- The decision for the dominant world view. -/
def followView (life : Life Float) (candidates : List (Candidate Float)) : Decision :=
  let view := life.dominantView
  match bestBy Pull.stronger (candidates.map fun c ↦ Pull.ofChoice life view c.choice) with
  | some (index, pull) => ⟨index, some (pull.describe view)⟩
  | none => ⟨0, none⟩

/-- Whether a choice is less of a risk than another: not special, or drawing less. -/
def lessRisky (a b : Choice Float) : Bool :=
  if a.special = b.special then totalKey a.strength.abs < totalKey b.strength.abs else b.special

/-- The decision for the least risk. -/
def avoidRisk (candidates : List (Candidate Float)) : Decision :=
  let best := bestBy lessRisky (candidates.map Candidate.choice)
  ⟨(best.map Prod.fst).getD 0, some "smallest swing"⟩

/-- Decides about an offer. -/
def pick (player : Player) (life : Life Float) (candidates : List (Candidate Float)) :
    Decision × Player :=
  match player with
  | first => (⟨0, none⟩, first)
  | random source =>
    let (index, source) := source.below (max candidates.length 1)
    let roll := "roll " ++ toString index ++ "/" ++ toString candidates.length
    (⟨index, some roll⟩, random source)
  | devout => (followView life candidates, devout)
  | cautious => (avoidRisk candidates, cautious)

end Player

end LifeStory.Trial
