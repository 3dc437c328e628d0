import LifeStory.CandidateId
import LifeStory.Draw
import LifeStory.Eligibility

/-!
# The choices that a player is offered

A manual turn offers choices of all events that may take place: perhaps one that is special, and
then others, drawn by weight and without replacement, up to the number that was asked for.
-/

namespace LifeStory

/-- The event that an offered choice belongs to, with its texts as they were authored. -/
structure Origin where
  id : String
  title : String
  text : String
deriving DecidableEq, Repr

/-- A choice that is offered, under an id of its own. -/
structure Candidate (R : Type) where
  id : CandidateId
  choice : Choice R
  origin : Origin

/-- An event that may take place, and one of its choices that may be made. -/
structure Opportunity (R : Type) where
  event : Event R
  choice : Choice R

namespace Opportunity

variable {R G : Type} [Scalar R] [RandomSource G]

/-- The opportunities of a life, in the order of the catalog. -/
def all (catalog : Catalog R) (showTests : Bool) (life : Life R) : List (Opportunity R) :=
  (catalog.eligible showTests life).flatMap fun event ↦
    (catalog.available life event).map (Opportunity.mk event)

/-- The weight of an ordinary choice before its pull is added. -/
def baseWeight : R := 10.0

/-- The weight of a choice in an offer, which is at least one. -/
def weight (life : Life R) (choice : Choice R) : R :=
  Scalar.max (baseWeight + choice.tendency life * choice.strength) 1.0

/-- The opportunity as a candidate of a draw. -/
def weighted (life : Life R) (o : Opportunity R) : Weighted R :=
  ⟨o.choice.id.getD "", baseWeight, [], weight life o.choice⟩

/-- Draws one of the special opportunities, all with the same chance. -/
def drawSpecial (special : List (Opportunity R)) (source : Counted G) :
    List (Opportunity R) × Counted G :=
  let (u, source) := source.unit R
  let index := Scalar.toIndex? (u * Scalar.ofNat special.length) special.length
  ((index.bind (special[·]?)).toList, source)

/-- Offers a special opportunity with the given chance. Nothing is drawn when there is none. -/
def offerSpecial (chance : R) (special : List (Opportunity R)) (source : Counted G) :
    List (Opportunity R) × Counted G :=
  if special.isEmpty then ([], source)
  else
    let (u, source) := source.unit R
    if u < chance then drawSpecial special source else ([], source)

/-- Draws up to the given number of opportunities without replacement. -/
def drawOrdinary (life : Life R) : Nat → List (Opportunity R) → Counted G →
    List (Opportunity R) × Counted G
  | 0, _, source => ([], source)
  | _, [], source => ([], source)
  | n + 1, pool, source =>
    match (Trace.ofCandidates "manual" (pool.map (weighted life))).draw source with
    | (none, _, source) => ([], source)
    | (some index, _, source) =>
      let (more, source) := drawOrdinary life n (pool.eraseIdx index) source
      ((pool[index]?).toList ++ more, source)

/-- Offers opportunities under ids that are drawn for them. -/
def toCandidates : List (Opportunity R) → Counted G → List (Candidate R) × Counted G
  | [], source => ([], source)
  | o :: rest, source =>
    let (bytes, source) := source.bytes 16
    let (more, source) := toCandidates rest source
    (⟨.ofRandom bytes, o.choice, ⟨o.event.id, o.event.title, o.event.text⟩⟩ :: more, source)

end Opportunity

/-- Draws the choices that a player is offered, as many as asked for if there are as many. -/
def Catalog.drawCandidates {R G : Type} [Scalar R] [RandomSource G] (catalog : Catalog R)
    (config : Config R) (count : Nat) (life : Life R) (source : Counted G) :
    List (Candidate R) × Counted G :=
  let (special, ordinary) :=
    (Opportunity.all catalog config.showTestEvents life).partition fun o ↦ o.choice.special
  let (first, source) := Opportunity.offerSpecial config.specialChoiceChance special source
  let (others, source) :=
    Opportunity.drawOrdinary life (count - first.length) ordinary source
  Opportunity.toCandidates (first ++ others) source

end LifeStory
