import LifeStory.Outcome

/-!
# Status effects in the course of time

In every turn the debt rule is applied first, then each effect in force acts once, and then the
effects that were in force when the turn began lose a turn of their duration. An effect that is put
in force meanwhile keeps its full duration, also one that takes the place of an effect that was
ended.
-/

namespace LifeStory

/-- What the debt rule did. -/
inductive DebtChange where
  | entered
  | cleared
deriving DecidableEq, Repr

namespace DebtChange

/-- Both changes. -/
def all : List DebtChange := [entered, cleared]

/-- The name of a change. -/
def name : DebtChange → String
  | entered => "entered"
  | cleared => "cleared"

end DebtChange

/-- The status effect of who owes money. -/
def debtStatus : String := "in_debt"

/-- The duration that the debt rule gives: longer than a life. -/
def debtDuration : Int := 9999

/-- The least duration that is kept. -/
def minDuration : Int := -2147483648

/-- A turn less, unless there is nothing less. -/
def turnLess (duration : Int) : Int := max (duration - 1) minDuration

namespace Life

variable {R : Type}

/-- The debt rule: who has less than no money falls into debt, and who has not is out of it. -/
def settleDebt [Scalar R] (life : Life R) : Option DebtChange × Life R :=
  let owes := life.hasStatus debtStatus
  if life.stats.money < 0.0 ∧ !owes then
    let indebted : Life R := { life with statuses := life.statuses ++ [⟨debtStatus, debtDuration⟩] }
    (some .entered,
      indebted.note .feedback none "Your finances take a nosedive. You are now in debt.")
  else if 0.0 ≤ life.stats.money ∧ owes then
    let free : Life R := { life with statuses := life.statuses.filter (·.id ≠ debtStatus) }
    (some .cleared,
      free.note .feedback none "You pay off every last debt and finally breathe again.")
  else (none, life)

/-- Takes a turn from the effects that were in force when the turn began and have not been ended
since, and drops those that have none left. -/
def wearStatuses (life : Life R) (active removed : List String) : List String × Life R :=
  let worn := life.statuses.map fun s ↦
    if s.id ∈ active ∧ s.id ∉ removed then { s with remaining := turnLess s.remaining } else s
  let expired := worn.filter fun s ↦ s.remaining ≤ 0
  (expired.map ActiveStatus.id, { life with statuses := worn.filter fun s ↦ 0 < s.remaining })

/-- Takes a turn from the factors on the weights of events, and drops those that have none left;
gives how many were dropped. -/
def wearModifiers (life : Life R) : Nat × Life R :=
  let worn := life.eventModifiers.map fun m ↦ { m with remaining := turnLess m.remaining }
  let kept := worn.filter fun m ↦ 0 < m.remaining
  (worn.length - kept.length, { life with eventModifiers := kept })

end Life

/-- What became of the status effects in a turn. -/
structure StatusTick where
  debt : Option DebtChange
  /-- The effects that acted. -/
  ticked : List String
  expired : List String
deriving DecidableEq, Repr

/-- Nothing became of them. -/
def StatusTick.idle : StatusTick := ⟨none, [], []⟩

namespace Scene

variable {R A G : Type} [Scalar R] [AchievementSink A] [RandomSource G]

/-- Lets the effects of a list act in order, as far as they are still in force and have not been
ended since the list was made. Gives the effects that acted and those that were ended. -/
def actStatuses (catalog : Catalog R) : List String → List String → Scene R A G →
    List String × List String × Scene R A G
  | [], removed, scene => ([], removed, scene)
  | id :: rest, removed, scene =>
    if id ∈ removed ∨ ¬ scene.life.hasStatus id then actStatuses catalog rest removed scene
    else
      match catalog.statusEffect? id with
      | none => actStatuses catalog rest removed scene
      | some effect =>
        let (tally, scene) := scene.applyAll catalog effect.outcomes
        let (ticked, removed, scene) := actStatuses catalog rest (removed ++ tally.removed) scene
        (id :: ticked, removed, scene)

/-- The status effects of one turn. -/
def tickStatuses (catalog : Catalog R) (scene : Scene R A G) : StatusTick × Scene R A G :=
  let (debt, life) := scene.life.settleDebt
  let active := life.statuses.map ActiveStatus.id
  let (ticked, removed, scene) := actStatuses catalog active [] { scene with life := life }
  let (expired, life) := scene.life.wearStatuses active removed
  (⟨debt, ticked, expired⟩, { scene with life := life })

end Scene

end LifeStory
