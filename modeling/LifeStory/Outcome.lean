import LifeStory.Closing

/-!
# Applying directives

Directives are applied in order, and each sees what those before it have done. A directive that
changes nothing it is asked to change counts as skipped, and leaves the scene as it was.
-/

namespace LifeStory

/-- The duration of a status effect when none is given anywhere. -/
def defaultDuration : Int := 1

namespace Life

variable {R : Type} [Scalar R]

/-- The factor on the changes of a stat; one that is zero or undefined counts as none. -/
def multiplier (life : Life R) (stat : String) : R :=
  ((life.multipliers.get? stat).bind Scalar.nonzero?).getD 1.0

/-- Adds to a stat, if there is one with the name. -/
def changeStat? (life : Life R) (stat : String) (delta : R) : Option (Life R) :=
  life.updateStat? stat (· + Scalar.roundHalfUp (delta * life.multiplier stat))

/-- Adds to stats in the order of their names; none when no name is that of a stat. -/
def changeStats? (life : Life R) : List (String × R) → Option (Life R)
  | [] => none
  | (stat, delta) :: rest =>
    match life.changeStat? stat delta with
    | some life => some ((life.changeStats? rest).getD life)
    | none => life.changeStats? rest

/-- Multiplies the factor of a stat that can be written. -/
def addMultiplier? (life : Life R) (stat : String) (factor : R) : Option (Life R) :=
  if (life.stat? stat).isNone ∨ stat = turnStat then none
  else some { life with
    multipliers := life.multipliers.insert stat (life.multiplier stat * factor) }

/-- Puts an item into the inventory, once. -/
def addItem (life : Life R) (item : String) : Life R :=
  if life.hasItem item then life else { life with inventory := life.inventory ++ [item] }

/-- Takes the first such item out of the inventory. -/
def removeItem? (life : Life R) (item : String) : Option (Life R) :=
  if life.hasItem item then some { life with inventory := life.inventory.erase item } else none

/-- Takes up a tag, once; if it replaces others, those that it excludes go first. -/
def addTag (life : Life R) (exclusions : Exclusions) (tag : String) (replace : Bool) : Life R :=
  let kept :=
    if replace then life.tags.filter fun held ↦ !exclusions.exclusive tag held else life.tags
  { life with tags := if tag ∈ kept then kept else kept ++ [tag] }

/-- Gives up a tag. -/
def removeTag? (life : Life R) (tag : String) : Option (Life R) :=
  if life.hasTag tag then some { life with tags := life.tags.filter (· ≠ tag) } else none

/-- Puts a status effect in force, unless it is. -/
def addStatus (life : Life R) (id : String) (duration : Int) : Life R :=
  if life.hasStatus id then life
  else { life with statuses := life.statuses ++ [⟨id, duration⟩] }

/-- Ends a status effect that is in force. -/
def removeStatus? (life : Life R) (id : String) : Option (Life R) :=
  if life.hasStatus id then some { life with statuses := life.statuses.filter (·.id ≠ id) }
  else none

/-- Multiplies the factor on the weights of events with a tag. -/
def multiplyTagOdds (life : Life R) (tag : String) (multiplier : R) : Life R :=
  { life with tagOdds := life.tagOdds.insert tag ((life.tagOdds.get? tag).getD 1.0 * multiplier) }

/-- The number that a variable is changed from: zero when there is none, or none defined. -/
def variableNumber (life : Life R) (key : String) : R :=
  match life.vars.get? key with
  | some v => if Scalar.isNaN v.toNumber then 0.0 else v.toNumber
  | none => 0.0

/-- Gives a variable a value. -/
def setVariable (life : Life R) (key : String) (value : Variable R) : Life R :=
  { life with vars := life.vars.insert key value }

/-- The life after a directive that asks for a change of the life alone; none when it asks for
nothing that can be done. -/
def obey? (life : Life R) (catalog : Catalog R) : Directive R → Option (Life R)
  | .changeStat deltas => life.changeStats? deltas.entries
  | .addMultiplier stat factor => life.addMultiplier? stat factor
  | .setStat stat value => life.setStat? stat value
  | .addItem item => some (life.addItem item)
  | .removeItem item => life.removeItem? item
  | .addTag tag replace => some (life.addTag catalog.exclusions tag replace)
  | .removeTag tag => life.removeTag? tag
  | .addStatus id duration =>
    let defined := (catalog.statusEffect? id).bind StatusEffect.duration
    some (life.addStatus id ((duration.or defined).getD defaultDuration))
  | .removeStatus id => life.removeStatus? id
  | .unlockEvent event => some { life with unlocked := life.unlocked.add event }
  | .resetEvent event => some { life with triggered := life.triggered.erase event }
  | .modifyTagProbability tag multiplier => some (life.multiplyTagOdds tag multiplier)
  | .modifyEventWeight event multiplier duration =>
    some { life with eventModifiers := life.eventModifiers ++ [⟨event, multiplier, duration⟩] }
  | .setVariable key value => some (life.setVariable key value)
  | .changeVariable key delta =>
    some (life.setVariable key (.number (life.variableNumber key + delta)))
  | .triggerEnding _ | .unlockAchievement _ | .unknown _ => none

end Life

namespace Scene

variable {R A G : Type}

/-- The scene with the changed life, if there is a change. -/
def accept (scene : Scene R A G) (changed : Option (Life R)) : Bool × Scene R A G :=
  match changed with
  | some life => (true, { scene with life := life })
  | none => (false, scene)

variable [Scalar R] [AchievementSink A] [RandomSource G]

/-- Applies a directive; says whether it was applied or skipped. -/
def applyDirective (catalog : Catalog R) (directive : Directive R) (scene : Scene R A G) :
    Bool × Scene R A G :=
  match directive with
  | .triggerEnding ending => scene.triggerEnding catalog ending
  | .unlockAchievement id => (true, { scene with sink := AchievementSink.unlock scene.sink id })
  | _ => scene.accept (scene.life.obey? catalog directive)

end Scene

/-- What became of a list of directives. -/
structure Tally where
  applied : Nat
  skipped : Nat
  /-- The status effects that were ended, in order. -/
  removed : List String
deriving DecidableEq, Repr

namespace Tally

/-- Nothing was applied. -/
def zero : Tally := ⟨0, 0, []⟩

/-- The status effects that a directive ends when it is applied. -/
def removedBy {R : Type} : Directive R → List String
  | .removeStatus id => [id]
  | _ => []

/-- Counts one more directive. -/
def count {R : Type} (tally : Tally) (directive : Directive R) (applied : Bool) : Tally :=
  if applied then
    { tally with applied := tally.applied + 1, removed := tally.removed ++ removedBy directive }
  else { tally with skipped := tally.skipped + 1 }

end Tally

namespace Scene

variable {R A G : Type} [Scalar R] [AchievementSink A] [RandomSource G]

/-- Applies directives in order, and counts on. -/
def applyFrom (catalog : Catalog R) : List (Directive R) → Tally → Scene R A G →
    Tally × Scene R A G
  | [], tally, scene => (tally, scene)
  | directive :: rest, tally, scene =>
    let (applied, scene) := scene.applyDirective catalog directive
    applyFrom catalog rest (tally.count directive applied) scene

/-- Applies directives in order. -/
def applyAll (catalog : Catalog R) (outcomes : List (Directive R)) (scene : Scene R A G) :
    Tally × Scene R A G :=
  applyFrom catalog outcomes .zero scene

end Scene

end LifeStory
