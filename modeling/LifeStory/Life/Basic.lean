import LifeStory.Life.Log
import LifeStory.Life.Stats
import LifeStory.Life.Variable
import LifeStory.StringMap

/-!
# Lives

A `Life` is the whole changing state of one run, and what a save holds. Stats are read by name
(`Life.stat?`): the turn counter, then the stats that every life has, then custom stats; only the
last two can be written (`Life.updateStat?`).
-/

namespace LifeStory

/-- Why a run ended by itself. -/
inductive DeathCause where
  | health
  | sanity
  | debt
  | fame
  | anonymity
  | oldAge
deriving DecidableEq, Repr

namespace DeathCause

/-- All causes. -/
def all : List DeathCause := [health, sanity, debt, fame, anonymity, oldAge]

/-- The name of a cause, which is also recorded as the reason of the end. -/
def name : DeathCause → String
  | health => "health"
  | sanity => "sanity"
  | debt => "debt"
  | fame => "fame"
  | anonymity => "anonymity"
  | oldAge => "old_age"

/-- The last words on a life that ended this way. -/
def message : DeathCause → String
  | health => "Your body has run out of everything it had."
  | sanity => "The integrity of your mind has collapsed completely."
  | debt => "Crushed by debt, you end it all in despair."
  | fame => "Fame devours you. There is nothing private left to live in."
  | anonymity => "Everyone knows who you are. There is nowhere left to hide."
  | oldAge => "Life reaches its natural end."

end DeathCause

/-- The phases of a run, in order. -/
inductive Phase where
  | active
  | dead
  | ended
deriving DecidableEq, Repr

namespace Phase

/-- All phases. -/
def all : List Phase := [active, dead, ended]

/-- The name of a phase. -/
def name : Phase → String
  | active => "active"
  | dead => "dead"
  | ended => "ended"

end Phase

/-- A status effect that is in force. -/
structure ActiveStatus where
  id : String
  /-- The turns that are left. -/
  remaining : Int
deriving DecidableEq, Repr

/-- A factor on the weight of an event, for some turns. -/
structure EventModifier (R : Type) where
  event : String
  multiplier : R
  /-- The turns that are left. -/
  remaining : Int
deriving BEq, Repr

/-- A talent that a life began with. -/
structure TalentRef where
  id : String
  name : String
deriving DecidableEq, Repr

/-- The state of one run. -/
structure Life (R : Type) where
  stats : Stats R
  /-- Stats that content packs add. -/
  customStats : StringMap R
  vars : StringMap (Variable R)
  alive : Bool
  /-- Why the run is over. -/
  endReason : Option String
  /-- Whether an authored ending closed the run. -/
  ended : Bool
  turn : Nat
  /-- Factors on the changes of stats. -/
  multipliers : StringMap R
  statuses : List ActiveStatus
  inventory : List String
  tags : List String
  talents : List TalentRef
  /-- The events that have taken place. -/
  triggered : StringSet
  /-- The locked events that may take place. -/
  unlocked : StringSet
  /-- The choices that have been made. -/
  chosen : StringSet
  /-- Factors on the weights of events with a tag. -/
  tagOdds : StringMap R
  eventModifiers : List (EventModifier R)
  log : Log
deriving BEq

namespace Life

variable {R : Type}

/-- The largest number of a turn. -/
def maxTurn : Nat := 4294967295

/-- How many lines a log keeps unless it is said otherwise. -/
def defaultLogCapacity : Nat := 50

/-- A life that begins, with an empty log. -/
def fresh [Scalar R] (logCapacity : Nat) : Life R where
  stats := .initial
  customStats := .empty
  vars := .empty
  alive := true
  endReason := none
  ended := false
  turn := 0
  multipliers := .empty
  statuses := []
  inventory := []
  tags := []
  talents := []
  triggered := .empty
  unlocked := .empty
  chosen := .empty
  tagOdds := .empty
  eventModifiers := []
  log := .empty logCapacity

instance [Scalar R] : Inhabited (Life R) := ⟨fresh defaultLogCapacity⟩

/-- The phase that the run is in. -/
def phase (life : Life R) : Phase :=
  if life.alive then .active else if life.ended then .ended else .dead

/-- Whether the run goes on. -/
def isActive (life : Life R) : Bool := life.phase = .active

/-! ### Stats by name -/

/-- The name under which the turn counter is read. -/
def turnStat : String := "turn"

/-- The value of the stat with a name. -/
def stat? [Scalar R] (life : Life R) (name : String) : Option R :=
  if name = turnStat then some (Scalar.ofNat life.turn)
  else
    match CoreStat.ofName? name with
    | some stat => some (life.stats.get stat)
    | none => life.customStats.get? name

/-- Changes the stat with a name; none when it is no stat that can be written. -/
def updateStat? (life : Life R) (name : String) (f : R → R) : Option (Life R) :=
  match CoreStat.ofName? name with
  | some stat => some { life with stats := life.stats.set (f (life.stats.get stat)) stat }
  | none =>
    (life.customStats.get? name).map fun value ↦
      { life with customStats := life.customStats.insert name (f value) }

/-- Gives the stat with a name a value. -/
def setStat? (life : Life R) (name : String) (value : R) : Option (Life R) :=
  life.updateStat? name fun _ ↦ value

/-- The world view with the highest stat. -/
def dominantView [Scalar R] (life : Life R) : Worldview := Worldview.dominant life.stats

/-! ### What a life holds -/

/-- Whether a status effect is in force. -/
def hasStatus (life : Life R) (id : String) : Bool := life.statuses.any fun s ↦ s.id = id

/-- Whether a tag is held. -/
def hasTag (life : Life R) (tag : String) : Bool := life.tags.contains tag

/-- Whether an item is carried. -/
def hasItem (life : Life R) (item : String) : Bool := life.inventory.contains item

/-- Whether the life began with a talent. -/
def hasTalent (life : Life R) (id : String) : Bool := life.talents.any fun t ↦ t.id = id

/-! ### The log -/

/-- Writes a line to the log. -/
def note (life : Life R) (kind : LogKind) (title : Option String) (text : String) : Life R :=
  { life with log := life.log.push life.turn kind title text }

end Life

end LifeStory
