import LifeStory.Life.Basic

/-!
# Tuning

The settings of a run. A configuration that is read from a document has to be `valid?`; the message
of the first violation names the setting, its bounds and its value.
-/

namespace LifeStory

/-- The stats at which a run ends by itself. -/
structure Thresholds (R : Type) where
  debtFloor : R
  fameCeiling : R
  maxAge : R
deriving BEq, Repr

/-- How a life ages in a turn, and what it loses past certain ages. -/
structure Aging (R : Type) where
  agePerTurn : R
  healthDecayAge : R
  healthDecay : R
  sanityDecayAge : R
  sanityDecay : R
deriving BEq, Repr

/-- The settings of a run. -/
structure Config (R : Type) where
  /-- Whether events for testing may take place. -/
  showTestEvents : Bool
  logCapacity : Nat
  /-- How many choices a manual turn offers. -/
  manualChoiceCount : Nat
  /-- The chance that a special choice is among them. -/
  specialChoiceChance : R
  /-- The upper end of the impulse that is added to the score of a choice. -/
  choiceChaos : R
  thresholds : Thresholds R
  aging : Aging R
deriving BEq, Repr

namespace Config

variable {R : Type} [Scalar R]

/-- The thresholds unless it is said otherwise. -/
def defaultThresholds : Thresholds R where
  debtFloor := 0.0 - 5000.0
  fameCeiling := 100.0
  maxAge := 100.0

/-- The course of ageing unless it is said otherwise. -/
def defaultAging : Aging R where
  agePerTurn := 0.5
  healthDecayAge := 30.0
  healthDecay := 0.1
  sanityDecayAge := 20.0
  sanityDecay := 0.05

/-- The settings unless it is said otherwise. -/
def default : Config R where
  showTestEvents := false
  logCapacity := Life.defaultLogCapacity
  manualChoiceCount := 3
  specialChoiceChance := 0.5
  choiceChaos := 40.0
  thresholds := defaultThresholds
  aging := defaultAging

/-- Why a configuration is refused. -/
inductive Violation (R : Type) where
  | zeroLogCapacity
  /-- A setting is below its least value. -/
  | belowLeast (field : String) (least value : R)
  /-- A setting is outside of its range. -/
  | outsideRange (field : String) (least greatest value : R)
deriving Repr

/-- The first setting that is out of bounds. -/
def violation? (config : Config R) : Option (Violation R) :=
  if config.logCapacity = 0 then some .zeroLogCapacity
  else if ¬ (0.0 ≤ config.specialChoiceChance ∧ config.specialChoiceChance ≤ 1.0) then
    some (.outsideRange "special_choice_chance" 0.0 1.0 config.specialChoiceChance)
  else if ¬ Scalar.isFinite config.choiceChaos ∨ config.choiceChaos < 0.0 then
    some (.belowLeast "choice_chaos" 0.0 config.choiceChaos)
  else if ¬ Scalar.isFinite config.aging.agePerTurn ∨ config.aging.agePerTurn < 0.0 then
    some (.belowLeast "aging.age_per_turn" 0.0 config.aging.agePerTurn)
  else none

/-- The truth value of a switch. -/
def switch? (raw : String) : Option Bool :=
  match Text.asciiLower (Text.trim raw) with
  | "1" | "true" | "yes" | "on" => some true
  | "0" | "false" | "no" | "off" => some false
  | _ => none

/-- The configuration under a switch for the events for testing; a switch that is not set, or not
understood, changes nothing. -/
def withTestSwitch (config : Config R) (raw : Option String) : Config R :=
  { config with showTestEvents := (raw.bind switch?).getD config.showTestEvents }

end Config

end LifeStory
