import LifeStory.Scalar

/-!
# Stats

The eleven stats that every life has, and the four of them that are world views. A stat is known
by its name; `CoreStat.ofName?` and `CoreStat.name` are inverse to each other.
-/

namespace LifeStory

/-- The stats that every life has. -/
inductive CoreStat where
  | health
  | sanity
  | money
  | logic
  | gnosis
  | weirdness
  | irony
  | fame
  | anonymity
  | exposure
  | age
deriving DecidableEq, Repr

namespace CoreStat

/-- The stats in the order in which they are written. -/
def all : List CoreStat :=
  [health, sanity, money, logic, gnosis, weirdness, irony, fame, anonymity, exposure, age]

/-- The name of a stat. -/
def name : CoreStat → String
  | health => "health"
  | sanity => "sanity"
  | money => "money"
  | logic => "logic"
  | gnosis => "gnosis"
  | weirdness => "weirdness"
  | irony => "irony"
  | fame => "fame"
  | anonymity => "anonymity"
  | exposure => "exposure"
  | age => "age"

/-- The stat with a name. -/
def ofName? (s : String) : Option CoreStat := all.find? fun stat ↦ stat.name = s

/-- Every stat is found under its name. -/
@[simp] theorem ofName?_name (stat : CoreStat) : ofName? stat.name = some stat := by
  cases stat <;> rfl

/-- No stat is found but under its name. -/
theorem name_of_ofName? {s : String} {stat : CoreStat} (h : ofName? s = some stat) :
    stat.name = s := by
  simpa using List.find?_some h

end CoreStat

/-- A value for each stat that every life has. -/
structure Stats (R : Type) where
  health : R
  sanity : R
  money : R
  logic : R
  gnosis : R
  weirdness : R
  irony : R
  fame : R
  anonymity : R
  exposure : R
  age : R
deriving BEq, Repr

namespace Stats

variable {R : Type}

/-- The value of a stat. -/
def get (s : Stats R) : CoreStat → R
  | .health => s.health
  | .sanity => s.sanity
  | .money => s.money
  | .logic => s.logic
  | .gnosis => s.gnosis
  | .weirdness => s.weirdness
  | .irony => s.irony
  | .fame => s.fame
  | .anonymity => s.anonymity
  | .exposure => s.exposure
  | .age => s.age

/-- Gives a stat a value. -/
def set (s : Stats R) (value : R) : CoreStat → Stats R
  | .health => { s with health := value }
  | .sanity => { s with sanity := value }
  | .money => { s with money := value }
  | .logic => { s with logic := value }
  | .gnosis => { s with gnosis := value }
  | .weirdness => { s with weirdness := value }
  | .irony => { s with irony := value }
  | .fame => { s with fame := value }
  | .anonymity => { s with anonymity := value }
  | .exposure => { s with exposure := value }
  | .age => { s with age := value }

@[simp] theorem get_set_self (s : Stats R) (value : R) (stat : CoreStat) :
    (s.set value stat).get stat = value := by
  cases stat <;> rfl

/-- To set a stat leaves the others. -/
theorem get_set_of_ne (s : Stats R) (value : R) {stat other : CoreStat} (h : stat ≠ other) :
    (s.set value stat).get other = s.get other := by
  cases stat <;> cases other <;> simp_all [get, set]

/-- The stats of a life that begins. -/
def initial [Scalar R] : Stats R where
  health := 100.0
  sanity := 100.0
  money := 500.0
  logic := 10.0
  gnosis := 0.0
  weirdness := 0.0
  irony := 5.0
  fame := 0.0
  anonymity := 100.0
  exposure := 0.0
  age := 0.0

end Stats

/-- The stats between which a life's view of the world is decided. -/
inductive Worldview where
  | logic
  | gnosis
  | weirdness
  | irony
deriving DecidableEq, Repr

namespace Worldview

/-- The world views; of equal ones the first dominates. -/
def all : List Worldview := [logic, gnosis, weirdness, irony]

/-- The stat that measures a world view. -/
def stat : Worldview → CoreStat
  | logic => .logic
  | gnosis => .gnosis
  | weirdness => .weirdness
  | irony => .irony

/-- A world view has the name of its stat. -/
def name (view : Worldview) : String := view.stat.name

/-- The world view with a name. -/
def ofName? (s : String) : Option Worldview := all.find? fun view ↦ view.name = s

/-- The world view with the highest stat, the first of equal ones. -/
def dominant {R : Type} [Scalar R] (s : Stats R) : Worldview :=
  [gnosis, weirdness, irony].foldl (fun best view ↦
    if s.get best.stat < s.get view.stat then view else best) logic

end Worldview

end LifeStory
