import LifeStory.Session

/-!
# Chronicles

What is taken down while a trial is played: the reports, the choices that were made and by whom,
the sizes of the offers, and the tags that were held together although they exclude each other.
Chronicles of consecutive parts of a run are joined by `append`.
-/

namespace LifeStory.Trial

/-- A run that a trial plays. -/
abbrev Run : Type := Session Float Ledger Xoshiro

/-- A choice that was made, whoever made it. -/
structure Move where
  turn : Nat
  event : String
  choice : String
  /-- Who made the choice. -/
  player : String
  /-- How many choices there were. -/
  offered : Nat
  /-- What the choice was made by, where there is something to say. -/
  rationale : Option String
deriving DecidableEq, Repr

/-- Two tags that were held together in a turn although they exclude each other. -/
structure TagClash where
  turn : Nat
  first : String
  second : String
deriving DecidableEq, Repr

/-- A clash in text. -/
def TagClash.text (clash : TagClash) : String :=
  "turn " ++ toString clash.turn ++ ": " ++ clash.first ++ " + " ++ clash.second

/-- The pairs of tags of a list that exclude each other, the one that comes first named first. -/
def excludingPairs (table : Exclusions) : List String → List (String × String)
  | [] => []
  | tag :: rest =>
    ((rest.filter (table.exclusive tag)).map fun other ↦ (tag, other)) ++ excludingPairs table rest

/-- The tags that a life holds together although they exclude each other. -/
def tagClashes {R : Type} (catalog : Catalog R) (life : Life R) : List TagClash :=
  (excludingPairs catalog.exclusions life.tags).map fun (first, second) ↦
    ⟨life.turn, first, second⟩

/-- What is taken down of a part of a run. -/
structure Chronicle where
  reports : List (TurnReport Float)
  moves : List Move
  /-- The sizes of the offers that had choices. -/
  offerSizes : List Nat
  clashes : List TagClash

namespace Chronicle

/-- Nothing to take down. -/
def empty : Chronicle := ⟨[], [], [], []⟩

/-- A part of a run and the one after it. -/
def append (a b : Chronicle) : Chronicle :=
  ⟨a.reports ++ b.reports, a.moves ++ b.moves, a.offerSizes ++ b.offerSizes,
    a.clashes ++ b.clashes⟩

/-- Takes down a report, and the clashes in the run as it is then. -/
def ofReport (run : Run) (report : TurnReport Float) : Chronicle :=
  ⟨[report], [], [], tagClashes run.setting.catalog run.life⟩

/-- Takes down that a choice was made. -/
def ofMove (move : Move) : Chronicle := ⟨[], [move], [], []⟩

/-- Takes down the size of an offer. -/
def ofOffer (size : Nat) : Chronicle := ⟨[], [], [size], []⟩

/-- The events that took place. -/
def eventsSeen (chronicle : Chronicle) : StringSet :=
  .ofNames (chronicle.reports.filterMap TurnReport.event)

end Chronicle

end LifeStory.Trial
