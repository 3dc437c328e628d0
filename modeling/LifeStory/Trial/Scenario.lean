import LifeStory.Text.Blank
import LifeStory.Trial.Play

/-!
# Scenarios

A scenario is a plan and what is expected of it. An expectation is a list of checks; the first
check that a summary fails says what is wrong (`Scenario.complaint?`). The scenarios that there are
can be looked up by name (`Scenario.ofName?`).
-/

namespace LifeStory.Trial

/-- What is wrong with a summary, if something is. -/
abbrev Check : Type := Summary → Option String

/-- A complaint, unless the condition holds. -/
def complainUnless (condition : Bool) (complaint : String) : Option String :=
  if condition then none else some complaint

/-- A plan and what is expected of it. -/
structure Scenario where
  name : String
  description : String
  plan : Plan
  checks : List Check

namespace Scenario

/-- The first complaint about a summary. -/
def complaint? (scenario : Scenario) (summary : Summary) : Option String :=
  scenario.checks.findSome? fun check ↦ check summary

/-! ### Checks -/

/-- Turns were played. -/
def someTurns : Check := fun summary ↦
  complainUnless (!summary.chronicle.reports.isEmpty) "no turns were played"

/-- There is a report for every turn. -/
def oneReportATurn : Check := fun summary ↦
  let reports := summary.chronicle.reports.length
  complainUnless (reports = summary.life.turn)
    (toString reports ++ " reports for " ++ toString summary.life.turn ++ " turns")

/-- The log has no more lines than it keeps. -/
def logWithinCapacity : Check := fun summary ↦
  let log := summary.life.log
  complainUnless (log.entries.length ≤ log.capacity)
    ("log holds " ++ toString log.entries.length ++ " entries over capacity "
      ++ toString log.capacity)

/-- The numbers of the lines increase. -/
def logIncreasing : Check := fun summary ↦
  let numbers := summary.life.log.entries.map LogEntry.seq
  complainUnless ((numbers.zip (numbers.drop 1)).all fun (a, b) ↦ a < b)
    "log sequence numbers are not increasing"

/-- The run is over. -/
def runIsOver : Check := fun summary ↦
  complainUnless (!summary.life.isActive)
    ("run still active after " ++ toString summary.life.turn ++ " turns")

/-- The age that no life grows past. -/
def ageLimit : Float := 100.5

/-- The life has not grown too old. -/
def withinAge : Check := fun summary ↦
  complainUnless (summary.life.stats.age ≤ ageLimit)
    ("aged past the limit: " ++ Decimal.plainText summary.life.stats.age)

/-- The last line of the log is that of an ending. -/
def endsWithEnding : Check := fun summary ↦
  complainUnless ((summary.life.log.entries.getLast?.map LogEntry.kind) = some .ending)
    "the final log entry is not an ending"

/-- A second run was the same. -/
def replayed : Check := fun summary ↦
  complainUnless (summary.replayConsistent = some true)
    ("replaying seed " ++ toString summary.seed.toNat ++ " diverged")

/-- Debt was entered on the first turn. -/
def debtAtOnce : Check := fun summary ↦
  complainUnless (((summary.chronicle.reports.head?).bind TurnReport.debt) = some .entered)
    "debt was not entered on the first turn"

/-- The run is over because of debt. -/
def diesOfDebt : Check := fun summary ↦
  complainUnless (summary.reason = "debt") ("expected a debt death, got " ++ summary.reason)

/-- An achievement was unlocked. -/
def unlocks (id complaint : String) : Check := fun summary ↦
  complainUnless (summary.unlocked.contains id) complaint

/-- A player made choices. -/
def someMoves : Check := fun summary ↦
  complainUnless (!summary.chronicle.moves.isEmpty) "no manual decisions were made"

/-- Every offer has a choice, and no more than the limit. -/
def offersWithinLimit : Check := fun summary ↦
  let limit := summary.offerLimit
  complainUnless (summary.chronicle.offerSizes.all fun size ↦ 1 ≤ size && size ≤ limit)
    ("an offer exceeded " ++ toString limit ++ " candidates")

/-- No tags that exclude each other were held together. -/
def noClashes : Check := fun summary ↦
  complainUnless summary.chronicle.clashes.isEmpty
    ("exclusive tags held together: "
      ++ String.intercalate ", " (summary.chronicle.clashes.map TagClash.text))

/-- The run was closed by an ending. -/
def runIsEnded : Check := fun summary ↦
  complainUnless (summary.life.phase = .ended)
    ("run is " ++ summary.life.phase.name ++ " after the finale")

/-- The ending was refused the second time. -/
def endsOnce : Check := fun summary ↦
  complainUnless (summary.finaleRepeatRefused = some true) "the ending was applied twice"

/-- If the ending is the reason why the run is over, it has unlocked an achievement. -/
def endingUnlocks (ending id complaint : String) : Check := fun summary ↦
  if summary.reason = ending then unlocks id complaint summary else none

/-- An event did not take place. -/
def neverSeen (event : String) : Check := fun summary ↦
  complainUnless (!summary.chronicle.eventsSeen.contains event)
    (event ++ " surfaced during play")

/-- A list of names in text. -/
def quoted (names : List String) : String :=
  "[" ++ String.intercalate ", " (names.map fun name ↦ "\"" ++ name ++ "\"") ++ "]"

/-- The life began with exactly these talents. -/
def hasTalents (ids : List String) : Check := fun summary ↦
  let held := summary.life.talents.map TalentRef.id
  complainUnless (held = ids) ("unexpected talents " ++ quoted held)

/-- The life has a stat of a pack. -/
def hasCustomStat (id : String) : Check := fun summary ↦
  complainUnless (summary.life.customStats.contains id)
    ("pack stat \x60" ++ id ++ "\x60 was not seeded")

/-! ### The scenarios -/

/-- The keeping of the log. -/
def smoke : Scenario where
  name := "smoke"
  description := "Short autonomous run with log bookkeeping checks"
  plan := .simple .autonomous 60
  checks := [someTurns, oneReportATurn, logWithinCapacity, logIncreasing]

/-- A whole life. -/
def fullRun : Scenario where
  name := "full-run"
  description := "Autonomous run until the life ends"
  plan := { Plan.simple .autonomous 1000 with talents := ["nobody"] }
  checks := [runIsOver, withinAge, endsWithEnding]

/-- The same run twice. -/
def deterministicReplay : Scenario where
  name := "deterministic-replay"
  description := "Same seed replays identically"
  plan := { Plan.simple .autonomous 200 with talents := ["third_eye"], checksReplay := true }
  checks := [replayed]

/-- A life that is almost at the floor of its debt. -/
def drownInDebt (life : Life Float) : Life Float :=
  { life with stats := { life.stats with money := -4990.0 } }

/-- A life in deep debt. -/
def debtSpiral : Scenario where
  name := "debt-spiral"
  description := "Deep debt is entered and becomes fatal"
  plan := { Plan.simple .autonomous 5 with setup := drownInDebt }
  checks := [debtAtOnce, diesOfDebt, unlocks "broke" "the debt achievement was not unlocked"]

/-- A life that a player plays. -/
def manualPlay : Scenario where
  name := "manual-play"
  description := "Seeded player picks from manual offers"
  plan := .simple .random 150
  checks := [someMoves, offersWithinLimit]

/-- A life that follows one world view. -/
def tagExclusivity : Scenario where
  name := "tag-exclusivity"
  description := "Exclusive tags are never held together"
  plan := { Plan.simple .devout 300 with talents := ["third_eye"] }
  checks := [noClashes]

/-- A life that is closed by an ending. -/
def endingFinalize : Scenario where
  name := "ending-finalize"
  description := "Authored endings close the run exactly once"
  plan := { Plan.simple .cautious 20 with finale := some "awakening" }
  checks := [runIsEnded, endsOnce,
    endingUnlocks "awakening" "awake" "the ending achievement was not unlocked"]

/-- A life in which hidden events do not take place. -/
def hiddenContent : Scenario where
  name := "hidden-content"
  description := "Test and meta events never surface"
  plan := .simple .autonomous 300
  checks := [neverSeen "system_debug_room", neverSeen "meta_title_card"]

/-- A life that begins with talents and the stats of packs. -/
def talentLoadout : Scenario where
  name := "talent-loadout"
  description := "Talents and pack stats seed the run"
  plan := { Plan.simple .firstOffer 1 with talents := ["trust_fund", "unknown_gift", "third_eye"] }
  checks := [hasTalents ["trust_fund", "third_eye"], hasCustomStat "caffeine"]

/-- All scenarios, in the order in which they are listed. -/
def all : List Scenario :=
  [smoke, fullRun, deterministicReplay, debtSpiral, manualPlay, tagExclusivity, endingFinalize,
    hiddenContent, talentLoadout]

/-- A character of a name in lower case. The Kelvin sign is a capital K. -/
def lowerNameChar (c : Char) : Char := if c = '\u212A' then 'k' else c.toLower

/-- A name as scenarios have it: trimmed, in lower case, with hyphens for underscores. -/
def normalName (name : String) : String :=
  (Text.trim name).map fun c ↦ if c = '_' then '-' else lowerNameChar c

/-- The scenario with a name. -/
def ofName? (name : String) : Option Scenario :=
  all.find? fun scenario ↦ scenario.name = normalName name

end Scenario

end LifeStory.Trial
