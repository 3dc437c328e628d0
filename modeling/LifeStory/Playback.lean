import LifeStory.Narration
import LifeStory.Slots

/-!
# Playback

A playback plays a run without a player, one turn a tick, and shows the lines of the log as they
are written. It begins with a new run or with a save, and may leave a save behind. Before the first
turn it shows the lines that the log already has.
-/

namespace LifeStory

/-- What is played back, and how. -/
structure Playback where
  seed : UInt64
  /-- The milliseconds between turns. -/
  tick : Nat
  maxTurns : Nat
  talents : List String
  /-- The slot to go on from; a new run begins if there is none. -/
  resume : Option String
  /-- The slot that is written when play stops. -/
  save : Option String
  /-- Whether lines are shown in the style of their kind. -/
  styled : Bool

namespace Playback

/-- What is known of a playback. -/
structure Summary where
  turnsPlayed : Nat
  finalTurn : Nat
  phase : Phase
  reason : Option String
deriving DecidableEq, Repr

/-- What is known of a playback, in a document. A playback that is given here went on to its end. -/
def Summary.toJson (summary : Summary) : Json :=
  .object [("turns_played", .ofNat summary.turnsPlayed), ("final_turn", .ofNat summary.finalTurn),
    ("lifecycle", .string summary.phase.name),
    ("reason", .ofOption .string summary.reason), ("interrupted", .bool false)]

/-- Why a playback cannot be had. -/
inductive Trouble where
  | library (reason : LibraryError)
  /-- There is no save to go on from. -/
  | emptySlot (slot : String)
  /-- The lines cannot be shown. -/
  | outletClosed

/-- What is reported. -/
def Trouble.message : Trouble → String
  | library reason => reason.message
  | emptySlot slot => "save slot `" ++ slot ++ "` is empty"
  | outletClosed => "failed to write output"

variable {m : Type → Type} [Monad m] [Host m]

/-- The lines that are shown for entries of the log. -/
def lines (playback : Playback) (colours : Bool) (entries : List LogEntry) : String :=
  String.join (entries.map fun entry ↦
    (if playback.styled then entry.styledLine colours else entry.line) ++ "\n")

/-- Shows entries of the log. An outlet says whether it took a text. -/
def tell (playback : Playback) (outlet : String → m Bool) (entries : List LogEntry) :
    ExceptT Trouble m Unit := do
  let text := playback.lines (← Host.colours (m := m)) entries
  if ← outlet text then return else throw .outletClosed

/-- The run to play: a new one, or that of a slot. -/
def start (playback : Playback) (setting : Setting Float) (slots : Slots) :
    ExceptT Trouble m (Session Float Ledger Xoshiro) := do
  match playback.resume with
  | none => return .beginWithLedger setting playback.seed playback.talents
  | some slot =>
    match ← (slots.resume? (m := m) setting slot playback.seed).run with
    | .error reason => throw (.library reason)
    | .ok none => throw (.emptySlot slot)
    | .ok (some session) => return session

/-- Plays turns until the run is over, at most as many as given; counts those played. -/
def playOn (playback : Playback) (outlet : String → m Bool) :
    Nat → Nat → Session Float Ledger Xoshiro →
      ExceptT Trouble m (Nat × Session Float Ledger Xoshiro)
  | 0, played, session => return (played, session)
  | turns + 1, played, session => do
    if session.life.isActive then
      if played ≠ 0 then Host.pause (m := m) playback.tick
      let (report, session) := session.runTurn
      playback.tell outlet report.entries
      playOn playback outlet turns (played + 1) session
    else return (played, session)

/-- Plays a run back. -/
def run (playback : Playback) (setting : Setting Float) (slots : Slots)
    (outlet : String → m Bool) : ExceptT Trouble m Summary := do
  let session ← playback.start setting slots
  playback.tell outlet session.life.log.entries
  let (played, session) ← playback.playOn outlet playback.maxTurns 0 session
  if let some slot := playback.save then
    if let .error reason ← (slots.save (m := m) slot session.life).run then
      throw (.library reason)
  return ⟨played, session.life.turn, session.life.phase, session.life.endReason⟩

end Playback

end LifeStory
