/-!
# The narrative log

A log keeps the latest lines of a life. Lines are numbered from zero without gaps, and the oldest
line goes when there is no room for a new one.
-/

namespace LifeStory

/-- What a line of the log tells about. -/
inductive LogKind where
  | event
  | choice
  | feedback
  | system
  | ending
deriving DecidableEq, Repr

namespace LogKind

/-- All kinds. -/
def all : List LogKind := [event, choice, feedback, system, ending]

/-- The name of a kind. -/
def name : LogKind → String
  | event => "event"
  | choice => "choice"
  | feedback => "feedback"
  | system => "system"
  | ending => "ending"

end LogKind

/-- A line of the log. -/
structure LogEntry where
  /-- The number of the line. -/
  seq : Nat
  turn : Nat
  kind : LogKind
  title : Option String
  text : String
deriving DecidableEq, Repr

/-- Adds one to a counter that stays at its limit. -/
def succUpTo (limit n : Nat) : Nat := if n < limit then n + 1 else n

/-- The latest lines of a life. -/
structure Log where
  /-- The lines, the oldest first. -/
  entries : List LogEntry
  /-- How many lines are kept; one is kept in every case. -/
  capacity : Nat
  /-- The number of the next line. -/
  nextSeq : Nat
deriving DecidableEq, Repr

namespace Log

/-- The largest number of a line. -/
def maxSeq : Nat := 18446744073709551615

/-- A log without lines. -/
def empty (capacity : Nat) : Log := ⟨[], max capacity 1, 0⟩

/-- Writes a line; the oldest lines go until the new one has room. -/
def push (log : Log) (turn : Nat) (kind : LogKind) (title : Option String) (text : String) :
    Log :=
  { log with
    entries := log.entries.drop (log.entries.length + 1 - max log.capacity 1)
      ++ [⟨log.nextSeq, turn, kind, title, text⟩]
    nextSeq := succUpTo maxSeq log.nextSeq }

/-- The lines that are still kept, from the one with the given number on. -/
def since (log : Log) (seq : Nat) : List LogEntry := log.entries.filter fun e ↦ seq ≤ e.seq

end Log

end LifeStory
