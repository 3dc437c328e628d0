import LifeStory.Candidate
import LifeStory.ChoiceDraw
import LifeStory.EventDraw
import LifeStory.Status

/-!
# Reports of turns

What a player is told about a turn: what happened, why (the traces of the draws), and the lines
that were written to the log meanwhile.
-/

namespace LifeStory

/-- What the passing of time did. -/
structure Advance where
  status : StatusTick
  /-- How many modifiers ran out. -/
  modifiersExpired : Nat
  death : Option DeathCause
deriving DecidableEq, Repr

/-- Time stood still. -/
def Advance.idle : Advance := ⟨.idle, 0, none⟩

/-- What happened in a turn. -/
structure TurnReport (R : Type) where
  turn : Nat
  phase : Phase
  /-- The event that took place. -/
  event : Option String
  /-- The id of the choice that was made. -/
  choice : Option String
  /-- The position of the bucket that was drawn. -/
  bucket : Option Nat
  debt : Option DebtChange
  death : Option DeathCause
  traces : List (Trace R)
  /-- The lines that were written, the oldest first. -/
  entries : List LogEntry
deriving BEq, Repr

namespace TurnReport

variable {R : Type}

/-- A report on nothing. -/
def blank : TurnReport R := ⟨0, .active, none, none, none, none, none, [], []⟩

/-- Takes down what the passing of time did. -/
def absorb (report : TurnReport R) (advance : Advance) : TurnReport R :=
  { report with debt := advance.status.debt, death := advance.death }

/-- Takes down how a life stands, and its lines from the given number on. -/
def close (report : TurnReport R) (life : Life R) (since : Nat) : TurnReport R :=
  { report with turn := life.turn, phase := life.phase, entries := life.log.since since }

end TurnReport

/-- What a player may do. -/
inductive Offer (R : Type) where
  /-- One of these choices. -/
  | candidates (offered : List (Candidate R))
  /-- Nothing but to let time pass. -/
  | timePasses
  /-- Nothing any more. -/
  | runOver

namespace Offer

variable {R : Type}

/-- The choices that are offered. -/
def pending : Offer R → List (Candidate R)
  | candidates offered => offered
  | _ => []

end Offer

/-- A report, and what the player may do next. -/
structure ManualTurn (R : Type) where
  report : TurnReport R
  offer : Offer R

/-- The choice to let time pass. -/
def timePassesChoice {R : Type} : Choice R := .plain (some "system_time_passes") "Let time pass"

end LifeStory
