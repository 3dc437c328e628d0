import LifeStory.Proofs.Numbering
import LifeStory.Proofs.Phases
import LifeStory.Scalar.Float

/-!
# After the end

Nothing happens to a run that is over. A session asked to go on with it answers that nothing
happened (`TurnReport.quiet`) or that the run is over, takes back what it had offered at most, and
leaves the life, the sink and all streams as they are. Once an ending has closed the run, no other
ending can.

A quiet report quotes the lines of the log from the next number on. In a life that a run has reached
there are none (`Log.Holds.since_nextSeq`), as long as the numbers do not run out.
-/

namespace LifeStory

variable {R A G : Type}

/-- The report on a turn in which nothing happens. -/
def TurnReport.quiet (life : Life R) : TurnReport R where
  turn := life.turn
  phase := life.phase
  event := none
  choice := none
  bucket := none
  debt := none
  death := none
  traces := []
  entries := life.log.since life.log.nextSeq

theorem Life.isActive_of_over {life : Life R} (h : life.phase ≠ .active) :
    life.isActive = false :=
  decide_eq_false h

namespace World

variable [Scalar R] [AchievementSink A] [RandomSource G] {setting : Setting R} {world : World R A G}

/-- A turn over a run that has ended is quiet, and changes nothing. -/
theorem runTurn_of_not_active (h : world.life.isActive = false) :
    world.runTurn setting = (.quiet world.life, world) := by
  have hadvance : world.advance setting = (.idle, world) := advance_of_over h
  rw [runTurn_of_over (by rw [hadvance]; exact h), hadvance]
  rfl

/-- A player is told that the run is over, and nothing changes. -/
theorem beginManual_of_not_active (h : world.life.isActive = false) :
    world.beginManual setting = (⟨.quiet world.life, .runOver⟩, world) := by
  have hadvance : world.advance setting = (.idle, world) := advance_of_over h
  rw [beginManual_of_over (by rw [hadvance]; exact h), hadvance]
  rfl

theorem triggerEnding_of_ended (h : world.life.phase = .ended) (id : String) :
    world.onScene (fun scene ↦ scene.triggerEnding setting.catalog id) = (false, world) := by
  rw [onScene, Scene.triggerEnding_of_ended h]
  rfl

end World

namespace Session

variable [Scalar R] [AchievementSink A] [SeededSource G]

/-- **A run that is over stands still.** Of a session whose run is not active no call changes the
life, the sink or a stream; what was offered is taken back at most. Turns are quiet, none is played
until the run is over, a turn of the player offers nothing, answers are refused, and after an ending
no other ending is told. A quiet report has no lines in a life that was reached from the beginning
of a run, as long as the numbers of the lines have not run out at `Log.maxSeq`. -/
theorem stands_still_when_over (session : Session R A G) (h : session.life.phase ≠ .active) :
    session.runTurn = (.quiet session.life, session.moveOn session.world) ∧
      (∀ turns, session.runUntilOver turns = ([], session)) ∧
      session.beginManual =
        (⟨.quiet session.life, .runOver⟩, session.moveOn session.world) ∧
      (∀ id, session.choose id = (.error (.runNotActive session.life.phase), session)) ∧
      session.timePasses =
        (.error (.runNotActive session.life.phase), session.moveOn session.world) ∧
      (session.life.phase = .ended → ∀ id,
        session.triggerEnding id = (false, session.moveOn session.world)) ∧
      (Life.Reached A G session.life → session.life.log.nextSeq < Log.maxSeq →
        (TurnReport.quiet session.life).entries = []) := by
  have hover : session.world.life.isActive = false := Life.isActive_of_over h
  have hnot : ¬ session.life.isActive = true := ne_true_of_eq_false hover
  refine ⟨?_, fun turns ↦ runUntilOver_of_over hover turns, ?_, fun id ↦ if_neg hnot, if_neg hnot,
    fun hended id ↦ ?_, ?_⟩
  · rw [runTurn, World.runTurn_of_not_active hover]
    rfl
  · rw [beginManual, World.beginManual_of_not_active hover]
    rfl
  · rw [triggerEnding, World.triggerEnding_of_ended hended]
  · intro hreached hroom
    obtain ⟨total, htotal⟩ := hreached.holds
    exact htotal.since_nextSeq hroom

/-- A run without content that was closed right after it began stands still, a turn of it has no
lines to report, and it is not closed again. -/
theorem stands_still_after_home :
    let session : Session Float Ledger Xoshiro :=
      ((begin ⟨.ofBase .empty, .default⟩ 7 ⟨.empty, []⟩ []).triggerEnding "home").2
    session.life.phase ≠ .active ∧ session.runTurn.2.world = session.world ∧
      session.runTurn.1.entries = [] ∧ (session.triggerEnding "away").1 = false := by
  intro session
  have hover : session.life.phase ≠ .active := by decide
  have hroom : session.life.log.nextSeq < Log.maxSeq := by decide
  have hreached : Life.Reached Ledger Xoshiro session.life :=
    .called _ (.move (.triggerEnding "home")) (.begun _ _ _ _)
  obtain ⟨hturn, -, -, -, -, hended, hentries⟩ := stands_still_when_over session hover
  rw [hturn, hended (by decide) "away"]
  exact ⟨hover, rfl, hentries hreached hroom, rfl⟩

end Session

end LifeStory
