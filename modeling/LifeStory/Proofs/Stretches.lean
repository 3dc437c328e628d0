import LifeStory.Proofs.Lifetimes
import LifeStory.Proofs.TurnCounter
import LifeStory.Trial.Play

/-!
# Stretches of turns without a player

A stretch of turns that is played without a player may be cut anywhere: to play some turns and then
some more is to play them all (`Session.runUntilOver_add`). What carries this is that a run that is
over stands still, so that the part after the end of a run adds nothing.

What the reports of a stretch tell (`Session.Covers`) follows from single turns. A turn of an active
run moves the turn counter by one and is reported with the turn and the phase that it leaves the
life in, and the next turn is played only if that phase is active. A trial plays the same stretch
and takes down the same reports (`Trial.playAlone_eq_runUntilOver`).
-/

namespace LifeStory

namespace Session

variable {R A G : Type} [Scalar R] [AchievementSink A] [RandomSource G]

/-! ### Cutting a stretch -/

/-- **A stretch of turns may be cut anywhere.** -/
theorem runUntilOver_add (session : Session R A G) (m n : Nat) :
    session.runUntilOver (m + n) =
      ((session.runUntilOver m).1 ++ ((session.runUntilOver m).2.runUntilOver n).1,
        ((session.runUntilOver m).2.runUntilOver n).2) := by
  induction m generalizing session with
  | zero => rw [Nat.zero_add]; rfl
  | succ m ih =>
    rw [Nat.succ_add]
    cases hactive : session.life.isActive with
    | true =>
      rw [runUntilOver_of_active hactive, runUntilOver_of_active hactive, ih]
      rfl
    | false =>
      rw [runUntilOver_of_over hactive, runUntilOver_of_over hactive, runUntilOver_of_over hactive]
      rfl

/-! ### What a stretch tells -/

/-- A report tells the turn and the phase that it leaves the life in. -/
theorem report_runTurn (session : Session R A G) :
    session.runTurn.1.turn = session.runTurn.2.life.turn ∧
      session.runTurn.1.phase = session.runTurn.2.life.phase :=
  ⟨rfl, rfl⟩

/-- A turn of an active run is the one after the last. -/
theorem turn_runTurn_of_active {session : Session R A G} (h : session.life.isActive = true)
    (hroom : session.life.turn < Life.maxTurn) :
    session.runTurn.2.life.turn = session.life.turn + 1 := by
  have hnext : session.runTurn.2.life.turn = session.life.nextTurn := session.world.turn_runTurn
  rw [hnext, Life.nextTurn_of_active h, succUpTo_of_lt hroom]

/-- What is reported was played in an active run. -/
theorem isActive_of_reported {session : Session R A G} {turns : Nat}
    (h : (session.runUntilOver turns).1 ≠ []) : session.life.isActive = true := by
  refine Bool.not_eq_false _ ▸ fun hover ↦ h ?_
  rw [runUntilOver_of_over hover]

/-- Where nothing is reported, nothing was played. -/
theorem runUntilOver_of_unreported {session : Session R A G} {turns : Nat}
    (h : (session.runUntilOver turns).1 = []) : (session.runUntilOver turns).2 = session := by
  cases turns with
  | zero => rfl
  | succ turns =>
    cases hactive : session.life.isActive with
    | true =>
      rw [runUntilOver_of_active hactive] at h
      cases h
    | false => rw [runUntilOver_of_over hactive]

/-- Reports on the turns that were played from one session to another, up to a limit. -/
structure Covers (session : Session R A G) (limit : Nat) (reports : List (TurnReport R))
    (after : Session R A G) : Prop where
  length_le : reports.length ≤ limit
  /-- The turns are counted on, as long as there are numbers for them. -/
  turns : session.life.turn + reports.length ≤ Life.maxTurn →
    reports.map TurnReport.turn = List.range' (session.life.turn + 1) reports.length
  active : ∀ report ∈ reports.dropLast, report.phase = .active
  last : ∀ report ∈ reports.getLast?, report.phase = after.life.phase
  /-- Only a run that is over is played for fewer turns. -/
  stopped : reports.length < limit → after.life.phase ≠ .active

omit [Scalar R] [AchievementSink A] [RandomSource G] in
theorem Covers.none (session : Session R A G) {limit : Nat}
    (h : 0 < limit → session.life.phase ≠ .active) : session.Covers limit [] session where
  length_le := Nat.zero_le limit
  turns _ := rfl
  active := nofun
  last := nofun
  stopped := h

/-- A turn of an active run comes before those that are played after it. -/
theorem Covers.cons {session after : Session R A G} {limit : Nat} {reports : List (TurnReport R)}
    (hactive : session.life.isActive = true) (h : session.runTurn.2.Covers limit reports after)
    (hgoes : reports ≠ [] → session.runTurn.2.life.isActive = true)
    (hstands : reports = [] → after = session.runTurn.2) :
    session.Covers (limit + 1) (session.runTurn.1 :: reports) after := by
  obtain ⟨hturn, hphase⟩ := session.report_runTurn
  refine ⟨Nat.succ_le_succ h.length_le, fun hroom ↦ ?_, ?_, ?_,
    fun hfewer ↦ h.stopped (Nat.lt_of_succ_lt_succ hfewer)⟩
  · rw [List.length_cons] at hroom
    have hnext := turn_runTurn_of_active hactive (by omega)
    have hrest := h.turns (by omega)
    rw [List.map_cons, List.length_cons, List.range'_succ, hrest, hturn, hnext]
  -- Only the report on the last turn may tell of another phase.
  · cases reports with
    | nil => exact nofun
    | cons next rest =>
      rw [List.dropLast_cons_cons]
      refine List.forall_mem_cons.2 ⟨?_, h.active⟩
      rw [hphase]
      exact of_decide_eq_true (hgoes (List.cons_ne_nil _ _))
  · cases reports with
    | nil =>
      rintro report ⟨⟩
      rw [hstands rfl]
      exact hphase
    | cons next rest =>
      rw [List.getLast?_cons_cons]
      exact h.last

/-- **The reports of a stretch cover it.** -/
theorem covers_runUntilOver (session : Session R A G) (turns : Nat) :
    session.Covers turns (session.runUntilOver turns).1 (session.runUntilOver turns).2 := by
  induction turns generalizing session with
  | zero => exact .none session fun h ↦ absurd h (Nat.lt_irrefl 0)
  | succ turns ih =>
    cases hactive : session.life.isActive with
    | true =>
      rw [runUntilOver_of_active hactive]
      exact (ih session.runTurn.2).cons hactive isActive_of_reported runUntilOver_of_unreported
    | false =>
      rw [runUntilOver_of_over hactive]
      exact .none session fun _ ↦ of_decide_eq_false hactive

end Session

/-! ### Trials -/

namespace Trial

theorem reports_chronicleTurn (run : Run) (report : TurnReport Float) :
    (chronicleTurn run report).reports = [report] := by
  cases hmove : moveOfReport? report with
  | none => rw [chronicleTurn, hmove]; rfl
  | some move => rw [chronicleTurn, hmove]; rfl

/-- **A trial without a player plays as a session does**, and takes down what it reports. -/
theorem playAlone_eq_runUntilOver (turns : Nat) (run : Run) :
    ((playAlone turns run).1.reports, (playAlone turns run).2) = run.runUntilOver turns := by
  induction turns generalizing run with
  | zero => rfl
  | succ turns ih =>
    cases hactive : run.life.isActive with
    | true =>
      rw [Session.runUntilOver_of_active hactive, ← ih, playAlone, if_pos hactive]
      refine Prod.ext ?_ rfl
      show (chronicleTurn run.runTurn.2 run.runTurn.1).reports ++ _ = _
      rw [reports_chronicleTurn]
      rfl
    | false =>
      rw [Session.runUntilOver_of_over hactive, playAlone, if_neg (ne_true_of_eq_false hactive)]
      rfl

end Trial

namespace Session

/-- **Stretches of turns compose.** For every session and all numbers of turns:
* to play `m + n` turns is to play `m` turns and then `n`, and the reports are those of both parts;
* the turns of the reports follow on the one that the life is in, all reports but the last tell of
  an active run, and there are fewer of them than turns that were asked for only if the run is over;
* a trial without a player takes down the same reports, and leaves the same session. -/
theorem stretches_compose {R A G : Type} [Scalar R] [AchievementSink A] [RandomSource G]
    (session : Session R A G) (m n : Nat) (run : Trial.Run) :
    session.runUntilOver (m + n) =
        ((session.runUntilOver m).1 ++ ((session.runUntilOver m).2.runUntilOver n).1,
          ((session.runUntilOver m).2.runUntilOver n).2) ∧
      session.Covers m (session.runUntilOver m).1 (session.runUntilOver m).2 ∧
      (Trial.playAlone m run).1.reports = (run.runUntilOver m).1 ∧
      (Trial.playAlone m run).2 = (run.runUntilOver m).2 := by
  obtain ⟨hreports, hstopped⟩ := Prod.ext_iff.1 (Trial.playAlone_eq_runUntilOver m run)
  exact ⟨session.runUntilOver_add m n, session.covers_runUntilOver m, hreports, hstopped⟩

/-- Three quiet turns are the first, the second and the third, and were active until the last, also
if one has looked at the life after two of them. -/
theorem three_quiet_turns_are_counted :
    let session : Trial.Run :=
      idle ⟨.ofBase .empty, .default⟩ ⟨Life.fresh 50, ⟨.empty, []⟩, .ofSeed 7⟩
    (session.runUntilOver 3).1.map TurnReport.turn = [1, 2, 3] ∧
      (∀ report ∈ (session.runUntilOver 3).1.dropLast, report.phase = .active) ∧
      (session.runUntilOver 3).1 =
        (session.runUntilOver 2).1 ++ ((session.runUntilOver 2).2.runUntilOver 1).1 := by
  intro session
  have hlength : (session.runUntilOver 3).1.length = 3 := by decide +kernel
  obtain ⟨-, hcovers, -, -⟩ := stretches_compose session 3 0 session
  have hturns := hcovers.turns (by rw [hlength]; decide)
  rw [hlength] at hturns
  obtain ⟨hcut, -⟩ := stretches_compose session 2 1 session
  exact ⟨hturns, hcovers.active, congrArg Prod.fst hcut⟩

end Session

end LifeStory
