import LifeStory.Proofs.Lines
import LifeStory.Scalar.Float

/-!
# The log is a window of the narrative

All lines that were written in a run, from its beginning on, are its narrative (`Life.Recorded`).
The log holds the last lines of the narrative, as many as it has room for, with their numbers in a
row, and in the order of their turns (`Log.Window`). The report on a turn has the lines of that turn
that the log still holds. A turn writes five lines at most, and so, where the log has room for five,
the reports on consecutive turns tell the narrative, without gaps and without repetitions
(`Session.recorded_told`).

Numbers stay at the largest one when they get there, and lines cannot be told apart by them then; so
all of this is about narratives of at most `Log.maxSeq` lines, that is, fewer than `2 ^ 64`.
-/

namespace LifeStory

/-- Whether a move plays a turn or a part of one, and is answered by a report on it unless it is
refused. -/
def Move.plays : Move → Bool
  | .runTurn | .beginManual | .choose _ | .timePasses => true
  | .runUntilOver _ | .triggerEnding _ | .reseed _ => false

/-- The lines that an answer quotes in its reports. -/
def Answer.lines {R : Type} (answer : Answer R) : List LogEntry :=
  answer.turnReports.flatMap TurnReport.entries

/-! ### Records -/

namespace Life

variable {R A G : Type} [Scalar R] [AchievementSink A] [SeededSource G]

/-- A life that a run has reached, by moves of any sessions and by directives, with all lines that
were written since the run began. -/
inductive Recorded (A G : Type) [AchievementSink A] [SeededSource G] :
    Life R → List LogEntry → Prop where
  | begun (catalog : Catalog R) (logCapacity : Nat) (talents : List String) (scene : Scene R A G)
      {lines : List LogEntry}
      (h : (Life.fresh logCapacity).Tells lines (scene.begin catalog logCapacity talents).life) :
      Recorded A G (scene.begin catalog logCapacity talents).life lines
  | moved (session : Session R A G) (m : Move) {narrative lines : List LogEntry}
      (h : Recorded A G session.life narrative)
      (hlines : session.life.Tells lines (session.move m).2.life) :
      Recorded A G (session.move m).2.life (narrative ++ lines)
  | applied (scene : Scene R A G) (catalog : Catalog R) (outcomes : List (Directive R))
      {narrative lines : List LogEntry} (h : Recorded A G scene.life narrative)
      (hlines : scene.life.Tells lines (scene.applyAll catalog outcomes).2.life) :
      Recorded A G (scene.applyAll catalog outcomes).2.life (narrative ++ lines)

/-- The beginning of every run has a record. -/
theorem exists_recorded_begin (catalog : Catalog R) (logCapacity : Nat) (talents : List String)
    (scene : Scene R A G) :
    ∃ lines, Recorded A G (scene.begin catalog logCapacity talents).life lines := by
  have htells : ∃ lines, (Life.fresh logCapacity).Tells lines
      (scene.begin catalog logCapacity talents).life := by
    refine Scene.begin_induction
      (P := fun life ↦ ∃ lines, (Life.fresh logCapacity).Tells lines life)
      (fun _ _ _ _ ↦ trivial) (fun chosen ↦ ?_) (fun life talents ⟨lines, h⟩ ↦ ?_)
      (fun life next hchange ⟨lines, h⟩ ↦ ?_) talents scene
    · have hborn : (Life.fresh logCapacity).Tells []
          { Life.fresh logCapacity with customStats := catalog.initialStats } :=
        .pass .refl rfl (Nat.le_refl _)
      exact ⟨_, (hborn.write .system none resetLine).write .system none
        (talentLine (chosen.map Talent.name))⟩
    · exact ⟨lines, h.pass rfl (Nat.le_refl _)⟩
    · obtain ⟨more, hmore⟩ := hchange.exists_tells
      exact ⟨lines ++ more, h.trans hmore⟩
  obtain ⟨lines, h⟩ := htells
  exact ⟨lines, .begun catalog logCapacity talents scene h⟩

variable {life : Life R} {narrative : List LogEntry}

/-- The record goes on with every move. -/
theorem Recorded.exists_move {session : Session R A G} (h : Recorded A G session.life narrative)
    (m : Move) : ∃ lines, Recorded A G (session.move m).2.life (narrative ++ lines) := by
  obtain ⟨lines, hlines⟩ := (Session.move_course session.only_true m).exists_tells
  exact ⟨lines, h.moved session m hlines⟩

/-- The record goes on when directives are applied. -/
theorem Recorded.exists_applyAll {scene : Scene R A G} (h : Recorded A G scene.life narrative)
    (catalog : Catalog R) (outcomes : List (Directive R)) :
    ∃ lines, Recorded A G (scene.applyAll catalog outcomes).2.life (narrative ++ lines) := by
  have hcourse : Course catalog (fun _ ↦ True) scene.life
      (scene.applyAll catalog outcomes).2.life :=
    scene.applyAll_course fun _ _ ↦ trivial
  obtain ⟨lines, hlines⟩ := hcourse.exists_tells
  exact ⟨lines, h.applied scene catalog outcomes hlines⟩

/-- A narrative is what is written from an empty log on. -/
theorem Recorded.exists_fresh (h : Recorded A G life narrative) :
    ∃ logCapacity, (Life.fresh logCapacity : Life R).Tells narrative life := by
  induction h with
  | begun _ logCapacity _ _ h => exact ⟨logCapacity, h⟩
  | moved _ _ _ hlines ih | applied _ _ _ _ hlines ih =>
    obtain ⟨logCapacity, htells⟩ := ih
    exact ⟨logCapacity, htells.trans hlines⟩

end Life

/-! ### The window -/

/-- A log in the given turn, as a window of a narrative. -/
structure Log.Window (log : Log) (turn : Nat) (narrative : List LogEntry) : Prop where
  entries : log.entries = narrative.rtake log.capacity
  length : log.entries.length ≤ max 1 log.capacity
  nextSeq : log.nextSeq = narrative.length
  seqs : log.entries.map LogEntry.seq =
    List.range' (log.nextSeq - log.entries.length) log.entries.length
  turns : (log.entries.map LogEntry.turn).Pairwise (· ≤ ·)
  past : ∀ line ∈ log.entries, line.turn ≤ turn

namespace Life

variable {R A G : Type} [Scalar R] [AchievementSink A] [SeededSource G] {life later : Life R}
  {narrative lines : List LogEntry}

theorem Recorded.holds (h : Recorded A G life narrative) :
    life.log.Holds narrative.length := by
  obtain ⟨logCapacity, htells⟩ := h.exists_fresh
  have hholds := htells.holds (Log.holds_empty logCapacity)
  rwa [Nat.zero_add] at hholds

/-- The lines of a narrative are numbered from zero on. -/
theorem Recorded.seqs (h : Recorded A G life narrative) (hroom : narrative.length ≤ Log.maxSeq) :
    narrative.map LogEntry.seq = List.range' 0 narrative.length := by
  obtain ⟨logCapacity, htells⟩ := h.exists_fresh
  rw [htells.seqs (Log.holds_empty logCapacity), map_min_range' (by omega)]

theorem Recorded.capacity_pos (h : Recorded A G life narrative) : 1 ≤ life.log.capacity := by
  obtain ⟨logCapacity, htells⟩ := h.exists_fresh
  rw [htells.capacity_eq]
  exact Nat.le_max_right logCapacity 1

theorem Recorded.entries (h : Recorded A G life narrative) :
    life.log.entries = narrative.rtake life.log.capacity := by
  obtain ⟨logCapacity, htells⟩ := h.exists_fresh
  have hcapacity : life.log.capacity = max logCapacity 1 := htells.capacity_eq
  have hentries : life.log.entries = ([] ++ narrative).rtake (max (max logCapacity 1) 1) :=
    htells.entries (Log.holds_empty logCapacity)
  rw [hentries, List.nil_append, hcapacity, Nat.max_assoc, Nat.max_self]

/-- The log of a recorded life holds the last lines of the record. -/
theorem Recorded.window (h : Recorded A G life narrative) (hroom : narrative.length ≤ Log.maxSeq) :
    life.log.Window life.turn narrative := by
  have hentries := h.entries
  have hnext := h.holds.nextSeq
  have hlength := h.holds.length
  obtain ⟨_, htells⟩ := h.exists_fresh
  obtain ⟨hturns, hpast⟩ := htells.turns
  refine ⟨hentries, by omega, by omega, ?_, ?_, ?_⟩
  · rw [h.holds.seqs, hnext, Nat.min_eq_left hroom, map_min_range' (by omega)]
  · rw [hentries, List.rtake, List.map_drop]
    exact hturns.sublist (List.drop_sublist _ _)
  · rw [hentries]
    exact fun line hline ↦ hpast line (List.mem_of_mem_drop hline)

/-- The lines of the log from the next number on are the lines that are written since, the last of
them for which there is room. -/
theorem Recorded.since (h : Recorded A G life narrative) (hroom : narrative.length ≤ Log.maxSeq)
    (hlines : life.Tells lines later) :
    later.log.since life.log.nextSeq = lines.rtake life.log.capacity := by
  rw [hlines.since h.holds hroom, Nat.max_eq_left h.capacity_pos]

/-- A report that quotes the log from the next number on has the lines of its turn, as far as the
log still holds them. -/
theorem Recorded.exists_lines (h : Recorded A G life narrative)
    (hroom : narrative.length ≤ Log.maxSeq) {n : Nat} {report : TurnReport R} (hfive : n ≤ 5)
    (hcount : TellsAtMost n life later)
    (hentries : report.entries = later.log.since life.log.nextSeq) :
    ∃ lines, lines.length ≤ 5 ∧ life.Tells lines later ∧
      [report].flatMap TurnReport.entries = lines.rtake life.log.capacity := by
  obtain ⟨lines, hlength, hlines⟩ := hcount
  refine ⟨lines, Nat.le_trans hlength hfive, hlines, ?_⟩
  rw [List.flatMap_singleton, hentries, h.since hroom hlines]

end Life

open Life (Recorded)

/-! ### What reports tell -/

namespace Session

variable {R A G : Type} [Scalar R] [AchievementSink A] [SeededSource G] {session : Session R A G}
  {narrative : List LogEntry}

/-- **The report on a turn has the lines of the turn**, of which there are five at most, as far as
the log still holds them. -/
theorem exists_lines_of_plays (h : Recorded A G session.life narrative)
    (hroom : narrative.length ≤ Log.maxSeq) {m : Move} (hplays : m.plays = true) :
    ∃ lines, lines.length ≤ 5 ∧ session.life.Tells lines (session.move m).2.life ∧
      (session.move m).1.lines = lines.rtake session.life.log.capacity := by
  -- A refusal tells nothing, and nothing was written.
  have hrefusal : ∃ lines : List LogEntry, lines.length ≤ 5 ∧
      session.life.Tells lines session.life ∧ [] = lines.rtake session.life.log.capacity :=
    ⟨[], Nat.zero_le 5, .refl, (List.rtake_nil _).symm⟩
  cases m with
  | runTurn =>
    exact h.exists_lines hroom (Nat.le_refl 5)
      (World.tellsAtMost_runTurn session.setting session.world) rfl
  | beginManual =>
    exact h.exists_lines hroom (by decide)
      (World.tellsAtMost_beginManual session.setting session.world) rfl
  | choose id =>
    show ∃ lines, _ ∧ session.life.Tells lines (session.choose id).2.life ∧
      (Answer.ofExcept Answer.report (session.choose id).1).lines = _
    rcases session.choose_cases id with ⟨candidate, -, -, hchoose⟩ | ⟨_, hrefused⟩
    · rw [hchoose]
      exact h.exists_lines hroom (by decide)
        (World.tellsAtMost_resolve session.setting candidate session.world) rfl
    · rw [hrefused]
      exact hrefusal
  | timePasses =>
    show ∃ lines, _ ∧ session.life.Tells lines session.timePasses.2.life ∧
      (Answer.ofExcept Answer.turn session.timePasses.1).lines = _
    rcases session.timePasses_cases with ⟨-, hpassed⟩ | hrefused
    · rw [hpassed]
      exact h.exists_lines hroom (by decide)
        (World.tellsAtMost_passTime session.setting session.world) rfl
    · rw [hrefused]
      exact hrefusal
  | runUntilOver | triggerEnding | reseed => cases hplays

/-- **Reports on consecutive turns go on with the narrative**, where the log has room for the lines
of a turn. -/
theorem recorded_told (h : Recorded A G session.life narrative)
    (hcapacity : 5 ≤ session.life.log.capacity) (moves : List Move)
    (hplays : ∀ m ∈ moves, m.plays = true) :
    let told := (session.goOn moves).1.flatMap Answer.lines
    (narrative ++ told).length ≤ Log.maxSeq →
      Recorded A G (session.goOn moves).2.life (narrative ++ told) := by
  induction moves generalizing session narrative with
  | nil =>
    intro told _
    rwa [show narrative ++ told = narrative from List.append_nil narrative]
  | cons m rest ih =>
    intro told hroom
    have htold : told = (session.move m).1.lines ++
        ((session.move m).2.goOn rest).1.flatMap Answer.lines := by
      show (session.goOn (m :: rest)).1.flatMap Answer.lines = _
      rw [goOn_cons, List.flatMap_cons]
    rw [htold, ← List.append_assoc] at hroom ⊢
    rw [List.length_append, List.length_append] at hroom
    obtain ⟨lines, hfive, hlines, hquoted⟩ :=
      exists_lines_of_plays h (by omega) (hplays m List.mem_cons_self)
    rw [rtake_of_length_le (Nat.le_trans hfive hcapacity)] at hquoted
    have hnext : Recorded A G (session.move m).2.life (narrative ++ (session.move m).1.lines) := by
      rw [hquoted]
      exact h.moved session m hlines
    rw [goOn_cons]
    refine ih hnext ?_ (fun n hn ↦ hplays n (List.mem_cons_of_mem _ hn)) ?_
    · rwa [hlines.capacity_eq]
    · rw [List.length_append, List.length_append]
      exact hroom

/-- **The log is a window of the narrative.** Of every life that a run has reached, the log holds
the last lines of the narrative, at most as many as it has room for, numbered in a row up to the
next number, in the order of their turns, none of which is still to come. Directives and moves go
on with the narrative, and a reset begins another one. A move that plays writes five lines at
most, and its report, if it is not refused, has those of them that the log still holds. Where it
has room for five, the reports on consecutive moves that play go on with the narrative: they have
every line once, and in a row. -/
theorem log_is_a_window_of_the_narrative {life : Life R} (h : Recorded A G life narrative)
    (hroom : narrative.length ≤ Log.maxSeq) :
    life.log.Window life.turn narrative ∧
      (∀ scene : Scene R A G, scene.life = life → ∀ catalog outcomes,
        ∃ lines, Recorded A G (scene.applyAll catalog outcomes).2.life (narrative ++ lines)) ∧
      ∀ session : Session R A G, session.life = life →
        (∀ m, ∃ lines, Recorded A G (session.move m).2.life (narrative ++ lines)) ∧
        (∀ talents, ∃ lines, Recorded A G (session.reset talents).life lines) ∧
        (∀ m, m.plays = true → ∃ lines, lines.length ≤ 5 ∧
          life.Tells lines (session.move m).2.life ∧
          (session.move m).1.lines = lines.rtake life.log.capacity) ∧
        (5 ≤ life.log.capacity → ∀ moves, (∀ m ∈ moves, m.plays = true) →
          let told := (session.goOn moves).1.flatMap Answer.lines
          (narrative ++ told).length ≤ Log.maxSeq →
            Recorded A G (session.goOn moves).2.life (narrative ++ told) ∧
              told.map LogEntry.seq = List.range' life.log.nextSeq told.length) := by
  refine ⟨h.window hroom, ?_, ?_⟩
  · rintro scene rfl catalog outcomes
    exact h.exists_applyAll catalog outcomes
  · rintro session rfl
    refine ⟨h.exists_move, fun talents ↦ Life.exists_recorded_begin _ _ talents _,
      fun m hplays ↦ exists_lines_of_plays h hroom hplays, ?_⟩
    intro hcapacity moves hplays told hall
    have htold : Recorded A G (session.goOn moves).2.life (narrative ++ told) :=
      recorded_told h hcapacity moves hplays hall
    refine ⟨htold, ?_⟩
    -- The numbers of the whole narrative, without those before.
    have hseqs := congrArg (List.drop narrative.length) (htold.seqs hall)
    rw [← List.map_drop, List.drop_left, List.drop_range', List.length_append,
      Nat.add_sub_cancel_left, Nat.zero_add, Nat.mul_one] at hseqs
    rw [hseqs, (h.window hroom).nextSeq]

/-- A run without content is recorded from its first two lines on, and the reports on a turn without
the player and on one with a player tell what comes next. -/
theorem quiet_days_are_told :
    let session : Session Float Ledger Xoshiro :=
      begin ⟨.ofBase .empty, .default⟩ 7 ⟨.empty, []⟩ []
    let narrative := session.life.log.entries
    let told := (session.goOn [.runTurn, .timePasses]).1.flatMap Answer.lines
    Recorded Ledger Xoshiro session.life narrative ∧ narrative.length ≤ Log.maxSeq ∧
      told.map LogEntry.seq = [2, 3, 4] ∧
      Recorded Ledger Xoshiro (session.goOn [.runTurn, .timePasses]).2.life
        (narrative ++ told) := by
  intro session narrative told
  let before : Session Float Ledger Xoshiro :=
    ofLife ⟨.ofBase .empty, .default⟩ 7 ⟨.empty, []⟩ (Life.fresh Life.defaultLogCapacity)
  let born : Life Float :=
    { Life.fresh 50 with customStats := (Catalog.ofBase .empty).initialStats }
  have hborn : (Life.fresh 50).Tells [] born := .pass .refl rfl (Nat.le_refl _)
  have hrecorded : Recorded Ledger Xoshiro session.life narrative :=
    .begun (.ofBase .empty) 50 [] before.world.scene
      ((hborn.write .system none resetLine).write .system none (talentLine []))
  have hroom : narrative.length ≤ Log.maxSeq := by decide
  obtain ⟨-, -, hsession⟩ := log_is_a_window_of_the_narrative hrecorded hroom
  obtain ⟨-, -, -, hmoves⟩ := hsession session rfl
  have hcount : told.length = 3 := by decide +kernel
  obtain ⟨htold, hseqs⟩ := hmoves (by decide) [.runTurn, .timePasses] (by decide) (by
    rw [List.length_append]
    show 2 + told.length ≤ Log.maxSeq
    rw [hcount]
    decide)
  refine ⟨hrecorded, hroom, ?_, htold⟩
  rw [show told.map LogEntry.seq = _ from hseqs, show _ = 3 from hcount]
  rfl

end Session

end LifeStory
