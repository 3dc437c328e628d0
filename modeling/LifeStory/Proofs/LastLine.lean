import LifeStory.Proofs.Lines
import LifeStory.Proofs.WritingPlay
import LifeStory.Scalar.Float

/-!
# A run ends with its ending

A run writes the same lines whatever its log has room for, and nothing else in it depends on the
room (`Session.Narrates`). Of these lines those that tell endings are counted. Two facts carry the
count. A move that leaves the run going on tells no ending, and one that ends it does so with its
last line; and of a run that is over nothing is told but the ending that closes it after a death.
So the lines give an account of how the life stands (`Life.Account`), which every move goes on with.
-/

namespace LifeStory

open Logged (withLog)

open Life (Tale)

/-! ### The lines of a log -/

/-- It makes no difference whether the last items are changed after they are taken, or before. -/
theorem map_rtake {α β : Type} (f : α → β) (l : List α) (n : Nat) :
    (l.rtake n).map f = (l.map f).rtake n := by
  rw [List.rtake, List.rtake, List.map_drop, List.length_map]

/-- What is written in an entry of the log. -/
def LogEntry.written (entry : LogEntry) : Line := ⟨entry.turn, entry.kind, entry.title, entry.text⟩

namespace Log

theorem capacity_writeAll (log : Log) (lines : List Line) :
    (log.writeAll lines).capacity = log.capacity := by
  induction lines generalizing log with
  | nil => rfl
  | cons line rest ih => exact ih (log.write line)

/-- A log keeps the last of the lines that are written to it. -/
theorem lines_writeAll (capacity : Nat) (lines : List Line) :
    ((empty capacity).writeAll lines).entries.map LogEntry.written =
      lines.rtake (max capacity 1) := by
  induction lines using List.reverseRecOn with
  | nil => exact (List.rtake_nil _).symm
  | append_singleton lines line ih =>
    have hkeeps : ((empty capacity).writeAll lines).capacity = max capacity 1 :=
      capacity_writeAll _ lines
    have hwrite : ((empty capacity).writeAll (lines ++ [line])).entries = _ :=
      (congrArg entries (writeAll_append _ lines [line])).trans (entries_push _ _ _ _ _)
    rw [hwrite, hkeeps, Nat.max_assoc, Nat.max_self, map_rtake, List.map_append, ih]
    exact rtake_concat_rtake lines line _

end Log

/-! ### Accounts -/

/-- How many lines tell an ending. -/
def endings (lines : List Line) : Nat := lines.countP fun line ↦ line.kind = .ending

/-- The endings that lines tell add up. -/
theorem endings_append (lines more : List Line) :
    endings (lines ++ more) = endings lines + endings more :=
  List.countP_append

theorem endings_eq_zero {lines : List Line} :
    endings lines = 0 ↔ ∀ line ∈ lines, line.kind ≠ .ending := by
  simp [endings, List.countP_eq_zero]

theorem endings_singleton {line : Line} (h : line.kind = .ending) : endings [line] = 1 := by
  simp [endings, h]

namespace Life

variable {R : Type} {life next : Life R} {lines more : List Line} {died : Prop}

/-- How a life stands, by all the lines that were told of it. `died` says whether it was dead at
some time. -/
inductive Account (life : Life R) (died : Prop) : List Line → Prop where
  /-- The life goes on, and no ending was told. -/
  | active {lines : List Line} (hphase : life.phase = .active) (hreason : life.endReason = none)
      (hended : life.ended = false) (hnot : ¬ died) (hplain : endings lines = 0) :
      Account life died lines
  /-- The life is over, and only the last line told so. -/
  | once {before : List Line} {last : Line} (hphase : life.phase ≠ .active)
      (hreason : life.endReason.isSome = true) (hdied : died ↔ life.phase = .dead)
      (hplain : endings before = 0) (hlast : last.kind = .ending) :
      Account life died (before ++ [last])
  /-- The life died, and an ending closed it. -/
  | twice {before : List Line} {death last : Line} (hphase : life.phase = .ended)
      (hreason : life.endReason.isSome = true) (hdied : died) (hplain : endings before = 0)
      (hdeath : death.kind = .ending) (hlast : last.kind = .ending) :
      Account life died (before ++ [death] ++ [last])

namespace Account

/-- The account goes on with what is told next. -/
theorem goesOn (h : life.Account died lines) (hmore : life.Tale more next) :
    next.Account (died ∨ next.phase = .dead) (lines ++ more) := by
  have hsilent : life.phase ≠ .active → life.isActive = false := fun hover ↦ decide_eq_false hover
  cases h with
  | active hphase hreason hended hnot hplain =>
    cases hmore with
    | goesOn hstands hplain' =>
      have hgoes : next.phase = .active := hstands.phase.trans hphase
      refine .active hgoes (hstands.reason.trans hreason) (hstands.ended.trans hended) ?_ ?_
      · rw [hgoes]
        exact fun h ↦ h.elim hnot (by decide)
      · rw [endings_append, hplain, endings_eq_zero.2 hplain']
    | isOver _ _ halive hreason' hplain' hlast =>
      rw [← List.append_assoc]
      refine .once (of_decide_eq_false (isActive_of_not_alive halive)) hreason' ?_ ?_ hlast
      · exact or_iff_right hnot
      · rw [endings_append, hplain, endings_eq_zero.2 hplain']
  | once hphase hreason hdied hplain hlast =>
    cases hmore with
    | goesOn hstands _ hover =>
      rw [hover (hsilent hphase), List.append_nil]
      rw [← hstands.phase] at hphase hdied
      rw [← hstands.reason] at hreason
      exact .once hphase hreason (or_iff_right_of_imp hdied.1) hplain hlast
    | isOver hopen hdead _ hreason' _ hlast' =>
      have hlife : life.phase = .dead := phase_of_unclosed hphase hopen
      obtain ⟨rfl, hclosed⟩ := hdead hlife
      exact .twice hclosed hreason' (.inl (hdied.2 hlife)) hplain hlast hlast'
  | twice hphase hreason hdied hplain hdeath hlast =>
    cases hmore with
    | goesOn hstands _ hover =>
      rw [hover (hsilent (by rw [hphase]; decide)), List.append_nil]
      rw [← hstands.phase] at hphase
      rw [← hstands.reason] at hreason
      exact .twice hphase hreason (.inl hdied) hplain hdeath hlast
    | isOver hopen => exact absurd hphase hopen

/-- Of a life that goes on no ending has been told, and nothing gives a reason for one. -/
theorem of_active (h : life.Account died lines) (hphase : life.phase = .active) :
    life.endReason = none ∧ life.ended = false ∧ endings lines = 0 := by
  cases h with
  | active _ hreason hended _ hplain => exact ⟨hreason, hended, hplain⟩
  | once hover => exact absurd hphase hover
  | twice hended =>
    rw [hphase] at hended
    cases hended

/-- Of a life that is over the last line tells the ending, and there is a reason for it. -/
theorem of_over (h : life.Account died lines) (hphase : life.phase ≠ .active) :
    life.endReason.isSome = true ∧ ∃ before last, lines = before ++ [last] ∧
      last.kind = .ending := by
  cases h with
  | active hactive => exact absurd hactive hphase
  | once _ hreason _ _ hlast => exact ⟨hreason, _, _, rfl, hlast⟩
  | twice _ hreason _ _ _ hlast => exact ⟨hreason, _, _, rfl, hlast⟩

/-- Of a dead life one ending was told. -/
theorem of_dead (h : life.Account died lines) (hphase : life.phase = .dead) :
    endings lines = 1 := by
  cases h with
  | active hactive =>
    rw [hphase] at hactive
    cases hactive
  | once _ _ _ hplain hlast => rw [endings_append, hplain, endings_singleton hlast]
  | twice hended =>
    rw [hphase] at hended
    cases hended

/-- Of a life that an ending has closed one ending was told, or two if it had died before. -/
theorem of_ended (h : life.Account died lines) (hphase : life.phase = .ended) :
    (endings lines = 1 ∧ ¬ died) ∨ (endings lines = 2 ∧ died) := by
  cases h with
  | active hactive =>
    rw [hphase] at hactive
    cases hactive
  | once _ _ hdied hplain hlast =>
    rw [endings_append, hplain, endings_singleton hlast, hdied, hphase]
    exact .inl ⟨rfl, by decide⟩
  | twice _ _ hdied hplain hdeath hlast =>
    rw [endings_append, endings_append, hplain, endings_singleton hdeath, endings_singleton hlast]
    exact .inr ⟨rfl, hdied⟩

/-- The account does not look at the log. -/
theorem withLog (h : life.Account died lines) (log : Log) :
    (withLog life log).Account died lines := by
  cases h with
  | active hphase hreason hended hnot hplain => exact .active hphase hreason hended hnot hplain
  | once hphase hreason hdied hplain hlast => exact .once hphase hreason hdied hplain hlast
  | twice hphase hreason hdied hplain hdeath hlast =>
    exact .twice hphase hreason hdied hplain hdeath hlast

end Account

end Life

/-! ### Runs -/

namespace Session

variable {R A G : Type}

/-- The session with another room for lines in the logs of the runs that it begins. -/
def withRoom (session : Session R A G) (capacity : Nat) : Session R A G :=
  { session with setting := { session.setting with
    config := { session.setting.config with logCapacity := capacity } } }

variable [Scalar R] [AchievementSink A]

theorem withRoom_runUntilOver [RandomSource G] (session : Session R A G) (capacity turns : Nat) :
    ((session.withRoom capacity).runUntilOver turns).2 =
      (session.runUntilOver turns).2.withRoom capacity := by
  induction turns generalizing session with
  | zero => rfl
  | succ turns ih =>
    cases hactive : session.life.isActive with
    | false =>
      have hroom : (session.withRoom capacity).life.isActive = false := hactive
      rw [runUntilOver_of_over hactive, runUntilOver_of_over hroom]
    | true =>
      have hroom : (session.withRoom capacity).life.isActive = true := hactive
      rw [runUntilOver_of_active hactive, runUntilOver_of_active hroom]
      exact ih session.runTurn.2

variable [SeededSource G]

/-- What is done next does not look at the room. -/
theorem withRoom_move (session : Session R A G) (capacity : Nat) (m : Move) :
    ((session.withRoom capacity).move m).2 = (session.move m).2.withRoom capacity := by
  cases m with
  | runUntilOver turns => exact session.withRoom_runUntilOver capacity turns
  | choose id =>
    show ((session.withRoom capacity).choose id).2 = (session.choose id).2.withRoom capacity
    rw [choose, choose]
    by_cases hactive : session.life.isActive = true
    · have hroom : (session.withRoom capacity).life.isActive = true := hactive
      rw [if_pos hactive, if_pos hroom]
      cases hfind : session.pending.find? fun c ↦ c.id = id with
      | none =>
        have hnone : (session.withRoom capacity).pending.find? (fun c ↦ c.id = id) = none := hfind
        rw [hnone]
      | some candidate =>
        have hsome : (session.withRoom capacity).pending.find? (fun c ↦ c.id = id) =
          some candidate := hfind
        rw [hsome]
        rfl
    · have hroom : ¬ (session.withRoom capacity).life.isActive = true := hactive
      rw [if_neg hactive, if_neg hroom]
  | timePasses =>
    show (session.withRoom capacity).timePasses.2 = session.timePasses.2.withRoom capacity
    rw [timePasses, timePasses]
    by_cases hactive : session.life.isActive = true
    · have hroom : (session.withRoom capacity).life.isActive = true := hactive
      rw [if_pos hactive, if_pos hroom]
      rfl
    · have hroom : ¬ (session.withRoom capacity).life.isActive = true := hactive
      rw [if_neg hactive, if_neg hroom]
      rfl
  | runTurn | beginManual | triggerEnding | reseed => rfl

/-- A run that a session begins, after some moves. -/
def run (session : Session R A G) (talents : List String) (moves : List Move) : Session R A G :=
  ((session.reset talents).goOn moves).2

theorem run_concat (session : Session R A G) (talents : List String) (moves : List Move)
    (m : Move) : session.run talents (moves ++ [m]) = ((session.run talents moves).move m).2 := by
  rw [run, goOn_append]
  rfl

/-- All lines that a run has written since it began. Whatever its log has room for, they are what
the empty log was given, and nothing else in the run depends on the room. -/
def Narrates (session : Session R A G) (talents : List String) (moves : List Move)
    (lines : List Line) : Prop :=
  ∀ capacity, (session.withRoom capacity).run talents moves =
    (withLog (session.run talents moves) ((Log.empty capacity).writeAll lines)).withRoom capacity

namespace Narrates

variable {session : Session R A G} {talents : List String} {moves : List Move}
  {lines other : List Line}

theorem begin (h : Writing (Scene.opened session.setting.catalog talents)
    (session.world.scene.unborn session.setting.catalog) lines) :
    session.Narrates talents [] lines := by
  intro capacity
  let opened := (session.world.scene.unborn session.setting.catalog).opened session.setting.catalog
    talents
  have hbegin : ∀ room, session.world.scene.begin session.setting.catalog room talents =
      withLog opened ((Log.empty room).writeAll lines) := fun room ↦ by
    rw [Scene.begin_eq_opened]
    exact h.same (Log.empty room)
  show (session.withRoom capacity).moveOn (session.world.setScene
    (session.world.scene.begin session.setting.catalog capacity talents)) = _
  rw [run, goOn_nil, reset, hbegin, hbegin]
  rfl

/-- A move goes on with the lines of the run. -/
theorem move {more : List Line} (h : session.Narrates talents moves lines) {m : Move}
    (hmore : Writing (fun s : Session R A G ↦ (s.move m).2) (session.run talents moves) more) :
    session.Narrates talents (moves ++ [m]) (lines ++ more) := by
  intro capacity
  rw [run_concat, h, withRoom_move, hmore.same, run_concat, Log.writeAll_append]

/-- The log of the run holds the last of the lines. -/
theorem lines_log (h : session.Narrates talents moves lines) :
    (session.run talents moves).life.log.entries.map LogEntry.written =
      lines.rtake (max session.setting.config.logCapacity 1) := by
  have hlog : (session.run talents moves).life.log =
      (Log.empty session.setting.config.logCapacity).writeAll lines :=
    congrArg (fun s : Session R A G ↦ s.life.log) (h session.setting.config.logCapacity)
  rw [hlog, Log.lines_writeAll]

/-- There is one narrative of a run. -/
theorem unique (h : session.Narrates talents moves lines)
    (hother : session.Narrates talents moves other) : other = lines := by
  let capacity := max lines.length other.length
  have hlog : ∀ told, session.Narrates talents moves told → told.length ≤ max capacity 1 →
      ((session.withRoom capacity).run talents moves).life.log.entries.map LogEntry.written =
        told := by
    intro told htold hroom
    have hlines := Log.lines_writeAll capacity told
    rw [rtake_of_length_le hroom] at hlines
    rw [htold capacity]
    exact hlines
  rw [← hlog lines h (by omega), hlog other hother (by omega)]

end Narrates

/-- The life was dead after some of the moves. -/
def WasDead (session : Session R A G) (talents : List String) (moves : List Move) : Prop :=
  ∃ earlier, earlier <+: moves ∧ (session.run talents earlier).life.phase = .dead

theorem wasDead_nil {session : Session R A G} {talents : List String} :
    session.WasDead talents [] ↔ (session.run talents []).life.phase = .dead := by
  rw [WasDead]
  simp only [List.prefix_nil, exists_eq_left]

/-- A run was dead after one move more if it was before, or if that move leaves it dead. -/
theorem wasDead_concat {session : Session R A G} {talents : List String} {moves : List Move}
    {m : Move} : session.WasDead talents (moves ++ [m]) ↔
      session.WasDead talents moves ∨ (session.run talents (moves ++ [m])).life.phase = .dead := by
  simp only [WasDead, List.prefix_concat_iff, or_and_right, exists_or, exists_eq_left]
  exact or_comm

/-- Every run has a narrative, which gives an account of its life. -/
theorem exists_narrates (session : Session R A G) (talents : List String) (moves : List Move) :
    ∃ lines, session.Narrates talents moves lines ∧
      (session.run talents moves).life.Account (session.WasDead talents moves) lines := by
  induction moves using List.reverseRecOn with
  | nil =>
    let unborn := session.world.scene.unborn session.setting.catalog
    have hopened : Writes (Scene.opened session.setting.catalog talents) unborn :=
      Scene.writes_opened talents rfl
    obtain ⟨lines, hlines⟩ := hopened
    have hunborn : unborn.life.Account False [] := .active rfl rfl rfl id rfl
    have haccount := (hunborn.goesOn hlines.tale).withLog
      ((Log.empty session.setting.config.logCapacity).writeAll lines)
    refine ⟨lines, .begin hlines, ?_⟩
    have hrun : (session.run talents []).life =
        withLog (unborn.opened session.setting.catalog talents).life
          ((Log.empty session.setting.config.logCapacity).writeAll lines) :=
      congrArg Scene.life (hlines.same (Log.empty session.setting.config.logCapacity))
    rw [wasDead_nil, hrun]
    rwa [false_or] at haccount
  | append_singleton moves m ih =>
    obtain ⟨lines, hlines, haccount⟩ := ih
    have hmove : Writes (fun s : Session R A G ↦ (s.move m).2) (session.run talents moves) :=
      writes_move m
    obtain ⟨more, hmore⟩ := hmove
    refine ⟨lines ++ more, hlines.move hmore, ?_⟩
    rw [wasDead_concat, run_concat]
    exact haccount.goesOn hmore.tale

/-- **A run ends with its ending.** In any session a run is begun with any talents, and goes on with
any moves. There is one list of all lines that it has written since it began. While it is active,
no reason for its end is recorded, no ending has closed it, and no line tells of one, whether the
log still holds it or not. When it is over, a reason is recorded, and the last line of the log tells
the ending. Of a dead run one ending was told. Of a run that an ending has closed one or two were
told: two if the run was dead after some of the moves, and only then. -/
theorem run_ends_with_its_ending (session : Session R A G) (talents : List String)
    (moves : List Move) :
    let life := (session.run talents moves).life
    ∃ lines, (∀ told, session.Narrates talents moves told ↔ told = lines) ∧
      (life.phase = .active → life.endReason = none ∧ life.ended = false ∧
        (∀ entry ∈ life.log.entries, entry.kind ≠ .ending) ∧ endings lines = 0) ∧
      (life.phase ≠ .active → life.endReason.isSome = true ∧
        ∃ last, life.log.entries.getLast? = some last ∧ last.kind = .ending) ∧
      (life.phase = .dead → endings lines = 1) ∧
      (life.phase = .ended → (endings lines = 1 ∨ endings lines = 2) ∧
        (endings lines = 2 ↔ session.WasDead talents moves)) := by
  intro life
  obtain ⟨lines, hlines, haccount⟩ := session.exists_narrates talents moves
  have hlog := hlines.lines_log
  refine ⟨lines, fun told ↦ ⟨hlines.unique, fun htold ↦ htold ▸ hlines⟩, fun hactive ↦ ?_,
    fun hover ↦ ?_, haccount.of_dead, fun hended ↦ ?_⟩
  · obtain ⟨hreason, hended, hnone⟩ := haccount.of_active hactive
    refine ⟨hreason, hended, fun entry hentry ↦ ?_, hnone⟩
    have hline : entry.written ∈ life.log.entries.map LogEntry.written := List.mem_map_of_mem hentry
    rw [hlog] at hline
    exact endings_eq_zero.1 hnone entry.written (List.mem_of_mem_drop hline)
  · obtain ⟨hreason, before, last, rfl, hkind⟩ := haccount.of_over hover
    have hroom : max session.setting.config.logCapacity 1 =
        max session.setting.config.logCapacity 1 - 1 + 1 := by omega
    have hlast : (life.log.entries.map LogEntry.written).getLast? = some last := by
      rw [hlog, hroom, List.rtake_concat_succ, List.getLast?_concat]
    rw [List.getLast?_map] at hlast
    obtain ⟨entry, hentry, rfl⟩ := Option.map_eq_some_iff.1 hlast
    exact ⟨hreason, entry, hentry, hkind⟩
  · rcases haccount.of_ended hended with ⟨hone, hnot⟩ | ⟨htwo, hdied⟩
    · exact ⟨.inl hone, fun htwo ↦ absurd (hone.symm.trans htwo) (by decide),
        fun hdied ↦ absurd hdied hnot⟩
    · exact ⟨.inr htwo, fun _ ↦ hdied, fun _ ↦ htwo⟩

/-- A life that is too old after its first turn, and is closed when it is dead, ends twice. -/
example :
    let setting : Setting Float :=
      ⟨.ofBase .empty, { (.default : Config Float) with thresholds := ⟨-1.0, 9.0, 0.0⟩ }⟩
    let session : Session Float Ledger Xoshiro := begin setting 7 ⟨.empty, []⟩ []
    (session.run [] [.runTurn, .triggerEnding "home"]).life.log.entries.map LogEntry.kind =
      [.system, .system, .ending, .ending] := by
  decide +kernel

end Session

end LifeStory
