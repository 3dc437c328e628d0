import LifeStory.Proofs.Numbering
import LifeStory.Proofs.Phases
import Mathlib.Data.List.DropRight

/-!
# The lines that are written

Between two points of a life lines are written to its log, one after the other (`Life.Tells`). From
them the later log is known: it keeps the last of the lines that it had and of those that were
written, as many as it has room for (`Life.Tells.entries`), and the new lines have the numbers that
come next. Whatever changes a life writes lines in this way (`Life.Course.exists_tells`).

How many lines a part of a turn writes is counted along the functions of the turn
(`Life.TellsAtMost`). Directives write no lines but endings, and after an ending there is no other,
so that a list of directives writes one line at most, however long it is
(`Scene.tellsEnding_applyAll`); and a life that goes on after it has not been told an ending, so
that its death can be told without counting twice.
-/

namespace LifeStory

/-! ### Lists -/

section Rtake

variable {α : Type}

theorem rtake_of_length_le {l : List α} {n : Nat} (h : l.length ≤ n) : l.rtake n = l := by
  rw [List.rtake, Nat.sub_eq_zero_of_le h, List.drop_zero]

/-- The last items of two lists are those of the second, and of the first as many as there is room
for. -/
theorem rtake_append (l m : List α) (n : Nat) :
    (l ++ m).rtake n = l.rtake (n - m.length) ++ m.rtake n := by
  simp only [List.rtake_eq_reverse_take_reverse, List.reverse_append, List.take_append,
    List.length_reverse]

/-- What does not count among the last elements does not count when there is one more. -/
theorem rtake_concat_rtake (l : List α) (x : α) (n : Nat) :
    (l.rtake n ++ [x]).rtake n = (l ++ [x]).rtake n := by
  have hinner : (l.rtake n).rtake (n - 1) = l.rtake (n - 1) := by
    simp only [List.rtake_eq_reverse_take_reverse, List.reverse_reverse, List.take_take,
      Nat.min_eq_left (Nat.sub_le n 1)]
  rw [rtake_append, rtake_append, List.length_singleton, hinner]

end Rtake

/-- Numbers that do not reach the limit are not changed by it. -/
theorem map_min_range' {start count limit : Nat} (h : start + count ≤ limit + 1) :
    (List.range' start count).map (min · limit) = List.range' start count := by
  refine (List.map_congr_left fun number hnumber ↦ ?_).trans (List.map_id _)
  have hbound := List.mem_range'_1.1 hnumber
  exact Nat.min_eq_left (by omega)

/-- A log keeps the last lines that it has room for. -/
theorem Log.entries_push (log : Log) (turn : Nat) (kind : LogKind) (title : Option String)
    (text : String) :
    (log.push turn kind title text).entries =
      (log.entries ++ [(⟨log.nextSeq, turn, kind, title, text⟩ : LogEntry)]).rtake
        (max log.capacity 1) := by
  have hroom : max log.capacity 1 = max log.capacity 1 - 1 + 1 := by omega
  have hdropped : log.entries.length + 1 - max log.capacity 1 =
      log.entries.length - (max log.capacity 1 - 1) := by
    omega
  rw [hroom, List.rtake_concat_succ, List.rtake, ← hdropped]
  rfl

namespace Life

variable {R : Type}

/-! ### What is written between two points of a life -/

/-- From a life to a later one the given lines are written, in this order, and nothing else is done
to the log. Meanwhile turns may pass. -/
inductive Tells (life : Life R) : List LogEntry → Life R → Prop where
  | refl : Tells life [] life
  | pass {lines : List LogEntry} {now later : Life R} (h : Tells life lines now)
      (hlog : later.log = now.log) (hturn : now.turn ≤ later.turn) : Tells life lines later
  | write {lines : List LogEntry} {now : Life R} (h : Tells life lines now) (kind : LogKind)
      (title : Option String) (text : String) :
      Tells life (lines ++ [⟨now.log.nextSeq, now.turn, kind, title, text⟩])
        (now.note kind title text)

namespace Tells

variable {life now later : Life R} {lines more : List LogEntry}

/-- Lines that are written later come after those that were written before. -/
theorem trans (h : life.Tells lines now) (hmore : now.Tells more later) :
    life.Tells (lines ++ more) later := by
  induction hmore with
  | refl => rwa [List.append_nil]
  | pass _ hlog hturn ih => exact ih.pass hlog hturn
  | write _ kind title text ih =>
    rw [← List.append_assoc]
    exact ih.write kind title text

/-- Nobody gives the log more room. -/
theorem capacity_eq (h : life.Tells lines later) : later.log.capacity = life.log.capacity := by
  induction h with
  | refl => rfl
  | pass _ hlog _ ih => rw [hlog, ih]
  | write _ _ _ _ ih => exact ih

/-- The log goes on to hold the last of all the lines that were ever written. -/
theorem holds {total : Nat} (h : life.Tells lines later) (hlife : life.log.Holds total) :
    later.log.Holds (total + lines.length) := by
  induction h with
  | refl => exact hlife
  | pass _ hlog _ ih => rwa [hlog]
  | @write lines now _ kind title text ih =>
    rw [List.length_append, List.length_singleton, ← Nat.add_assoc]
    exact ih.push now.turn kind title text

/-- The lines that are written have the numbers that come next. -/
theorem seqs {total : Nat} (h : life.Tells lines later) (hlife : life.log.Holds total) :
    lines.map LogEntry.seq = (List.range' total lines.length).map (min · Log.maxSeq) := by
  induction h with
  | refl => rfl
  | pass _ _ _ ih => exact ih
  | @write lines now hnow kind title text ih =>
    rw [List.map_append, ih, List.length_append, List.length_singleton, List.range'_concat,
      Nat.one_mul, List.map_append, List.map_singleton, List.map_singleton,
      (hnow.holds hlife).nextSeq]

/-- **The log keeps the last lines**, of those that it had and of those that were written. -/
theorem entries {total : Nat} (h : life.Tells lines later) (hlife : life.log.Holds total) :
    later.log.entries = (life.log.entries ++ lines).rtake (max life.log.capacity 1) := by
  induction h with
  | refl =>
    have hlength := hlife.length
    rw [List.append_nil, rtake_of_length_le (by omega)]
  | pass _ hlog _ ih => rw [hlog, ih]
  | @write lines now hnow kind title text ih =>
    have hpush : (now.note kind title text).log.entries = _ :=
      now.log.entries_push now.turn kind title text
    rw [hpush, hnow.capacity_eq, ih, rtake_concat_rtake, List.append_assoc]

/-- The lines are stamped with the turns in which they are written, in order. -/
theorem turns (h : life.Tells lines later) :
    (lines.map LogEntry.turn).Pairwise (· ≤ ·) ∧ ∀ line ∈ lines, line.turn ≤ later.turn := by
  induction h with
  | refl => exact ⟨List.Pairwise.nil, fun _ hline ↦ absurd hline List.not_mem_nil⟩
  | pass _ _ hturn ih => exact ⟨ih.1, fun line hline ↦ Nat.le_trans (ih.2 line hline) hturn⟩
  | @write lines now _ kind title text ih =>
    refine ⟨?_, fun line hline ↦ ?_⟩
    · rw [List.map_append, List.map_singleton, List.pairwise_append]
      refine ⟨ih.1, List.pairwise_singleton _ _, fun turn hturn last hlast ↦ ?_⟩
      obtain ⟨line, hline, rfl⟩ := List.mem_map.1 hturn
      rw [List.mem_singleton.1 hlast]
      exact ih.2 line hline
    · rcases List.mem_append.1 hline with hline | hlast
      · exact ih.2 line hline
      · rw [List.mem_singleton.1 hlast]
        exact Nat.le_refl _

/-- The lines from the next number on are those of the lines that are written since for which there
is room. -/
theorem since {total : Nat} (h : life.Tells lines later) (hlife : life.log.Holds total)
    (hroom : total ≤ Log.maxSeq) :
    later.log.since life.log.nextSeq = lines.rtake (max life.log.capacity 1) := by
  have hlater : ∀ line ∈ lines, life.log.nextSeq ≤ line.seq := by
    intro line hline
    have hseq : line.seq ∈ lines.map LogEntry.seq := List.mem_map_of_mem hline
    rw [h.seqs hlife] at hseq
    obtain ⟨number, hrange, hnumber⟩ := List.mem_map.1 hseq
    have hbound := List.mem_range'_1.1 hrange
    have hnext := hlife.nextSeq
    omega
  have hold : (life.log.entries.rtake (max life.log.capacity 1 - lines.length)).filter
      (fun line ↦ life.log.nextSeq ≤ line.seq) = [] := by
    refine List.filter_eq_nil_iff.2 fun line hline hle ↦ ?_
    have hlt := hlife.seq_lt hroom line (List.mem_of_mem_drop hline)
    exact Nat.not_le.2 hlt (of_decide_eq_true hle)
  have hnew : (lines.rtake (max life.log.capacity 1)).filter
      (fun line ↦ life.log.nextSeq ≤ line.seq) = lines.rtake (max life.log.capacity 1) :=
    List.filter_eq_self.2 fun line hline ↦
      decide_eq_true (hlater line (List.mem_of_mem_drop hline))
  rw [Log.since, h.entries hlife, rtake_append, List.filter_append, hold, hnew, List.nil_append]

end Tells

/-! ### Whatever happens -/

variable [Scalar R] {catalog : Catalog R} {allowed : Directive R → Prop} {life next : Life R}

/-- No change takes a turn back. -/
theorem Change.turn_le (h : Change catalog allowed life next) : life.turn ≤ next.turn := by
  cases h with
  | grow =>
    show life.turn ≤ succUpTo maxTurn life.turn
    rw [succUpTo]
    split <;> omega
  | settle =>
    rcases life.settleDebt_cases with hsettle | ⟨_, _, hsettle⟩ <;> rw [hsettle]
    exact Nat.le_refl _
  | obey directive _ obeyed => exact Nat.le_of_eq (kept_of_obey? obeyed).turn.symm
  | wearStatuses | wearModifiers | note | stage | choose | die | close => exact Nat.le_refl _

/-- A single change writes its lines, or none. -/
theorem Change.exists_tells (h : Change catalog allowed life next) :
    ∃ lines, life.Tells lines next := by
  rcases h.log_cases with hlog | ⟨kind, title, text, hlog⟩
  · exact ⟨[], Tells.refl.pass hlog h.turn_le⟩
  · exact ⟨_, (Tells.refl.write kind title text).pass hlog h.turn_le⟩

/-- **Whatever happens to a life, lines are written.** -/
theorem Course.exists_tells (h : Course catalog allowed life next) :
    ∃ lines, life.Tells lines next :=
  h.induction (fun _ ↦ ⟨[], .refl⟩)
    (fun _ _ _ ⟨_, hfirst⟩ ⟨_, hthen⟩ ↦ ⟨_, hfirst.trans hthen⟩) fun _ _ ↦ Change.exists_tells

/-! ### How many lines are written -/

/-- At most the given number of lines are written. -/
def TellsAtMost (n : Nat) (life later : Life R) : Prop :=
  ∃ lines, lines.length ≤ n ∧ life.Tells lines later

omit [Scalar R]

variable {n m : Nat} {later : Life R}

theorem TellsAtMost.refl (life : Life R) : TellsAtMost 0 life life :=
  ⟨[], Nat.le_refl 0, .refl⟩

theorem TellsAtMost.mono (h : TellsAtMost n life later) (hle : n ≤ m) :
    TellsAtMost m life later := by
  obtain ⟨lines, hlines, htells⟩ := h
  exact ⟨lines, Nat.le_trans hlines hle, htells⟩

/-- What two parts write at most adds up. -/
theorem TellsAtMost.trans (h : TellsAtMost n life next) (hthen : TellsAtMost m next later) :
    TellsAtMost (n + m) life later := by
  obtain ⟨lines, hlines, htells⟩ := h
  obtain ⟨more, hmore, hthen⟩ := hthen
  refine ⟨lines ++ more, ?_, htells.trans hthen⟩
  rw [List.length_append]
  exact Nat.add_le_add hlines hmore

/-- What leaves the log alone, and does not go back in time, writes no line. -/
theorem TellsAtMost.pass (h : TellsAtMost n life next) (hlog : later.log = next.log)
    (hturn : next.turn ≤ later.turn) : TellsAtMost n life later := by
  obtain ⟨lines, hlines, htells⟩ := h
  exact ⟨lines, hlines, htells.pass hlog hturn⟩

theorem tellsAtMost_note (life : Life R) (kind : LogKind) (title : Option String)
    (text : String) : TellsAtMost 1 life (life.note kind title text) :=
  ⟨[_], Nat.le_refl 1, Tells.refl.write kind title text⟩

/-- How many endings can still be told of a life. -/
def endingsLeft (life : Life R) : Nat := if life.phase = .ended then 0 else 1

/-- One ending is all that can be told of a life. -/
theorem endingsLeft_le (life : Life R) : life.endingsLeft ≤ 1 := by
  rw [endingsLeft]
  split <;> omega

/-- The ending of a life that goes on is still to be told. -/
theorem endingsLeft_of_active (h : life.isActive = true) : life.endingsLeft = 1 :=
  if_neg fun hended ↦ by
    rw [phase_of_alive (isActive_iff.1 h)] at hended
    cases hended

/-- Nothing but an ending is told, and none after an ending. -/
def TellsEnding (life later : Life R) : Prop :=
  ∃ lines, life.Tells lines later ∧ lines.length + later.endingsLeft ≤ life.endingsLeft

theorem TellsEnding.refl (life : Life R) : TellsEnding life life :=
  ⟨[], .refl, by rw [List.length_nil, Nat.zero_add]⟩

/-- Two parts together tell one ending at most. -/
theorem TellsEnding.trans (h : TellsEnding life next) (hthen : TellsEnding next later) :
    TellsEnding life later := by
  obtain ⟨lines, htells, hlines⟩ := h
  obtain ⟨more, hthen, hmore⟩ := hthen
  refine ⟨lines ++ more, htells.trans hthen, ?_⟩
  rw [List.length_append]
  omega

/-- What leaves alone how a life stands tells nothing. -/
theorem TellsEnding.of_same (hlog : later.log = life.log) (hturn : later.turn = life.turn)
    (halive : later.alive = life.alive) (hended : later.ended = life.ended) :
    TellsEnding life later := by
  refine ⟨[], Tells.refl.pass hlog (Nat.le_of_eq hturn.symm), Nat.le_of_eq ?_⟩
  rw [List.length_nil, Nat.zero_add, endingsLeft, endingsLeft, phase_of_same halive hended]

theorem tellsEnding_wearStatuses (life : Life R) (active removed : List String) :
    TellsEnding life (life.wearStatuses active removed).2 :=
  .of_same rfl rfl rfl rfl

theorem tellsEnding_wearModifiers (life : Life R) : TellsEnding life life.wearModifiers.2 :=
  .of_same rfl rfl rfl rfl

/-- A life of which at most an ending was told has written a line at most, and none if it goes
on. -/
theorem TellsEnding.tellsAtMost (h : TellsEnding life later) :
    TellsAtMost (if later.isActive then 0 else 1) life later := by
  obtain ⟨lines, htells, hlines⟩ := h
  have hleft := life.endingsLeft_le
  refine ⟨lines, ?_, htells⟩
  split
  · next hactive =>
    have hlater := endingsLeft_of_active hactive
    omega
  · omega

end Life

open Life (TellsAtMost TellsEnding)

/-! ### Scenes -/

namespace Scene

variable {R A G : Type} [Scalar R] [AchievementSink A] [RandomSource G] {catalog : Catalog R}

/-- **An ending that is triggered is the last one.** -/
theorem tellsEnding_triggerEnding (id : String) (scene : Scene R A G) :
    TellsEnding scene.life (scene.triggerEnding catalog id).2.life := by
  rcases scene.triggerEnding_cases catalog id with hsame | ⟨hphase, title, text, _, htrigger⟩
  · rw [hsame]
    exact .refl _
  · rw [htrigger]
    have hclosed : scene.life.Tells [] (closed id scene.life) := .pass .refl rfl (Nat.le_refl _)
    refine ⟨_, hclosed.write .ending title text, ?_⟩
    rw [show scene.life.endingsLeft = 1 from if_neg hphase]
    exact Nat.le_refl 1

/-- A directive tells nothing but an ending. -/
theorem tellsEnding_applyDirective (directive : Directive R) (scene : Scene R A G) :
    TellsEnding scene.life (scene.applyDirective catalog directive).2.life := by
  rcases scene.applyDirective_cases catalog directive with
    ⟨ending, rfl, happly⟩ | ⟨id, rfl, happly⟩ | happly
  · rw [happly]
    exact scene.tellsEnding_triggerEnding ending
  · rw [happly]
    exact .refl _
  · rw [happly]
    cases hobey : scene.life.obey? catalog directive with
    | none => exact .refl _
    | some next =>
      have hkept := Life.kept_of_obey? hobey
      exact .of_same hkept.log hkept.turn hkept.alive hkept.ended

/-- A list of directives tells nothing but an ending, however long it is. -/
theorem tellsEnding_applyAll (outcomes : List (Directive R)) (scene : Scene R A G) :
    TellsEnding scene.life (scene.applyAll catalog outcomes).2.life :=
  applyAll_induction (P := fun s ↦ TellsEnding scene.life s.life)
    (fun directive _ s h ↦ h.trans (s.tellsEnding_applyDirective directive)) (.refl _)

/-- Status effects tell no more than one ending, however many of them act. -/
theorem tellsEnding_actStatuses (active removed : List String) (scene : Scene R A G) :
    TellsEnding scene.life (scene.actStatuses catalog active removed).2.2.life :=
  actStatuses_induction (P := fun s ↦ TellsEnding scene.life s.life)
    (fun _ _ _ directive _ s h ↦ h.trans (s.tellsEnding_applyDirective directive)) (.refl _) active
    removed

omit [RandomSource G] in
/-- When thresholds are enforced after an ending was told at most, a line is written at most in all,
and none if the life goes on. -/
theorem tellsAtMost_enforceThresholds {life : Life R} {scene : Scene R A G}
    (h : TellsEnding life scene.life) (catalog : Catalog R) (thresholds : Thresholds R) :
    TellsAtMost (if (scene.enforceThresholds catalog thresholds).2.life.isActive then 0 else 1) life
      (scene.enforceThresholds catalog thresholds).2.life := by
  rcases scene.enforceThresholds_cases catalog thresholds with
    ⟨cause, hactive, -, hdead⟩ | ⟨-, hsame⟩
  · have hover : (scene.passAway catalog cause).life.isActive = false := by
      cases hlife : (scene.passAway catalog cause).life.isActive with
      | false => rfl
      | true => cases Life.isActive_iff.1 hlife
    -- The life went on until now, so that no ending was told.
    have hsilent := h.tellsAtMost
    rw [if_pos hactive] at hsilent
    let dead : Life R := { scene.life with alive := false, endReason := some cause.name }
    have hdying : TellsAtMost 0 life dead := hsilent.pass rfl (Nat.le_refl _)
    rw [hdead, hover]
    exact hdying.trans (dead.tellsAtMost_note .ending none (overMark ++ " " ++ cause.message))
  · rw [hsame]
    exact h.tellsAtMost

/-- While a turn passes, the debt rule may speak, and the life may end. -/
theorem tellsAtMost_passTurn (setting : Setting R) (scene : Scene R A G) :
    TellsAtMost (if (scene.passTurn setting).2.life.isActive then 1 else 2) scene.life
      (scene.passTurn setting).2.life := by
  let older := scene.mapLife (·.grownOlder setting.config.aging)
  let settled : Scene R A G := { older with life := older.life.settleDebt.2 }
  have hsettled : TellsAtMost 1 scene.life settled.life := by
    have hgrow : Life.Change setting.catalog (fun _ ↦ True) scene.life older.life := .grow _ _
    have holder : TellsAtMost 0 scene.life older.life :=
      (TellsAtMost.refl scene.life).pass rfl hgrow.turn_le
    rcases older.life.settleDebt_cases with hsame | ⟨statuses, line, hspoken⟩
    · rw [show settled.life = older.life from hsame]
      exact holder.mono (Nat.zero_le 1)
    · have hindebted : TellsAtMost 0 scene.life { older.life with statuses := statuses } :=
        holder.pass rfl (Nat.le_refl _)
      rw [show settled.life = _ from hspoken]
      exact hindebted.trans (Life.tellsAtMost_note _ .feedback none line)
  let acted := settled.actStatuses setting.catalog (settled.life.statuses.map ActiveStatus.id) []
  have hacted : TellsEnding settled.life acted.2.2.life := settled.tellsEnding_actStatuses _ _
  have haged : TellsEnding settled.life (scene.aged setting).life :=
    (hacted.trans (acted.2.2.life.tellsEnding_wearStatuses _ acted.2.1)).trans
      (Life.tellsEnding_wearModifiers _)
  have hpassed := hsettled.trans
    (tellsAtMost_enforceThresholds haged setting.catalog setting.config.thresholds)
  rw [passTurn_eq]
  refine hpassed.mono ?_
  dsimp only
  split <;> exact Nat.le_refl _

end Scene

/-! ### Turns -/

namespace World

variable {R A G : Type} [Scalar R] [AchievementSink A] [RandomSource G] {setting : Setting R}
  {world : World R A G}

/-- Time that passes is told in one line, of the debt, and in two if it ends the run. -/
theorem tellsAtMost_advance (setting : Setting R) (world : World R A G) :
    TellsAtMost (if (world.advance setting).2.life.isActive then 1 else 2) world.life
      (world.advance setting).2.life := by
  cases hactive : world.life.isActive with
  | true =>
    rw [advance_of_active hactive]
    exact world.scene.tellsAtMost_passTurn setting
  | false =>
    rw [advance_of_over hactive]
    exact (TellsAtMost.refl world.life).mono (Nat.zero_le _)

/-- Time that leaves the run active has let a line be written at most. -/
theorem tellsAtMost_advance_of_active (h : (world.advance setting).2.life.isActive = true) :
    TellsAtMost 1 world.life (world.advance setting).2.life := by
  have hadvance := world.tellsAtMost_advance setting
  rwa [if_pos h] at hadvance

omit [AchievementSink A] in
theorem tellsAtMost_stage (origin : Origin) (world : World R A G) :
    TellsAtMost 1 world.life (world.stage origin).life :=
  (world.life.tellsAtMost_note .event _ _).pass rfl (Nat.le_refl _)

omit [AchievementSink A] in
theorem tellsAtMost_tellChoice (choice : Choice R) (world : World R A G) :
    TellsAtMost 1 world.life (world.tellChoice choice).life := by
  have hchosen : TellsAtMost 0 world.life
      { world.life with chosen := choice.id.elim world.life.chosen world.life.chosen.add } :=
    (TellsAtMost.refl _).pass rfl (Nat.le_refl _)
  exact hchosen.trans (Life.tellsAtMost_note _ .choice none _)

omit [AchievementSink A] in
theorem tellsAtMost_tellFeedback (feedback : Option String) (world : World R A G) :
    TellsAtMost 1 world.life (world.tellFeedback feedback).life := by
  cases feedback with
  | none => exact (TellsAtMost.refl _).mono (Nat.zero_le 1)
  | some template => exact world.life.tellsAtMost_note .feedback none _

/-- The outcomes of a result write one line at most, the ending. -/
theorem tellsAtMost_applyResult (setting : Setting R) (outcomes : List (Directive R))
    (world : World R A G) :
    TellsAtMost 1 world.life (world.applyResult setting outcomes).2.life := by
  have happlied : TellsEnding world.life (world.scene.applyAll setting.catalog outcomes).2.life :=
    world.scene.tellsEnding_applyAll outcomes
  have hended := Scene.tellsAtMost_enforceThresholds happlied setting.catalog
    setting.config.thresholds
  refine hended.mono ?_
  split <;> omega

/-- The choice is told, what comes of it, and the end. -/
theorem tellsAtMost_made (setting : Setting R) (choice : Choice R) (world : World R A G) :
    TellsAtMost 3 world.life (world.made setting choice).2.life := by
  have htold : TellsAtMost 1 world.life (world.making choice).2.life :=
    world.tellsAtMost_tellChoice choice
  exact (htold.trans (tellsAtMost_tellFeedback (world.making choice).1.feedback _)).trans
    (tellsAtMost_applyResult setting (world.making choice).1.outcomes _)

/-- An event that happens is told in four lines at most: its own, the choice, the feedback, an
ending. -/
theorem tellsAtMost_happen (setting : Setting R) (report : TurnReport R) (world : World R A G) :
    TellsAtMost 4 world.life (world.happen setting report).2.life := by
  let drawn := world.drawEvent setting
  cases hevent : drawn.1 with
  | none =>
    rw [happen_of_none hevent]
    exact (world.life.tellsAtMost_note .system none nothingLine).mono (by omega)
  | some event =>
    have hstaged : TellsAtMost 1 world.life (drawn.2.2.choosing setting event).2.2.life :=
      drawn.2.2.tellsAtMost_stage ⟨event.id, event.title, event.text⟩
    rw [happen_of_some hevent]
    cases hchoice : (drawn.2.2.choosing setting event).1 with
    | none =>
      rw [liveThrough_of_none hchoice]
      exact (hstaged.trans (Life.tellsAtMost_note _ .system none directionlessLine)).mono (by omega)
    | some choice =>
      rw [liveThrough_of_some hchoice, make_eq]
      exact hstaged.trans (tellsAtMost_made setting choice _)

/-- **A turn without a player writes five lines at most**: of the debt, the event, the choice, what
comes of it, and the end. -/
theorem tellsAtMost_runTurn (setting : Setting R) (world : World R A G) :
    TellsAtMost 5 world.life (world.runTurn setting).2.life := by
  cases hactive : (world.advance setting).2.life.isActive with
  | true =>
    rw [runTurn_of_active hactive]
    exact (tellsAtMost_advance_of_active hactive).trans (tellsAtMost_happen setting _ _)
  | false =>
    have hadvance := world.tellsAtMost_advance setting
    rw [runTurn_of_over hactive]
    refine hadvance.mono ?_
    split <;> omega

omit [AchievementSink A] in
theorem tellsAtMost_gatherOffer (setting : Setting R) (world : World R A G) :
    TellsAtMost 1 world.life (world.gatherOffer setting).2.life := by
  cases hevents : (setting.catalog.eligible setting.config.showTestEvents world.life).isEmpty with
  | true =>
    rw [gatherOffer_of_no_event hevents]
    exact world.life.tellsAtMost_note .system none nothingLine
  | false =>
    cases hoffered : (world.drawCandidates setting).1.isEmpty with
    | true =>
      rw [gatherOffer_of_no_choice hevents hoffered]
      exact world.life.tellsAtMost_note .system none directionlessLine
    | false =>
      rw [gatherOffer_of_choices hevents hoffered]
      exact (TellsAtMost.refl world.life).mono (Nat.zero_le 1)

/-- A manual turn that begins is told in two lines at most. -/
theorem tellsAtMost_beginManual (setting : Setting R) (world : World R A G) :
    TellsAtMost 2 world.life (world.beginManual setting).2.life := by
  cases hactive : (world.advance setting).2.life.isActive with
  | true =>
    rw [beginManual_of_active hactive]
    exact (tellsAtMost_advance_of_active hactive).trans (tellsAtMost_gatherOffer setting _)
  | false =>
    have hadvance := world.tellsAtMost_advance setting
    rw [beginManual_of_over hactive]
    refine hadvance.mono ?_
    split <;> omega

/-- A candidate that is resolved is told in four lines at most. -/
theorem tellsAtMost_resolve (setting : Setting R) (candidate : Candidate R)
    (world : World R A G) : TellsAtMost 4 world.life (world.resolve setting candidate).2.life :=
  (world.tellsAtMost_stage candidate.origin).trans
    (tellsAtMost_made setting candidate.choice (world.stage candidate.origin))

/-- Time that is let pass is told in three lines at most. -/
theorem tellsAtMost_passTime (setting : Setting R) (world : World R A G) :
    TellsAtMost 3 world.life (world.passTime setting).2.life :=
  (world.life.tellsAtMost_note .system none timePassesLine).trans
    (tellsAtMost_beginManual setting (world.note .system none timePassesLine))

end World

end LifeStory
