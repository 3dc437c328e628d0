import LifeStory.Proofs.Phases

/-!
# What is written does not depend on the log

Play writes to the log and does not read it. Whatever log a life has, the same happens to it, and
the same lines are written (`Writing.same`); so they can be talked about apart from the log, which
keeps only the last of them. This is shown along the functions of a turn: each of them writes
(`Writes`), and one that follows another goes on with its lines (`Writing.trans`).

Beside the lines it is kept what they tell (`Life.Tale`): the life goes on as it is and no ending is
told, or it is over with the last of the lines. A life can be over twice, by a death and then by an
ending that closes it, but what follows a death in one move writes nothing. So a tale is followed by
another one only where the first is not of a death (`Life.Tale.trans`).
-/

namespace LifeStory

/-- A line that is to be written. The log gives it its number. -/
structure Line where
  turn : Nat
  kind : LogKind
  title : Option String
  text : String

namespace Log

/-- The log after a line is written to it. -/
def write (log : Log) (line : Line) : Log := log.push line.turn line.kind line.title line.text

/-- The log after lines are written to it, in order. -/
def writeAll (log : Log) (lines : List Line) : Log := lines.foldl write log

/-- Lines may be written in two parts. -/
theorem writeAll_append (log : Log) (lines more : List Line) :
    log.writeAll (lines ++ more) = (log.writeAll lines).writeAll more :=
  List.foldl_append

end Log

/-! ### Tales -/

namespace Life

variable {R : Type} {life now next : Life R} {lines more : List Line}

/-- A life that stands as an earlier one: it goes on or not, is closed or not, and is over for the
same reason. -/
structure StandsAs (life next : Life R) : Prop where
  alive : next.alive = life.alive
  ended : next.ended = life.ended
  reason : next.endReason = life.endReason

namespace StandsAs

theorem refl (life : Life R) : StandsAs life life := ⟨rfl, rfl, rfl⟩

theorem trans (h : life.StandsAs now) (hmore : now.StandsAs next) : life.StandsAs next :=
  ⟨hmore.alive.trans h.alive, hmore.ended.trans h.ended, hmore.reason.trans h.reason⟩

/-- A life that stands as another is in the same phase. -/
theorem phase (h : life.StandsAs next) : next.phase = life.phase := phase_of_same h.alive h.ended

/-- It has not died. -/
theorem undying (h : life.StandsAs next) (hdead : next.phase = .dead) : life.phase = .dead :=
  h.phase.symm.trans hdead

theorem isActive (h : life.StandsAs next) : next.isActive = life.isActive := by
  rw [Life.isActive, Life.isActive, h.phase]

end StandsAs

/-- Who is not alive is not active. -/
theorem isActive_of_not_alive (h : life.alive = false) : life.isActive = false := by
  cases hactive : life.isActive with
  | false => rfl
  | true =>
    rw [isActive_iff.1 hactive] at h
    cases h

/-- A life that goes on has not died. -/
theorem undying_of_isActive (h : now.isActive = true) (hdead : now.phase = .dead) :
    life.phase = .dead := by
  rw [phase_of_alive (isActive_iff.1 h)] at hdead
  cases hdead

/-- A life that is over and that no ending has closed is dead. -/
theorem phase_of_unclosed (hover : life.phase ≠ .active) (hopen : life.phase ≠ .ended) :
    life.phase = .dead := by
  cases hphase : life.phase with
  | active => exact absurd hphase hover
  | dead => rfl
  | ended => exact absurd hphase hopen

/-- What the lines between two points of a life tell. -/
inductive Tale (life : Life R) : List Line → Life R → Prop where
  /-- The life stands as it did, and no ending is told. Of a life that is over nothing is. -/
  | goesOn {lines : List Line} {next : Life R} (hstands : life.StandsAs next)
      (hplain : ∀ line ∈ lines, line.kind ≠ .ending)
      (hover : life.isActive = false → lines = []) : Tale life lines next
  /-- The life is over, and this is told last. A dead life is closed, and nothing else is told. -/
  | isOver {before : List Line} {last : Line} {next : Life R} (hopen : life.phase ≠ .ended)
      (hdead : life.phase = .dead → before = [] ∧ next.phase = .ended) (halive : next.alive = false)
      (hreason : next.endReason.isSome = true) (hplain : ∀ line ∈ before, line.kind ≠ .ending)
      (hlast : last.kind = .ending) : Tale life (before ++ [last]) next

namespace Tale

/-- A life that stands as it did may have nothing to tell. -/
theorem silent (h : life.StandsAs next) : Tale life [] next :=
  .goesOn h (fun _ hline ↦ absurd hline List.not_mem_nil) fun _ ↦ rfl

/-- A line that is no ending may be told of a life that goes on. -/
theorem plain {line : Line} (h : life.StandsAs next) (hactive : life.isActive = true)
    (hkind : line.kind ≠ .ending) : Tale life [line] next := by
  refine .goesOn h (fun l hl ↦ ?_) fun hover ↦ ?_
  · rw [List.mem_singleton.1 hl]
    exact hkind
  · rw [hactive] at hover
    cases hover

/-- An ending may be told of a life that none has closed. -/
theorem ending {line : Line} (hkind : line.kind = .ending) (hopen : life.phase ≠ .ended)
    (hdead : life.phase = .dead → next.phase = .ended) (halive : next.alive = false)
    (hreason : next.endReason.isSome = true) : Tale life [line] next := by
  rw [← List.nil_append [line]]
  exact .isOver hopen (fun h ↦ ⟨rfl, hdead h⟩) halive hreason
    (fun _ hline ↦ absurd hline List.not_mem_nil) hkind

/-- A tale goes on, unless it is that of a death. -/
theorem trans (h : life.Tale lines now) (hundying : now.phase = .dead → life.phase = .dead)
    (hmore : now.Tale more next) : life.Tale (lines ++ more) next := by
  cases h with
  | goesOn hstands hplain hover =>
    have hnone : life.phase = .dead → lines = [] := fun hdead ↦
      hover (decide_eq_false (by rw [hdead]; decide))
    cases hmore with
    | goesOn hstands' hplain' hover' =>
      refine .goesOn (hstands.trans hstands')
        (fun line hline ↦ (List.mem_append.1 hline).elim (hplain line) (hplain' line)) fun h ↦ ?_
      rw [hover h, hover' (hstands.isActive.trans h), List.nil_append]
    | isOver hopen hdead halive hreason hplain' hlast =>
      rw [hstands.phase] at hopen hdead
      rw [← List.append_assoc]
      refine .isOver hopen (fun h ↦ ?_) halive hreason
        (fun line hline ↦ (List.mem_append.1 hline).elim (hplain line) (hplain' line)) hlast
      rw [hnone h, (hdead h).1]
      exact ⟨rfl, (hdead h).2⟩
  | isOver hopen hdead halive hreason hplain hlast =>
    have hover : now.isActive = false := isActive_of_not_alive halive
    cases hmore with
    | goesOn hstands _ hover' =>
      rw [hover' hover, List.append_nil]
      refine .isOver hopen (fun h ↦ ?_) (hstands.alive.trans halive) ?_ hplain hlast
      · exact ⟨(hdead h).1, hstands.phase.trans (hdead h).2⟩
      · rw [hstands.reason]
        exact hreason
    | isOver hopen' =>
      -- The life was over and not ended, so it was dead, and dead before; but then it is ended.
      have hphase : now.phase = .dead := phase_of_unclosed (of_decide_eq_false hover) hopen'
      rw [(hdead (hundying hphase)).2] at hphase
      cases hphase

end Tale

end Life

open Life (StandsAs Tale)

/-! ### Writing -/

/-- What has a life whose log can be replaced. -/
class Logged (R : outParam Type) (W : Type) where
  life : W → Life R
  withLog : W → Log → W
  withLog_self : ∀ w, withLog w (life w).log = w

open Logged (withLog)

/-- The life with another log. -/
instance {R : Type} : Logged R (Life R) :=
  ⟨id, fun life log ↦ { life with log := log }, fun _ ↦ rfl⟩

/-- The scene with another log. -/
instance {R A G : Type} : Logged R (Scene R A G) :=
  ⟨Scene.life, fun scene log ↦ { scene with life := withLog scene.life log }, fun _ ↦ rfl⟩

/-- The world with another log. -/
instance {R A G : Type} : Logged R (World R A G) :=
  ⟨World.life, fun world log ↦ { world with life := withLog world.life log }, fun _ ↦ rfl⟩

/-- What is answered, with another log in what is left. -/
instance {R α W : Type} [Logged R W] : Logged R (α × W) :=
  ⟨fun p ↦ Logged.life p.2, fun p log ↦ (p.1, withLog p.2 log), fun p ↦ by
    rw [Logged.withLog_self]⟩

section Writes

variable {R α W V U : Type} [Logged R W] [Logged R V] [Logged R U]

/-- The lines are written, and nothing else depends on the log. -/
structure Writing (act : W → V) (w : W) (lines : List Line) : Prop where
  same : ∀ log, act (withLog w log) = withLog (act w) (log.writeAll lines)
  tale : (Logged.life w).Tale lines (Logged.life (act w))

/-- Lines are written, and nothing else depends on the log. -/
def Writes (act : W → V) (w : W) : Prop := ∃ lines, Writing act w lines

variable {act act' : W → V} {next : V → U} {w : W} {lines more : List Line}

/-- What changes neither the log nor whether the life is over writes nothing. -/
theorem Writes.quiet (hsame : ∀ log, act (withLog w log) = withLog (act w) log)
    (hstands : (Logged.life w).StandsAs (Logged.life (act w))) : Writes act w :=
  ⟨[], hsame, .silent hstands⟩

/-- To do nothing writes nothing. -/
theorem Writes.refl (w : W) : Writes (fun w ↦ w) w := .quiet (fun _ ↦ rfl) (.refl _)

/-- **What is written goes on with the lines of what follows**, unless that follows a death. -/
theorem Writing.trans (h : Writing act w lines)
    (hundying : (Logged.life (act w)).phase = .dead → (Logged.life w).phase = .dead)
    (hnext : Writing next (act w) more) : Writing (fun w ↦ next (act w)) w (lines ++ more) where
  same log := by rw [h.same, hnext.same, Log.writeAll_append]
  tale := h.tale.trans hundying hnext.tale

/-- What is written next is written after it, unless that follows a death. -/
theorem Writes.trans (h : Writes act w)
    (hundying : (Logged.life (act w)).phase = .dead → (Logged.life w).phase = .dead)
    (hnext : Writes next (act w)) : Writes (fun w ↦ next (act w)) w := by
  obtain ⟨lines, hlines⟩ := h
  obtain ⟨more, hmore⟩ := hnext
  exact ⟨lines ++ more, hlines.trans hundying hmore⟩

/-- What does the same as something that writes, writes. -/
theorem Writes.of_eq (h : Writes act w) (heq : ∀ log, act' (withLog w log) = act (withLog w log)) :
    Writes act' w := by
  have hself : act' w = act w := by
    rw [← Logged.withLog_self w]
    exact heq _
  obtain ⟨lines, hsame, htale⟩ := h
  refine ⟨lines, fun log ↦ ?_, ?_⟩
  · rw [heq, hself, hsame]
  · rwa [hself]

/-- What writes one line that tells no ending. -/
theorem Writes.line (turn : Nat) (kind : LogKind) (title : Option String) (text : String)
    (hkind : kind ≠ .ending) (hactive : (Logged.life w).isActive = true)
    (hsame : ∀ log, act (withLog w log) = withLog (act w) (log.push turn kind title text))
    (hstands : (Logged.life w).StandsAs (Logged.life (act w))) : Writes act w :=
  ⟨[⟨turn, kind, title, text⟩], hsame, .plain hstands hactive hkind⟩

/-- What writes one line that tells an ending. -/
theorem Writes.ending {line : Line} (hkind : line.kind = .ending)
    (hopen : (Logged.life w).phase ≠ .ended)
    (hdead : (Logged.life w).phase = .dead → (Logged.life (act w)).phase = .ended)
    (halive : (Logged.life (act w)).alive = false)
    (hreason : (Logged.life (act w)).endReason.isSome = true)
    (hsame : ∀ log, act (withLog w log) = withLog (act w) (log.write line)) : Writes act w :=
  ⟨[line], hsame, .ending hkind hopen hdead halive hreason⟩

/-- What is done with an answer that is given writes as before. -/
theorem Writes.onPair {act : α → V → U} {p : α × V} (h : Writes (act p.1) p.2) :
    Writes (fun p ↦ act p.1 p.2) p := by
  obtain ⟨lines, hsame, htale⟩ := h
  exact ⟨lines, hsame, htale⟩

/-- What is done with an answer goes on with what is left. -/
theorem Writes.bind {act : W → α × V} (next : α → V → U) (h : Writes act w)
    (hundying : (Logged.life (act w).2).phase = .dead → (Logged.life w).phase = .dead)
    (hnext : Writes (next (act w).1) (act w).2) : Writes (fun w ↦ next (act w).1 (act w).2) w :=
  h.trans hundying hnext.onPair

/-- What is done with two answers goes on with what is left. -/
theorem Writes.bind₂ {β : Type} {act : W → α × β × V} (next : α → β → V → U) (h : Writes act w)
    (hundying : (Logged.life (act w).2.2).phase = .dead → (Logged.life w).phase = .dead)
    (hnext : Writes (next (act w).1 (act w).2.1) (act w).2.2) :
    Writes (fun w ↦ next (act w).1 (act w).2.1 (act w).2.2) w :=
  h.bind (fun a p ↦ next a p.1 p.2) hundying hnext.onPair

/-- Another answer is given. -/
theorem Writes.map {β : Type} {act : W → α × V} (f : α → β) (h : Writes act w) :
    Writes (fun w ↦ (f (act w).1, (act w).2)) w := by
  obtain ⟨lines, hsame, htale⟩ := h
  exact ⟨lines, fun log ↦ congrArg (fun p : α × V ↦ (f p.1, p.2)) (hsame log), htale⟩

/-- An answer is given that nothing is asked of. -/
theorem Writes.answering (a : α) (h : Writes act w) : Writes (fun w ↦ (a, act w)) w := by
  obtain ⟨lines, hsame, htale⟩ := h
  exact ⟨lines, fun log ↦ congrArg (Prod.mk a) (hsame log), htale⟩

/-- What is left when the answer is dropped. -/
theorem Writes.snd {act : W → α × V} (h : Writes act w) : Writes (fun w ↦ (act w).2) w := by
  obtain ⟨lines, hsame, htale⟩ := h
  exact ⟨lines, fun log ↦ congrArg Prod.snd (hsame log), htale⟩

end Writes

/-! ### Lives -/

namespace Life

variable {R : Type} [Scalar R]

theorem standsAs_settleDebt (life : Life R) : life.StandsAs life.settleDebt.2 := by
  rcases life.settleDebt_cases with hsame | ⟨_, _, hsettle⟩
  · rw [hsame]
    exact .refl life
  · rw [hsettle]
    exact ⟨rfl, rfl, rfl⟩

/-- The debt rule speaks or is silent. -/
theorem writes_settleDebt {life : Life R} (hactive : life.isActive = true) :
    Writes settleDebt life := by
  have hstands := life.standsAs_settleDebt
  by_cases hfalls : life.stats.money < 0.0 ∧ !life.hasStatus debtStatus
  · have hsettle : life.settleDebt = _ := if_pos hfalls
    exact .line _ .feedback _ _ (by decide) hactive
      (fun log ↦ by rw [hsettle]; exact if_pos hfalls) hstands
  by_cases hrises : 0.0 ≤ life.stats.money ∧ life.hasStatus debtStatus
  · have hsettle : life.settleDebt = _ := (if_neg hfalls).trans (if_pos hrises)
    exact .line _ .feedback _ _ (by decide) hactive
      (fun log ↦ by rw [hsettle]; exact (if_neg hfalls).trans (if_pos hrises)) hstands
  · have hsettle : life.settleDebt = _ := (if_neg hfalls).trans (if_neg hrises)
    refine .quiet (fun log ↦ ?_) hstands
    rw [hsettle]
    exact (if_neg hfalls).trans (if_neg hrises)

end Life

/-! ### Scenes -/

namespace Scene

variable {R A G : Type} [Scalar R] [AchievementSink A] [RandomSource G] {catalog : Catalog R}
  {scene : Scene R A G}

omit [Scalar R] [AchievementSink A] [RandomSource G] in
/-- A note on an active run is a line that is no ending. -/
theorem writes_note (kind : LogKind) (title : Option String) (text : String)
    (hkind : kind ≠ .ending) (hactive : scene.life.isActive = true) :
    Writes (fun scene : Scene R A G ↦ scene.note kind title text) scene :=
  .line scene.life.turn kind title text hkind hactive (fun _ ↦ rfl) ⟨rfl, rfl, rfl⟩

omit [AchievementSink A] in
/-- Telling an ending writes a line of it. -/
theorem exists_line_of_tellEnding (catalog : Catalog R) (id : String) (scene : Scene R A G) :
    ∃ line : Line, line.kind = .ending ∧ ∀ log, (withLog scene log).tellEnding catalog id =
      withLog (scene.tellEnding catalog id) (log.write line) := by
  cases hending : catalog.ending? id with
  | none =>
    refine ⟨⟨scene.life.turn, .ending, none, overMark ++ " " ++ genericEnding⟩, rfl, fun log ↦ ?_⟩
    rw [tellEnding, tellEnding, hending]
    rfl
  | some ending =>
    let title := Template.render scene.life ending.title scene.text
    let text := Template.render scene.life ending.text title.2
    refine ⟨⟨scene.life.turn, .ending, Life.titleIfAny title.1, overMark ++ " " ++ text.1⟩, rfl,
      fun log ↦ ?_⟩
    rw [tellEnding, tellEnding, hending]
    rfl

/-- An ending writes its line, or nothing if one has closed the run. -/
theorem writes_triggerEnding (id : String) : Writes (triggerEnding catalog id) scene := by
  by_cases hphase : scene.life.phase = .ended
  · refine ((Writes.refl scene).answering false).of_eq fun log ↦ ?_
    have hended : (withLog scene log).life.phase = .ended := hphase
    exact triggerEnding_of_ended hended id
  · let closing := scene.mapLife (closed id)
    obtain ⟨line, hkind, hline⟩ := exists_line_of_tellEnding catalog id closing
    have htold : closing.life.StandsAs (closing.tellEnding catalog id).life := by
      obtain ⟨_, _, _, htold⟩ := tellEnding_eq catalog id closing
      rw [htold]
      exact ⟨rfl, rfl, rfl⟩
    have hreason : closing.life.endReason.isSome = true := by
      show (if scene.life.alive then some id else some _).isSome = true
      split <;> rfl
    have hclose : Writes (fun scene : Scene R A G ↦
        (true, ((scene.mapLife (closed id)).tellEnding catalog id).reportAchievements catalog))
        scene :=
      .ending hkind hphase (fun _ ↦ htold.phase) htold.alive
        (by rw [← htold.reason] at hreason; exact hreason)
        fun log ↦ congrArg (fun s : Scene R A G ↦ (true, s.reportAchievements catalog)) (hline log)
    refine hclose.of_eq fun log ↦ ?_
    have hopen : (withLog scene log).life.phase ≠ .ended := hphase
    exact triggerEnding_of_not_ended hopen id

omit [RandomSource G] in
/-- A life that passes away is told to be over. -/
theorem writes_passAway (catalog : Catalog R) (cause : DeathCause)
    (hactive : scene.life.isActive = true) :
    Writes (fun scene : Scene R A G ↦ (some cause, scene.passAway catalog cause)) scene := by
  have hphase : scene.life.phase = .active := of_decide_eq_true hactive
  have hne : ∀ phase, phase ≠ .active → scene.life.phase ≠ phase := fun phase hne h ↦
    hne (h.symm.trans hphase)
  let last : Line := ⟨scene.life.turn, .ending, none, overMark ++ " " ++ cause.message⟩
  have hlast : last.kind = .ending := rfl
  exact .ending hlast (hne .ended (by decide))
    (fun hdead ↦ absurd hdead (hne .dead (by decide))) rfl rfl fun _ ↦ rfl

omit [RandomSource G] in
/-- Thresholds write the line of a death, or nothing. -/
theorem writes_enforceThresholds (thresholds : Thresholds R) :
    Writes (enforceThresholds catalog thresholds) scene := by
  rcases scene.enforceThresholds_cases catalog thresholds with
    ⟨cause, hactive, hbreach, -⟩ | ⟨hsafe, -⟩
  · refine (writes_passAway catalog cause hactive).of_eq fun log ↦ ?_
    have hlogged : (withLog scene log).life.isActive = true := hactive
    exact enforceThresholds_of_breach hlogged hbreach
  · refine ((Writes.refl scene).answering none).of_eq fun log ↦ ?_
    have hlogged : (withLog scene log).life.isActive = true →
        (withLog scene log).life.breach? thresholds = none := hsafe
    exact enforceThresholds_of_safe hlogged

/-- A directive that asks for a change of the life alone writes nothing. -/
theorem writes_obey {directive : Directive R}
    (h : ∀ scene : Scene R A G, scene.applyDirective catalog directive =
      scene.accept (scene.life.obey? catalog directive)) :
    Writes (applyDirective catalog directive) scene := by
  refine .quiet (fun log ↦ ?_) ?_
  · have hobey : (withLog scene log).life.obey? catalog directive =
        (scene.life.obey? catalog directive).map (withLog · log) :=
      Life.obey?_relog catalog (fun _ ↦ log) scene.life directive
    rw [h, h, hobey]
    cases scene.life.obey? catalog directive <;> rfl
  · rw [h]
    cases hobey : scene.life.obey? catalog directive with
    | none => exact .refl _
    | some next =>
      have hkept := Life.kept_of_obey? hobey
      exact ⟨hkept.alive, hkept.ended, hkept.endReason⟩

/-- A directive writes nothing, unless it is an ending. -/
theorem writes_applyDirective (directive : Directive R) :
    Writes (applyDirective catalog directive) scene := by
  cases directive with
  | triggerEnding ending => exact writes_triggerEnding ending
  | unlockAchievement id => exact .quiet (fun _ ↦ rfl) (.refl _)
  | _ => exact writes_obey fun _ ↦ rfl

/-- No directive makes a life die. -/
theorem undying_applyDirective (directive : Directive R)
    (h : (scene.applyDirective catalog directive).2.life.phase = .dead) :
    scene.life.phase = .dead := by
  rcases scene.applyDirective_cases catalog directive with
    ⟨ending, rfl, happly⟩ | ⟨id, rfl, happly⟩ | happly
  · rw [happly] at h
    rcases scene.triggerEnding_cases catalog ending with hsame | ⟨-, _, _, _, htrigger⟩
    · rwa [hsame] at h
    · rw [htrigger] at h
      cases h
  · rwa [happly] at h
  · rw [happly] at h
    cases hobey : scene.life.obey? catalog directive with
    | none => rwa [hobey] at h
    | some next =>
      have hkept := Life.kept_of_obey? hobey
      rw [hobey] at h
      rw [← Life.phase_of_same hkept.alive hkept.ended]
      exact h

/-- A list of directives writes what its directives write, one after the other. -/
theorem writes_applyFrom (outcomes : List (Directive R)) (tally : Tally) :
    Writes (applyFrom catalog outcomes tally) scene := by
  induction outcomes generalizing scene tally with
  | nil => exact (Writes.refl scene).answering tally
  | cons directive rest ih =>
    exact .bind (fun applied ↦ applyFrom catalog rest (tally.count directive applied))
      (writes_applyDirective directive) (undying_applyDirective directive) (ih _)

theorem writes_applyAll (outcomes : List (Directive R)) :
    Writes (applyAll catalog outcomes) scene :=
  writes_applyFrom outcomes .zero

/-- No list of directives makes a life die. -/
theorem undying_applyAll (outcomes : List (Directive R))
    (h : (scene.applyAll catalog outcomes).2.life.phase = .dead) : scene.life.phase = .dead :=
  applyAll_induction (P := fun s ↦ s.life.phase = .dead → scene.life.phase = .dead)
    (fun directive _ _ hs hdead ↦ hs (undying_applyDirective directive hdead)) id h

theorem writes_actStatuses (active removed : List String) :
    Writes (actStatuses catalog active removed) scene := by
  induction active generalizing scene removed with
  | nil => exact .quiet (fun _ ↦ rfl) (.refl _)
  | cons id rest ih =>
    by_cases hout : id ∈ removed ∨ ¬ scene.life.hasStatus id
    · refine (ih removed).of_eq fun log ↦ ?_
      have hlogged : id ∈ removed ∨ ¬ (withLog scene log).life.hasStatus id := hout
      rw [actStatuses, if_pos hlogged]
    cases heffect : catalog.statusEffect? id with
    | none =>
      refine (ih removed).of_eq fun log ↦ ?_
      have hlogged : ¬ (id ∈ removed ∨ ¬ (withLog scene log).life.hasStatus id) := hout
      rw [actStatuses, if_neg hlogged, heffect]
    | some effect =>
      let goOn (tally : Tally) (s : Scene R A G) : List String × List String × Scene R A G :=
        let later := s.actStatuses catalog rest (removed ++ tally.removed)
        (id :: later.1, later.2)
      have hact : Writes (fun s : Scene R A G ↦ goOn (s.applyAll catalog effect.outcomes).1
          (s.applyAll catalog effect.outcomes).2) scene :=
        .bind goOn (writes_applyAll effect.outcomes) (undying_applyAll effect.outcomes)
          ((ih _).map (id :: ·))
      refine hact.of_eq fun log ↦ ?_
      have hlogged : ¬ (id ∈ removed ∨ ¬ (withLog scene log).life.hasStatus id) := hout
      rw [actStatuses, if_neg hlogged, heffect]

/-- No status effect makes a life die: that is for the thresholds. -/
theorem undying_actStatuses (active removed : List String)
    (h : (scene.actStatuses catalog active removed).2.2.life.phase = .dead) :
    scene.life.phase = .dead :=
  actStatuses_induction (P := fun s ↦ s.life.phase = .dead → scene.life.phase = .dead)
    (fun _ _ _ directive _ _ hs hdead ↦ hs (undying_applyDirective directive hdead)) id active
    removed h

omit [AchievementSink A] [RandomSource G] in
/-- The debt rule speaks in a scene. -/
theorem writes_settle (hactive : scene.life.isActive = true) :
    Writes (fun scene : Scene R A G ↦
      (scene.life.settleDebt.1, { scene with life := scene.life.settleDebt.2 })) scene := by
  obtain ⟨lines, hsame, htale⟩ := Life.writes_settleDebt hactive
  refine ⟨lines, fun log ↦ ?_, htale⟩
  exact congrArg (fun p : Option DebtChange × Life R ↦ (p.1, { scene with life := p.2 }))
    (hsame log)

/-- A tick of the status effects writes of the debt, and what the effects write. -/
theorem writes_tickStatuses (hactive : scene.life.isActive = true) :
    Writes (tickStatuses catalog) scene := by
  let wear (debt : Option DebtChange) (active ticked : List String)
      (acted : List String × Scene R A G) : StatusTick × Scene R A G :=
    let worn := acted.2.life.wearStatuses active acted.1
    (⟨debt, ticked, worn.1⟩, { acted.2 with life := worn.2 })
  let act (active : List String) (debt : Option DebtChange) (s : Scene R A G) :
      StatusTick × Scene R A G :=
    wear debt active (s.actStatuses catalog active []).1 (s.actStatuses catalog active []).2
  have hact : ∀ active debt, ∀ s : Scene R A G, Writes (act active debt) s := fun active debt s ↦
    .bind (wear debt active) (writes_actStatuses active []) (undying_actStatuses active [])
      (.quiet (fun _ ↦ rfl) ⟨rfl, rfl, rfl⟩)
  let tick (debt : Option DebtChange) (s : Scene R A G) : StatusTick × Scene R A G :=
    act (s.life.statuses.map ActiveStatus.id) debt s
  have htick : ∀ debt, ∀ s : Scene R A G, Writes (tick debt) s := fun debt s ↦
    (hact (s.life.statuses.map ActiveStatus.id) debt s).of_eq fun _ ↦ rfl
  have hstands := scene.life.standsAs_settleDebt
  exact .bind tick (writes_settle hactive) hstands.undying (htick _ _)

theorem undying_tickStatuses (h : (scene.tickStatuses catalog).2.life.phase = .dead) :
    scene.life.phase = .dead := by
  have hsettled := undying_actStatuses _ _ h
  exact scene.life.standsAs_settleDebt.undying hsettled

/-- A turn that passes writes of the tick and of a death. -/
theorem writes_passTurn {setting : Setting R} (hactive : scene.life.isActive = true) :
    Writes (passTurn setting) scene := by
  let older := scene.mapLife (·.grownOlder setting.config.aging)
  have holder : Writes
      (fun s : Scene R A G ↦ s.mapLife (·.grownOlder setting.config.aging)) scene :=
    .quiet (fun _ ↦ rfl) ⟨rfl, rfl, rfl⟩
  have hactive' : older.life.isActive = true := hactive
  have hticked : Writes (fun s : Scene R A G ↦
      (s.mapLife (·.grownOlder setting.config.aging)).tickStatuses setting.catalog) scene :=
    holder.trans id (writes_tickStatuses hactive')
  let enforce (status : StatusTick) (s : Scene R A G) : Advance × Scene R A G :=
    let worn := s.life.wearModifiers
    let enforced := { s with life := worn.2 }.enforceThresholds setting.catalog
      setting.config.thresholds
    (⟨status, worn.1, enforced.1⟩, enforced.2)
  have henforce : ∀ status, ∀ s : Scene R A G, Writes (enforce status) s := fun status s ↦ by
    have hworn : Writes (fun s : Scene R A G ↦
        (s.life.wearModifiers.1, { s with life := s.life.wearModifiers.2 })) s :=
      .quiet (fun _ ↦ rfl) ⟨rfl, rfl, rfl⟩
    let last (expired : Nat) (s : Scene R A G) : Advance × Scene R A G :=
      let enforced := s.enforceThresholds setting.catalog setting.config.thresholds
      (⟨status, expired, enforced.1⟩, enforced.2)
    exact .bind last hworn id
      ((writes_enforceThresholds _).map (Advance.mk status s.life.wearModifiers.1))
  exact .bind enforce hticked undying_tickStatuses (henforce _ _)

/-! ### Beginnings -/

theorem writes_receiveTalent (talent : Talent R) :
    Writes (fun scene : Scene R A G ↦ scene.receiveTalent catalog talent) scene := by
  let received : Scene R A G := scene.mapLife fun life ↦
    { life with talents := life.talents ++ [⟨talent.id, talent.name⟩] }
  have hreceived : Writes (fun scene : Scene R A G ↦ scene.mapLife fun life ↦
      { life with talents := life.talents ++ [⟨talent.id, talent.name⟩] }) scene :=
    .quiet (fun _ ↦ rfl) ⟨rfl, rfl, rfl⟩
  have heffects : Writes (applyAll catalog talent.effects) received :=
    writes_applyAll talent.effects
  exact hreceived.trans id heffects.snd

theorem writes_receiveAll (chosen : List (Talent R)) :
    Writes (fun scene : Scene R A G ↦ chosen.foldl (receiveTalent catalog) scene) scene := by
  induction chosen generalizing scene with
  | nil => exact .refl scene
  | cons talent rest ih =>
    exact (writes_receiveTalent talent).trans (undying_applyAll talent.effects) ih

/-- A life that is not yet told of receives talents. -/
def opened (catalog : Catalog R) (talents : List String) (scene : Scene R A G) : Scene R A G :=
  let chosen := talents.filterMap catalog.talent?
  chosen.foldl (receiveTalent catalog)
    ((scene.note .system none resetLine).note .system none (talentLine (chosen.map Talent.name)))

/-- The scene of a life that begins, before anything is told of it. -/
def unborn (catalog : Catalog R) (scene : Scene R A G) : Scene R A G :=
  { scene with life := { Life.fresh 1 with customStats := catalog.initialStats } }

/-- A life begins as one that is opened with an empty log. -/
theorem begin_eq_opened (catalog : Catalog R) (capacity : Nat) (talents : List String)
    (scene : Scene R A G) :
    scene.begin catalog capacity talents =
      (withLog (scene.unborn catalog) (Log.empty capacity)).opened catalog talents :=
  rfl

theorem writes_opened (talents : List String) (hactive : scene.life.isActive = true) :
    Writes (opened catalog talents) scene := by
  let chosen := talents.filterMap catalog.talent?
  have hreset : Writes (fun s : Scene R A G ↦ s.note .system none resetLine) scene :=
    writes_note .system none resetLine (by decide) hactive
  have htalents : Writes (fun s : Scene R A G ↦
      s.note .system none (talentLine (chosen.map Talent.name)))
      (scene.note .system none resetLine) :=
    writes_note .system none _ (by decide) hactive
  exact (hreset.trans id htalents).trans id (writes_receiveAll chosen)

end Scene

end LifeStory
