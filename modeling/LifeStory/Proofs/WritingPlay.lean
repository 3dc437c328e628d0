import LifeStory.Proofs.Writing

/-!
# Whatever is done next, lines are written

The turns of a run, with a player and without, and all moves of a session write lines and do not
read the log (`Session.writes_move`). The draws do not look at it either.

A turn is over as soon as the run is, which is looked at once in each turn, after time has passed.
The turns that are played until a run is over come one after the other only while it goes on, so
that no death in one of them is followed by anything in another.
-/

namespace LifeStory

open Logged (withLog)

/-! ### Draws -/

section Draws

variable {R G : Type} [Scalar R] [RandomSource G]

/-- The scores of choices are drawn without a look at the log. -/
theorem Choice.scoredFrom_withLog (life : Life R) (log : Log) (chaos : R) (position : Nat)
    (choices : List (Choice R)) (source : Counted G) :
    scoredFrom (withLog life log) chaos position choices source =
      scoredFrom life chaos position choices source := by
  induction choices generalizing position source with
  | nil => rfl
  | cons choice rest ih =>
    rw [scoredFrom, scoredFrom]
    dsimp only
    rw [ih]
    rfl

/-- A choice is drawn without a look at the log. -/
theorem Choice.draw_withLog (life : Life R) (log : Log) (chaos : R) (choices : List (Choice R))
    (source : Counted G) :
    draw (withLog life log) chaos choices source = draw life chaos choices source := by
  rw [draw, draw, scoredFrom_withLog]

/-- The ordinary opportunities are drawn without a look at the log. -/
theorem Opportunity.drawOrdinary_withLog (life : Life R) (log : Log) (n : Nat)
    (pool : List (Opportunity R)) (source : Counted G) :
    drawOrdinary (withLog life log) n pool source = drawOrdinary life n pool source := by
  induction n generalizing pool source with
  | zero => rfl
  | succ n ih =>
    by_cases hpool : pool = []
    · rw [hpool]
      rfl
    have hone : drawOne (withLog life log) pool source = drawOne life pool source := rfl
    cases hdrawn : (drawOne life pool source).1 with
    | none =>
      rw [drawOrdinary_of_none hpool hdrawn, drawOrdinary_of_none hpool (hone ▸ hdrawn), hone]
    | some index =>
      rw [drawOrdinary_of_some hpool hdrawn, drawOrdinary_of_some hpool (hone ▸ hdrawn), hone, ih]

/-- **An offer is drawn without a look at the log.** -/
theorem Catalog.drawCandidates_withLog (catalog : Catalog R) (config : Config R) (count : Nat)
    (life : Life R) (log : Log) (source : Counted G) :
    catalog.drawCandidates config count (withLog life log) source =
      catalog.drawCandidates config count life source := by
  have hdrawn : Opportunity.drawn catalog config count (withLog life log) source =
      Opportunity.drawn catalog config count life source := by
    rw [Opportunity.drawn, Opportunity.drawn, Opportunity.drawOrdinary_withLog]
    rfl
  rw [drawCandidates_eq, drawCandidates_eq, hdrawn]

end Draws

/-! ### Turns -/

namespace World

variable {R A G : Type} {setting : Setting R} {world : World R A G}

/-- What is done with the scene of a world is done with the world. -/
theorem writes_onScene {α : Type} {act : Scene R A G → α × Scene R A G}
    (h : Writes act world.scene) : Writes (fun world : World R A G ↦ world.onScene act) world := by
  obtain ⟨lines, hsame, htale⟩ := h
  refine ⟨lines, fun log ↦ ?_, htale⟩
  exact congrArg (fun p : α × Scene R A G ↦ (p.1, world.setScene p.2)) (hsame log)

/-- A note on an active run is a line that is written, as long as it does not tell an ending. -/
theorem writes_note (kind : LogKind) (title : Option String) (text : String)
    (hkind : kind ≠ .ending) (hactive : world.life.isActive = true) :
    Writes (fun world : World R A G ↦ world.note kind title text) world :=
  .line world.life.turn kind title text hkind hactive (fun _ ↦ rfl) ⟨rfl, rfl, rfl⟩

variable [Scalar R] [RandomSource G]

theorem standsAs_stage (origin : Origin) (world : World R A G) :
    world.life.StandsAs (world.stage origin).life := ⟨rfl, rfl, rfl⟩

/-- An event that is staged writes its line. -/
theorem writes_stage (origin : Origin) (hactive : world.life.isActive = true) :
    Writes (stage origin) world :=
  let title := world.render origin.title
  .line world.life.turn .event (Life.titleIfAny title.1) (title.2.render origin.text).1 (by decide)
    hactive (fun _ ↦ rfl) (standsAs_stage origin world)

theorem standsAs_making (choice : Choice R) (world : World R A G) :
    world.life.StandsAs (world.making choice).2.life := ⟨rfl, rfl, rfl⟩

/-- A choice that is made writes its line. -/
theorem writes_making (choice : Choice R) (hactive : world.life.isActive = true) :
    Writes (making choice) world :=
  .line world.life.turn .choice none ("> " ++ (world.render choice.text).1) (by decide) hactive
    (fun _ ↦ rfl) (standsAs_making choice world)

theorem standsAs_tellFeedback (feedback : Option String) (world : World R A G) :
    world.life.StandsAs (world.tellFeedback feedback).life := by
  cases feedback <;> exact ⟨rfl, rfl, rfl⟩

/-- Feedback writes a line where there is any. -/
theorem writes_tellFeedback (feedback : Option String) (hactive : world.life.isActive = true) :
    Writes (tellFeedback feedback) world := by
  have hstands := standsAs_tellFeedback feedback world
  cases feedback with
  | none => exact .quiet (fun _ ↦ rfl) hstands
  | some template =>
    exact .line world.life.turn .feedback none (world.render template).1 (by decide) hactive
      (fun _ ↦ rfl) hstands

/-- The draw of a choice writes nothing. -/
theorem writes_drawChoice (event : Event R) : Writes (drawChoice setting event) world := by
  refine .quiet (fun log ↦ ?_) ⟨rfl, rfl, rfl⟩
  have hdrawn := Choice.draw_withLog world.life log setting.config.choiceChaos
    (setting.catalog.available world.life event) world.streams.choices
  exact congrArg (fun drawn : Option (Choice R) × Trace R × Counted G ↦ (drawn.1, drawn.2.1,
    { withLog world log with streams := { world.streams with choices := drawn.2.2 } })) hdrawn

theorem standsAs_choosing (setting : Setting R) (event : Event R) (world : World R A G) :
    world.life.StandsAs (world.choosing setting event).2.2.life := ⟨rfl, rfl, rfl⟩

/-- To choose what to do about an event writes the line of the event. -/
theorem writes_choosing (event : Event R) (hactive : world.life.isActive = true) :
    Writes (choosing setting event) world :=
  (writes_stage _ hactive).trans (standsAs_stage _ world).undying (writes_drawChoice event)

theorem standsAs_drawEvent (setting : Setting R) (world : World R A G) :
    world.life.StandsAs (world.drawEvent setting).2.2.life := ⟨rfl, rfl, rfl⟩

/-- The draw of an event writes nothing. -/
theorem writes_drawEvent : Writes (drawEvent setting) world :=
  .quiet (fun _ ↦ rfl) (standsAs_drawEvent setting world)

variable [AchievementSink A]

/-- Time that passes writes the lines of the status effects, and of a death at its end. -/
theorem writes_advance : Writes (advance setting) world := by
  cases hactive : world.life.isActive with
  | true =>
    have hpass : Writes (Scene.passTurn setting) world.scene := Scene.writes_passTurn hactive
    refine (writes_onScene hpass).of_eq fun log ↦ ?_
    have hlogged : (withLog world log).life.isActive = true := hactive
    exact advance_of_active hlogged
  | false =>
    refine ((Writes.refl world).answering .idle).of_eq fun log ↦ ?_
    have hlogged : (withLog world log).life.isActive = false := hactive
    exact advance_of_over hlogged

/-- The outcomes of a result write lines until they end the run. -/
theorem writes_applyResult (outcomes : List (Directive R)) :
    Writes (applyResult setting outcomes) world := by
  let enforce (_ : Tally) (s : Scene R A G) : Option DeathCause × Scene R A G :=
    s.enforceThresholds setting.catalog setting.config.thresholds
  exact writes_onScene (.bind enforce (Scene.writes_applyAll outcomes)
    (Scene.undying_applyAll outcomes) (Scene.writes_enforceThresholds _))

/-- A choice writes its own line, those of its outcomes and its feedback. -/
theorem writes_make (choice : Choice R) (report : TurnReport R)
    (hactive : world.life.isActive = true) : Writes (make setting choice report) world := by
  let result (resolution : Resolution R) (w : World R A G) : Option DeathCause × World R A G :=
    (w.tellFeedback resolution.feedback).applyResult setting resolution.outcomes
  have hresult : ∀ (resolution : Resolution R) (w : World R A G), w.life.isActive = true →
      Writes (result resolution) w := fun resolution w hw ↦
    (writes_tellFeedback resolution.feedback hw).trans (standsAs_tellFeedback _ w).undying
      (writes_applyResult resolution.outcomes)
  let finish (resolution : Resolution R) (w : World R A G) : TurnReport R × World R A G :=
    (report.resolved choice.id resolution (result resolution w).1, (result resolution w).2)
  have hfinish : ∀ (resolution : Resolution R) (w : World R A G), w.life.isActive = true →
      Writes (finish resolution) w := fun resolution w hw ↦
    (hresult resolution w hw).map (report.resolved choice.id resolution)
  have hmaking := standsAs_making choice world
  exact .bind finish (writes_making choice hactive) hmaking.undying
    (hfinish _ _ (hmaking.isActive.trans hactive))

/-- An event that is lived through writes its own line and those of the choice. -/
theorem writes_liveThrough (event : Event R) (report : TurnReport R)
    (hactive : world.life.isActive = true) :
    Writes (liveThrough setting event report) world := by
  let goOn (choice : Option (Choice R)) (trace : Trace R) (w : World R A G) :
      TurnReport R × World R A G :=
    let report := { report with event := some event.id, traces := report.traces ++ [trace] }
    choice.elim (report, w.note .system none directionlessLine) fun choice ↦
      w.make setting choice report
  have hgoOn : ∀ (choice : Option (Choice R)) (trace : Trace R) (w : World R A G),
      w.life.isActive = true → Writes (goOn choice trace) w := by
    intro choice trace w hw
    cases choice with
    | some choice => exact writes_make choice _ hw
    | none => exact (writes_note .system none directionlessLine (by decide) hw).answering _
  have hstands := standsAs_choosing setting event world
  have hchosen : Writes (fun w : World R A G ↦ goOn (w.choosing setting event).1
      (w.choosing setting event).2.1 (w.choosing setting event).2.2) world :=
    .bind₂ goOn (writes_choosing event hactive) hstands.undying
      (hgoOn _ _ _ (hstands.isActive.trans hactive))
  refine hchosen.of_eq fun log ↦ ?_
  rw [liveThrough_eq]
  cases ((withLog world log).choosing setting event).1 <;> rfl

/-- Whatever happens in a turn writes lines. -/
theorem writes_happen (report : TurnReport R) (hactive : world.life.isActive = true) :
    Writes (happen setting report) world := by
  let goOn (event : Option (Event R)) (trace : Trace R) (w : World R A G) :
      TurnReport R × World R A G :=
    let report := { report with traces := report.traces ++ [trace] }
    event.elim (report, w.note .system none nothingLine) fun event ↦
      w.liveThrough setting event report
  have hgoOn : ∀ (event : Option (Event R)) (trace : Trace R) (w : World R A G),
      w.life.isActive = true → Writes (goOn event trace) w := by
    intro event trace w hw
    cases event with
    | some event => exact writes_liveThrough event _ hw
    | none => exact (writes_note .system none nothingLine (by decide) hw).answering _
  have hstands := standsAs_drawEvent setting world
  have hdrawn : Writes (fun w : World R A G ↦ goOn (w.drawEvent setting).1
      (w.drawEvent setting).2.1 (w.drawEvent setting).2.2) world :=
    .bind₂ goOn writes_drawEvent hstands.undying (hgoOn _ _ _ (hstands.isActive.trans hactive))
  refine hdrawn.of_eq fun log ↦ ?_
  rw [happen_eq]
  dsimp only
  cases ((withLog world log).drawEvent setting).1 <;> rfl

/-- Whether a run goes on after time has passed does not depend on its log. -/
theorem isActive_advance_withLog (setting : Setting R) (world : World R A G) (log : Log) :
    ((withLog world log).advance setting).2.life.isActive =
      (world.advance setting).2.life.isActive := by
  obtain ⟨lines, hsame, -⟩ : Writes (advance setting) world := writes_advance
  rw [hsame]
  rfl

/-- What is left of a turn without a player. -/
theorem writes_runTurn : Writes (fun world : World R A G ↦ (world.runTurn setting).2) world := by
  have hadvance : Writes (advance setting) world := writes_advance
  cases hactive : (world.advance setting).2.life.isActive with
  | true =>
    let play (advance : Advance) (w : World R A G) : World R A G :=
      (w.happen setting (TurnReport.blank.absorb advance)).2
    have hplayed : Writes (fun w : World R A G ↦
        play (w.advance setting).1 (w.advance setting).2) world :=
      .bind play hadvance (Life.undying_of_isActive hactive) (writes_happen _ hactive).snd
    refine hplayed.of_eq fun log ↦ ?_
    rw [runTurn_of_active ((isActive_advance_withLog setting world log).trans hactive)]
  | false =>
    refine hadvance.snd.of_eq fun log ↦ ?_
    rw [runTurn_of_over ((isActive_advance_withLog setting world log).trans hactive)]

omit [AchievementSink A] in
/-- An offer of nothing is told in one line, and an offer of candidates writes none. -/
theorem writes_gatherOffer (hactive : world.life.isActive = true) :
    Writes (gatherOffer setting) world := by
  have hdraw : Writes (drawCandidates setting) world := by
    refine .quiet (fun log ↦ ?_) ⟨rfl, rfl, rfl⟩
    have hdrawn := setting.catalog.drawCandidates_withLog setting.config
      setting.config.manualChoiceCount world.life log world.streams.choices
    exact congrArg (fun drawn : List (Candidate R) × Counted G ↦ (drawn.1,
      { withLog world log with streams := { world.streams with choices := drawn.2 } })) hdrawn
  cases hevents : (setting.catalog.eligible setting.config.showTestEvents world.life).isEmpty with
  | true =>
    have hnote := writes_note .system none nothingLine (by decide) hactive
    refine (hnote.answering Offer.timePasses).of_eq fun log ↦ ?_
    exact gatherOffer_of_no_event hevents
  | false =>
    let offer (candidates : List (Candidate R)) (w : World R A G) : Offer R × World R A G :=
      if candidates.isEmpty then (.timePasses, w.note .system none directionlessLine)
      else (.candidates candidates, w)
    have hoffer : ∀ (candidates : List (Candidate R)) (w : World R A G), w.life.isActive = true →
        Writes (offer candidates) w := by
      intro candidates w hw
      by_cases hnone : candidates.isEmpty
      · have hnote := writes_note .system none directionlessLine (by decide) hw
        exact (hnote.answering Offer.timePasses).of_eq fun _ ↦ if_pos hnone
      · exact ((Writes.refl w).answering (Offer.candidates candidates)).of_eq fun _ ↦ if_neg hnone
    have hoffered : Writes (fun w : World R A G ↦
        offer (w.drawCandidates setting).1 (w.drawCandidates setting).2) world :=
      .bind offer hdraw id (hoffer _ _ hactive)
    refine hoffered.of_eq fun log ↦ ?_
    have hlogged : (setting.catalog.eligible setting.config.showTestEvents
        (withLog world log).life).isEmpty = false := hevents
    rw [gatherOffer, if_neg (ne_true_of_eq_false hlogged)]

/-- What is left of a turn of the player, and what is offered. -/
theorem writes_beginManual : Writes (fun world : World R A G ↦
    ((world.beginManual setting).1.offer, (world.beginManual setting).2)) world := by
  have hadvance : Writes (advance setting) world := writes_advance
  cases hactive : (world.advance setting).2.life.isActive with
  | true =>
    let gather (_ : Advance) (w : World R A G) : Offer R × World R A G := w.gatherOffer setting
    have hgathered : Writes (fun w : World R A G ↦
        gather (w.advance setting).1 (w.advance setting).2) world :=
      .bind gather hadvance (Life.undying_of_isActive hactive) (writes_gatherOffer hactive)
    refine hgathered.of_eq fun log ↦ ?_
    rw [beginManual_of_active ((isActive_advance_withLog setting world log).trans hactive)]
  | false =>
    refine (hadvance.map fun _ ↦ Offer.runOver).of_eq fun log ↦ ?_
    rw [beginManual_of_over ((isActive_advance_withLog setting world log).trans hactive)]

/-- A candidate that is resolved writes lines. -/
theorem writes_resolve (candidate : Candidate R) (hactive : world.life.isActive = true) :
    Writes (fun world : World R A G ↦ (world.resolve setting candidate).2) world := by
  have hstands := standsAs_stage candidate.origin world
  have hmake : Writes (make setting candidate.choice
      { TurnReport.blank with event := some candidate.origin.id }) (world.stage candidate.origin) :=
    writes_make _ _ (hstands.isActive.trans hactive)
  exact (writes_stage candidate.origin hactive).trans hstands.undying hmake.snd

/-- Time that is let pass writes lines. -/
theorem writes_passTime (hactive : world.life.isActive = true) :
    Writes (fun world : World R A G ↦
      ((world.passTime setting).1.offer, (world.passTime setting).2)) world := by
  have hnote := writes_note .system none timePassesLine (by decide) hactive
  exact hnote.trans id writes_beginManual

end World

/-! ### Moves -/

/-- The session with another log. -/
instance {R A G : Type} : Logged R (Session R A G) :=
  ⟨Session.life, fun session log ↦ { session with world := withLog session.world log },
    fun _ ↦ rfl⟩

namespace Session

variable {R A G : Type} {session : Session R A G}

/-- What is done with the world of a session, whose offers are taken back. -/
theorem writes_moveOn {act : World R A G → World R A G} (h : Writes act session.world) :
    Writes (fun s : Session R A G ↦ s.moveOn (act s.world)) session := by
  obtain ⟨lines, hsame, htale⟩ := h
  exact ⟨lines, fun log ↦ congrArg session.moveOn (hsame log), htale⟩

/-- What is done with the world of a session, and offers something. -/
theorem writes_openOffer {act : World R A G → Offer R × World R A G}
    (h : Writes act session.world) :
    Writes (fun s : Session R A G ↦
      (⟨s.setting, (act s.world).2, (act s.world).1.pending⟩ : Session R A G)) session := by
  obtain ⟨lines, hsame, htale⟩ := h
  refine ⟨lines, fun log ↦ ?_, htale⟩
  exact congrArg (fun p : Offer R × World R A G ↦
    (⟨session.setting, p.2, p.1.pending⟩ : Session R A G)) (hsame log)

variable [Scalar R] [AchievementSink A]

/-- **A turn writes lines**, and does not read the log. -/
theorem writes_runTurn [RandomSource G] :
    Writes (fun s : Session R A G ↦ s.runTurn.2) session := by
  have hworld : Writes (fun w : World R A G ↦ (w.runTurn session.setting).2) session.world :=
    World.writes_runTurn
  exact (writes_moveOn hworld).of_eq fun _ ↦ rfl

theorem writes_runUntilOver [RandomSource G] (turns : Nat) :
    Writes (fun s : Session R A G ↦ (s.runUntilOver turns).2) session := by
  induction turns generalizing session with
  | zero => exact .quiet (fun _ ↦ rfl) (.refl _)
  | succ turns ih =>
    cases hactive : session.life.isActive with
    | false =>
      refine (Writes.refl session).of_eq fun log ↦ ?_
      have hlogged : (withLog session log).life.isActive = false := hactive
      rw [runUntilOver_of_over hlogged]
    | true =>
      -- The turns that are left write nothing where the first one ended the run.
      have hturn : Writes (fun s : Session R A G ↦ s.runTurn.2) session := writes_runTurn
      have hsplit : ∀ log, ((withLog session log).runUntilOver (turns + 1)).2 =
          ((withLog session log).runTurn.2.runUntilOver turns).2 := by
        intro log
        have hlogged : (withLog session log).life.isActive = true := hactive
        rw [runUntilOver_of_active hlogged]
      cases hnext : session.runTurn.2.life.isActive with
      | true => exact (hturn.trans (Life.undying_of_isActive hnext) ih).of_eq hsplit
      | false =>
        refine hturn.of_eq fun log ↦ ?_
        obtain ⟨_, hsame, -⟩ := hturn
        have hlogged : (withLog session log).runTurn.2.life.isActive = false := by
          rw [hsame]
          exact hnext
        rw [hsplit, runUntilOver_of_over hlogged]

/-- A choice that is refused writes nothing, and one that is made writes lines. -/
theorem writes_choose [RandomSource G] (id : CandidateId) :
    Writes (fun s : Session R A G ↦ (s.choose id).2) session := by
  by_cases hactive : session.life.isActive = true
  · cases hfind : session.pending.find? fun c ↦ c.id = id with
    | none =>
      refine (Writes.refl session).of_eq fun log ↦ ?_
      have hlogged : (withLog session log).life.isActive = true := hactive
      have hnone : (withLog session log).pending.find? (fun c ↦ c.id = id) = none := hfind
      rw [choose, if_pos hlogged, hnone]
    | some candidate =>
      have hworld : Writes (fun w : World R A G ↦ (w.resolve session.setting candidate).2)
          session.world := World.writes_resolve candidate hactive
      refine (writes_moveOn hworld).of_eq fun log ↦ ?_
      have hlogged : (withLog session log).life.isActive = true := hactive
      have hsome : (withLog session log).pending.find? (fun c ↦ c.id = id) = some candidate := hfind
      rw [choose, if_pos hlogged, hsome]
      rfl
  · refine (Writes.refl session).of_eq fun log ↦ ?_
    have hlogged : ¬ (withLog session log).life.isActive = true := hactive
    rw [choose, if_neg hlogged]

/-- Time is let pass, or not, without a look at the log. -/
theorem writes_timePasses [RandomSource G] :
    Writes (fun s : Session R A G ↦ s.timePasses.2) session := by
  by_cases hactive : session.life.isActive = true
  · have hworld : Writes (fun w : World R A G ↦
        ((w.passTime session.setting).1.offer, (w.passTime session.setting).2)) session.world :=
      World.writes_passTime hactive
    refine (writes_openOffer hworld).of_eq fun log ↦ ?_
    have hlogged : (withLog session log).life.isActive = true := hactive
    rw [timePasses, if_pos hlogged]
    rfl
  · have hquiet : Writes (fun s : Session R A G ↦ s.moveOn s.world) session :=
      .quiet (fun _ ↦ rfl) (.refl _)
    refine hquiet.of_eq fun log ↦ ?_
    have hlogged : ¬ (withLog session log).life.isActive = true := hactive
    rw [timePasses, if_neg hlogged]

/-- An ending that is triggered writes a line, and one that is refused writes nothing. -/
theorem writes_triggerEnding [RandomSource G] (ending : String) :
    Writes (fun s : Session R A G ↦ (s.triggerEnding ending).2) session := by
  have hscene : Writes (Scene.triggerEnding session.setting.catalog ending) session.world.scene :=
    Scene.writes_triggerEnding ending
  exact (writes_moveOn (World.writes_onScene hscene).snd).of_eq fun _ ↦ rfl

theorem writes_beginManual [RandomSource G] :
    Writes (fun s : Session R A G ↦ s.beginManual.2) session := by
  have hworld : Writes (fun w : World R A G ↦
      ((w.beginManual session.setting).1.offer, (w.beginManual session.setting).2))
      session.world := World.writes_beginManual
  exact (writes_openOffer hworld).of_eq fun _ ↦ rfl

/-- **Every move writes lines**, which tell what becomes of the life. -/
theorem writes_move [SeededSource G] (m : Move) :
    Writes (fun s : Session R A G ↦ (s.move m).2) session := by
  cases m with
  | runTurn => exact writes_runTurn
  | runUntilOver turns => exact writes_runUntilOver turns
  | beginManual => exact writes_beginManual
  | choose id => exact writes_choose id
  | timePasses => exact writes_timePasses
  | triggerEnding ending => exact writes_triggerEnding ending
  | reseed seed => exact .quiet (fun _ ↦ rfl) (.refl _)

end Session

end LifeStory
