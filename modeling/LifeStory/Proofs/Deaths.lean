import LifeStory.Proofs.Phases
import LifeStory.Scalar.Float

/-!
# Deaths are told truthfully

After every turn and every answer of the player, a run that goes on breaches no threshold, and a
death is told of the life if the run is dead and not otherwise, with the cause that the stats bear
out and that the life keeps as the reason (`Life.Told`).

Thresholds are enforced twice in a turn, when time has passed and when a choice has turned out. What
carries the argument from one to the other is that only thresholds make a life die: the directives
between them close a run or leave it going on (`Life.Deathless`), and nothing happens any more after
a death in the first place.

Hence no run goes on over a threshold, whatever the moves (`Session.sound_of_goOn`).
-/

namespace LifeStory

namespace Life

variable {R : Type}

/-! ### Lives that have not died -/

/-- A life that has not died: it is alive, or else an ending has closed it, and not both. -/
def Deathless (life : Life R) : Prop := life.ended = !life.alive

/-- A life that is alive and open as another has not died either. -/
theorem Deathless.of_same {life later : Life R} (h : life.Deathless)
    (halive : later.alive = life.alive) (hended : later.ended = life.ended) : later.Deathless := by
  rw [Deathless, halive, hended]
  exact h

theorem Deathless.phase_ne {life : Life R} (h : life.Deathless) : life.phase ≠ .dead := by
  cases halive : life.alive with
  | true =>
    rw [phase_of_alive halive]
    decide
  | false =>
    have hended : life.ended = true := by
      rw [h, halive]
      rfl
    rw [phase_of_not_alive halive, if_pos hended]
    decide

/-- An ending that closes a life is no death. -/
theorem deathless_closed (ending : String) (life : Life R) : (Scene.closed ending life).Deathless :=
  rfl

/-- No change leaves an ending told of a life that goes on. -/
theorem Change.unclosed [Scalar R] {catalog : Catalog R} {allowed : Directive R → Prop}
    {life next : Life R} (h : Change catalog allowed life next)
    (hlife : life.alive = true → life.ended = false) : next.alive = true → next.ended = false := by
  cases h with
  | settle =>
    rcases life.settleDebt_cases with hsettle | ⟨_, _, hsettle⟩ <;> rw [hsettle] <;> exact hlife
  | obey directive _ obeyed =>
    have hkept := kept_of_obey? obeyed
    rw [hkept.alive, hkept.ended]
    exact hlife
  | die | close =>
    intro halive
    cases halive
  | grow | wearStatuses | wearModifiers | note | stage | choose => exact hlife

/-! ### Deaths that are told -/

variable [Scalar R] {thresholds : Thresholds R}

/-- What a life may be told to have died of. -/
structure Told (thresholds : Thresholds R) (life : Life R) (death : Option DeathCause) : Prop where
  /-- A run that goes on breaches no threshold. -/
  safe : life.phase = .active → life.breach? thresholds = none
  /-- A death is told of dead lives, and of no others. -/
  dead : life.phase = .dead ↔ ∃ cause, death = some cause
  /-- No death is told of a run that an ending has closed. -/
  ended : life.phase = .ended → death = none
  /-- The cause that is told is the reason of the end, and the threshold that is breached. -/
  cause : ∀ cause, death = some cause →
    life.endReason = some cause.name ∧ life.breach? thresholds = some cause

namespace Told

/-- Of a life that stands as before the same death is told. -/
theorem of_same {life later : Life R} {death : Option DeathCause} (h : Told thresholds life death)
    (hstats : later.stats = life.stats) (halive : later.alive = life.alive)
    (hended : later.ended = life.ended) (hreason : later.endReason = life.endReason) :
    Told thresholds later death := by
  have hphase : later.phase = life.phase := phase_of_same halive hended
  have hbreach : later.breach? thresholds = life.breach? thresholds := by
    rw [breach?, breach?, hstats]
  obtain ⟨safe, dead, ended, cause⟩ := h
  constructor
  · rwa [hphase, hbreach]
  · rwa [hphase]
  · rwa [hphase]
  · rwa [hreason, hbreach]

/-- A line that is written changes nothing of it. -/
theorem note {life : Life R} {death : Option DeathCause} (h : Told thresholds life death)
    (kind : LogKind) (title : Option String) (text : String) :
    Told thresholds (life.note kind title text) death :=
  h.of_same rfl rfl rfl rfl

/-- No death is told of a life that has not died. -/
theorem of_deathless {life : Life R} (h : life.Deathless)
    (hsafe : life.isActive = true → life.breach? thresholds = none) :
    Told thresholds life none where
  safe hactive := hsafe (decide_eq_true hactive)
  dead := ⟨fun hdead ↦ absurd hdead h.phase_ne, fun ⟨_, hnone⟩ ↦ by cases hnone⟩
  ended _ := rfl
  cause _ hnone := by cases hnone

/-- Of an active life no death is told. -/
theorem none_of_active {life : Life R} {death : Option DeathCause} (h : Told thresholds life death)
    (hactive : life.isActive = true) : death = none := by
  cases death with
  | none => rfl
  | some cause =>
    have hdead : life.phase = .dead := h.dead.2 ⟨cause, rfl⟩
    rw [phase_of_alive (isActive_iff.1 hactive)] at hdead
    cases hdead

end Told

end Life

open Life (Told Deathless)

/-! ### Enforcement of thresholds -/

namespace Scene

variable {R A G : Type} [Scalar R] [AchievementSink A] [RandomSource G] {catalog : Catalog R}
  {thresholds : Thresholds R} {scene : Scene R A G}

omit [RandomSource G] in
/-- A life that passes away for the threshold that it breaches is told to have died of it. -/
theorem told_passAway {cause : DeathCause} (hended : scene.life.ended = false)
    (hbreach : scene.life.breach? thresholds = some cause) :
    Told thresholds (scene.passAway catalog cause).life (some cause) := by
  have hphase : (scene.passAway catalog cause).life.phase = .dead := by
    rw [Life.phase_of_not_alive rfl]
    exact if_neg (ne_true_of_eq_false hended)
  constructor
  · intro hactive
    rw [hphase] at hactive
    cases hactive
  · exact ⟨fun _ ↦ ⟨cause, rfl⟩, fun _ ↦ hphase⟩
  · intro hclosed
    rw [hphase] at hclosed
    cases hclosed
  · rintro _ ⟨rfl⟩
    exact ⟨rfl, hbreach⟩

omit [RandomSource G] in
/-- **What thresholds do to a life that has not died is told truthfully**, and an active life that
they leave has not died either. -/
theorem told_enforceThresholds (h : scene.life.Deathless) :
    let enforced := scene.enforceThresholds catalog thresholds
    Told thresholds enforced.2.life enforced.1 ∧
      (enforced.2.life.isActive = true → enforced.2.life.Deathless) := by
  rcases scene.enforceThresholds_cases catalog thresholds with
    ⟨cause, hactive, hbreach, henforce⟩ | ⟨hsafe, henforce⟩
  -- Who passes away was alive, hence closed by no ending.
  · have hended : scene.life.ended = false := by
      rw [h, Life.isActive_iff.1 hactive]
      rfl
    rw [henforce]
    refine ⟨told_passAway hended hbreach, fun halive ↦ ?_⟩
    cases Life.isActive_iff.1 halive
  · rw [henforce]
    exact ⟨.of_deathless h hsafe, fun _ ↦ h⟩

/-- No directive makes a life die. -/
theorem deathless_applyDirective (h : scene.life.Deathless) (directive : Directive R) :
    (scene.applyDirective catalog directive).2.life.Deathless := by
  rcases scene.applyDirective_cases catalog directive with
    ⟨ending, -, happly⟩ | ⟨id, -, happly⟩ | happly <;> rw [happly]
  · rcases scene.triggerEnding_cases catalog ending with hsame | ⟨-, _, _, _, htrigger⟩
    · rwa [hsame]
    · rw [htrigger]
      exact Life.deathless_closed ending scene.life
  · exact h
  · cases hobey : scene.life.obey? catalog directive with
    | none => exact h
    | some next =>
      have hkept := Life.kept_of_obey? hobey
      exact h.of_same hkept.alive hkept.ended

/-- No list of directives makes a life die. -/
theorem deathless_applyAll (scene : Scene R A G) (h : scene.life.Deathless)
    (outcomes : List (Directive R)) :
    (scene.applyAll catalog outcomes).2.life.Deathless :=
  applyAll_induction (P := fun s ↦ s.life.Deathless)
    (fun directive _ _ hs ↦ deathless_applyDirective hs directive) h

/-- Until the thresholds are enforced a turn makes nobody die. -/
theorem deathless_aged {setting : Setting R} (h : scene.life.Deathless) :
    (scene.aged setting).life.Deathless :=
  aged_induction (P := fun s ↦ s.life.Deathless)
    (fun _ _ halive hended hs ↦ hs.of_same halive hended)
    (fun _ _ _ directive _ _ hs ↦ deathless_applyDirective hs directive) h

end Scene

/-! ### Turns -/

namespace World

variable {R A G : Type} [Scalar R] [AchievementSink A] [RandomSource G] (setting : Setting R)
  (world : World R A G) (report : TurnReport R)

/-- The passing of time tells the deaths that it brings. -/
theorem told_advance (hactive : world.life.isActive = true) (h : world.life.Deathless) :
    Told setting.config.thresholds (world.advance setting).2.life (world.advance setting).1.death ∧
      ((world.advance setting).2.life.isActive = true →
        (world.advance setting).2.life.Deathless) := by
  have haged : (world.scene.aged setting).life.Deathless := Scene.deathless_aged h
  rw [advance_of_active hactive, onScene, Scene.passTurn_eq]
  exact Scene.told_enforceThresholds haged

/-- What comes of a choice is told when it is a death. -/
theorem told_applyResult (h : world.life.Deathless) (outcomes : List (Directive R)) :
    Told setting.config.thresholds (world.applyResult setting outcomes).2.life
      (world.applyResult setting outcomes).1 :=
  (Scene.told_enforceThresholds (world.scene.deathless_applyAll h outcomes)).1

omit [AchievementSink A] in
theorem deathless_tellFeedback (h : world.life.Deathless) (feedback : Option String) :
    (world.tellFeedback feedback).life.Deathless := by
  cases feedback <;> exact h

theorem told_make (choice : Choice R) (h : world.life.Deathless) (hdeath : report.death = none) :
    Told setting.config.thresholds (world.make setting choice report).2.life
      (world.make setting choice report).1.death := by
  have hmade : Told setting.config.thresholds (world.made setting choice).2.life
      (world.made setting choice).1 :=
    told_applyResult setting _ (deathless_tellFeedback (world.making choice).2 h _) _
  rw [make_eq]
  -- None was told before, so that what is told is what comes of the choice.
  show Told _ _ ((world.made setting choice).1.or report.death)
  rwa [hdeath, Option.or_none]

/-- A death in an event that is lived through is told. -/
theorem told_liveThrough (event : Event R) (h : world.life.Deathless)
    (hsafe : Told setting.config.thresholds world.life none) (hdeath : report.death = none) :
    Told setting.config.thresholds (world.liveThrough setting event report).2.life
      (world.liveThrough setting event report).1.death := by
  cases hchoice : (world.choosing setting event).1 with
  | some choice =>
    rw [liveThrough_of_some hchoice]
    exact told_make setting (world.choosing setting event).2.2 _ choice h hdeath
  | none =>
    rw [liveThrough_of_none hchoice]
    have hstaged : Told setting.config.thresholds
        (world.stage ⟨event.id, event.title, event.text⟩).life none :=
      hsafe.of_same rfl rfl rfl rfl
    show Told _ ((world.stage ⟨event.id, event.title, event.text⟩).life.note _ _ _) report.death
    rw [hdeath]
    exact hstaged.note _ _ _

theorem told_happen (h : world.life.Deathless)
    (hsafe : Told setting.config.thresholds world.life none) (hdeath : report.death = none) :
    Told setting.config.thresholds (world.happen setting report).2.life
      (world.happen setting report).1.death := by
  cases hevent : (world.drawEvent setting).1 with
  | some event =>
    rw [happen_of_some hevent]
    exact told_liveThrough setting (world.drawEvent setting).2.2 _ event h hsafe hdeath
  | none =>
    rw [happen_of_none hevent]
    show Told _ (world.life.note _ _ _) report.death
    rw [hdeath]
    exact hsafe.note _ _ _

/-- **A death in a turn is told** by its report. -/
theorem told_runTurn (hactive : world.life.isActive = true) (h : world.life.Deathless) :
    Told setting.config.thresholds (world.runTurn setting).2.life
      (world.runTurn setting).1.death := by
  obtain ⟨htold, hdeathless⟩ := told_advance setting world hactive h
  cases hgoes : (world.advance setting).2.life.isActive with
  | true =>
    -- No death was told so far, so that what is told comes from what happens.
    have hnone : (world.advance setting).1.death = none := htold.none_of_active hgoes
    rw [hnone] at htold
    rw [runTurn_of_active hgoes]
    exact told_happen setting _ _ (hdeathless hgoes) htold hnone
  | false =>
    rw [runTurn_of_over hgoes]
    exact htold

omit [AchievementSink A] in
/-- Offers change nothing that tells of a death. -/
theorem told_gatherOffer {death : Option DeathCause}
    (h : Told setting.config.thresholds world.life death) :
    Told setting.config.thresholds (world.gatherOffer setting).2.life death := by
  cases hevents : (setting.catalog.eligible setting.config.showTestEvents world.life).isEmpty with
  | true =>
    rw [gatherOffer_of_no_event hevents]
    exact h.note _ _ _
  | false =>
    cases hoffered : (world.drawCandidates setting).1.isEmpty with
    | true =>
      rw [gatherOffer_of_no_choice hevents hoffered]
      exact h.note _ _ _
    | false =>
      rw [gatherOffer_of_choices hevents hoffered]
      exact h

theorem told_beginManual (hactive : world.life.isActive = true) (h : world.life.Deathless) :
    Told setting.config.thresholds (world.beginManual setting).2.life
      (world.beginManual setting).1.report.death := by
  obtain ⟨htold, -⟩ := told_advance setting world hactive h
  cases hgoes : (world.advance setting).2.life.isActive with
  | true =>
    rw [beginManual_of_active hgoes]
    exact told_gatherOffer setting _ htold
  | false =>
    rw [beginManual_of_over hgoes]
    exact htold

theorem told_resolve (h : world.life.Deathless) (candidate : Candidate R) :
    Told setting.config.thresholds (world.resolve setting candidate).2.life
      (world.resolve setting candidate).1.death :=
  told_make setting (world.stage candidate.origin)
    { TurnReport.blank with event := some candidate.origin.id } candidate.choice h rfl

theorem told_passTime (hactive : world.life.isActive = true) (h : world.life.Deathless) :
    Told setting.config.thresholds (world.passTime setting).2.life
      (world.passTime setting).1.report.death :=
  told_beginManual setting (world.note .system none timePassesLine) hactive h

end World

/-! ### Sessions -/

namespace Session

variable {R A G : Type} [Scalar R] [AchievementSink A] [RandomSource G]

omit [Scalar R] [AchievementSink A] [RandomSource G] in
theorem deathless_of_active {session : Session R A G} (hactive : session.life.isActive = true)
    (hended : session.life.ended = false) : session.world.life.Deathless := by
  show session.life.ended = !session.life.alive
  rw [hended, Life.isActive_iff.1 hactive]
  rfl

/-- **Deaths are told truthfully.** When the life of a session is alive and no ending was told, then
after a turn without the player, at the beginning of a turn of the player, after an answer that is
taken and after time has passed, a run that goes on breaches no threshold, and what is told of a
death is true. Time may pass. -/
theorem deaths_are_told_truthfully (session : Session R A G) (halive : session.life.alive = true)
    (hended : session.life.ended = false) :
    let thresholds := session.setting.config.thresholds
    Told thresholds session.runTurn.2.life session.runTurn.1.death ∧
    Told thresholds session.beginManual.2.life session.beginManual.1.report.death ∧
    (∀ id report, (session.choose id).1 = .ok report →
      Told thresholds (session.choose id).2.life report.death) ∧
    ∃ turn, session.timePasses.1 = .ok turn ∧
      Told thresholds session.timePasses.2.life turn.report.death := by
  intro thresholds
  have hactive : session.world.life.isActive = true := Life.isActive_iff.2 halive
  have hdeathless : session.world.life.Deathless := deathless_of_active hactive hended
  refine ⟨World.told_runTurn _ _ hactive hdeathless, World.told_beginManual _ _ hactive hdeathless,
    fun id report htaken ↦ ?_, (session.world.passTime session.setting).1, ?_⟩
  · obtain ⟨-, candidate, -, -, hchoose⟩ := exists_of_choose_ok htaken
    rw [hchoose] at htaken ⊢
    obtain rfl := Except.ok.inj htaken
    exact World.told_resolve _ _ hdeathless candidate
  · rcases session.timePasses_cases with ⟨-, hpassed⟩ | hrefused
    · rw [hpassed]
      exact ⟨rfl, World.told_passTime _ _ hactive hdeathless⟩
    -- An active run is not refused.
    · rw [timePasses, if_pos (show session.life.isActive = true from hactive)] at hrefused
      cases congrArg Prod.fst hrefused

/-- A life without health dies of it in the next turn. -/
theorem lack_of_health_is_told :
    let life : Life Float := { Life.fresh 50 with stats := { Stats.initial with health := 0.0 } }
    let session : Session Float Ledger Xoshiro :=
      ofLife ⟨.ofBase .empty, .default⟩ 7 ⟨.empty, []⟩ life
    session.runTurn.1.death = some .health ∧ session.runTurn.2.life.phase = .dead ∧
      session.runTurn.2.life.endReason = some DeathCause.health.name := by
  intro life session
  obtain ⟨htold, -⟩ := deaths_are_told_truthfully session rfl rfl
  have hdeath : session.runTurn.1.death = some .health := by decide +kernel
  exact ⟨hdeath, htold.dead.2 ⟨.health, hdeath⟩, (htold.cause .health hdeath).1⟩

end Session

/-! ### Runs -/

namespace Session

variable {R A G : Type} [Scalar R] [AchievementSink A] [SeededSource G] {session : Session R A G}

/-- If the run goes on, no ending was told of it and it breaches no threshold. -/
def Sound (session : Session R A G) : Prop :=
  session.life.isActive = true → session.life.ended = false ∧
    session.life.breach? session.setting.config.thresholds = none

/-- A move that leaves no breached threshold to a life that goes on leaves a sound session. -/
theorem sound_of_safe (h : session.Sound) (m : Move)
    (hsafe : session.life.isActive = true → session.world.life.Deathless →
      (session.move m).2.life.phase = .active →
        (session.move m).2.life.breach? session.setting.config.thresholds = none) :
    (session.move m).2.Sound := by
  intro hactive
  have halive : (session.move m).2.life.alive = true := Life.isActive_iff.1 hactive
  -- A life that goes on went on before.
  have hbefore : session.life.isActive = true := by
    rw [Life.isActive_iff]
    cases hdead : session.life.alive with
    | true => rfl
    | false =>
      rw [(session.forward_of_move m).alive hdead] at halive
      cases halive
  obtain ⟨hended, -⟩ := h hbefore
  have hsetting : (session.move m).2.setting = session.setting := session.setting_call (.move m)
  have hunclosed : (session.move m).2.life.alive = true → (session.move m).2.life.ended = false :=
    (move_course session.only_true m).keeps (fun _ _ ↦ Life.Change.unclosed) fun _ ↦ hended
  refine ⟨hunclosed halive, ?_⟩
  rw [hsetting]
  exact hsafe hbefore (deathless_of_active hbefore hended) (of_decide_eq_true hactive)

theorem Sound.runTurn (h : session.Sound) : session.runTurn.2.Sound :=
  sound_of_safe h .runTurn fun hactive hdeathless ↦
    (World.told_runTurn session.setting session.world hactive hdeathless).safe

/-- A run that is sound stays so, however many turns are played. -/
theorem Sound.runUntilOver (h : session.Sound) (turns : Nat) :
    (session.runUntilOver turns).2.Sound := by
  induction turns generalizing session with
  | zero => exact h
  | succ turns ih =>
    cases hactive : session.life.isActive with
    | true =>
      rw [runUntilOver_of_active hactive]
      exact ih h.runTurn
    | false =>
      rw [runUntilOver_of_over hactive]
      exact h

/-- **No move leaves a life that goes on over a threshold.** -/
theorem Sound.move (h : session.Sound) (m : Move) : (session.move m).2.Sound := by
  match m with
  | .runTurn => exact h.runTurn
  | .runUntilOver turns => exact h.runUntilOver turns
  | .beginManual =>
    exact sound_of_safe h .beginManual fun hactive hdeathless ↦
      (World.told_beginManual session.setting session.world hactive hdeathless).safe
  | .choose id =>
    refine sound_of_safe h (.choose id) fun hactive hdeathless ↦ ?_
    show (session.choose id).2.life.phase = .active →
      (session.choose id).2.life.breach? session.setting.config.thresholds = none
    rcases session.choose_cases id with ⟨candidate, -, -, hchoose⟩ | ⟨_, hrefused⟩
    · rw [hchoose]
      exact (World.told_resolve session.setting session.world hdeathless candidate).safe
    · rw [hrefused]
      exact fun _ ↦ (h hactive).2
  | .timePasses =>
    refine sound_of_safe h .timePasses fun hactive hdeathless ↦ ?_
    show session.timePasses.2.life.phase = .active →
      session.timePasses.2.life.breach? session.setting.config.thresholds = none
    rcases session.timePasses_cases with ⟨-, hpassed⟩ | hrefused
    · rw [hpassed]
      exact (World.told_passTime session.setting session.world hactive hdeathless).safe
    · rw [hrefused]
      exact fun _ ↦ (h hactive).2
  | .triggerEnding ending =>
    refine sound_of_safe h (.triggerEnding ending) fun hactive _ ↦ ?_
    show (session.world.scene.triggerEnding session.setting.catalog ending).2.life.phase = .active →
      (session.world.scene.triggerEnding session.setting.catalog ending).2.life.breach? _ = none
    rcases session.world.scene.triggerEnding_cases session.setting.catalog ending with
      hsame | ⟨-, _, _, _, htrigger⟩
    · rw [hsame]
      exact fun _ ↦ (h hactive).2
    · rw [htrigger]
      intro hclosed
      cases hclosed
  | .reseed _ => exact h

/-- **No run goes on over a threshold**, whatever the moves, once it is sound. -/
theorem sound_of_goOn (h : session.Sound) (moves : List Move) : (session.goOn moves).2.Sound :=
  goOn_induction (fun _ m hs ↦ hs.move m) session h moves

end Session

end LifeStory
