import LifeStory.Proofs.Directives
import LifeStory.Proofs.Draws
import LifeStory.Turn.Play

/-!
# Turns, branch by branch

What the functions of a turn answer on each of their branches, with the draws that were made on the
way named once. Later proofs go through these equations and do not open the functions. What is drawn
is among what it is drawn from.

Before the thresholds are enforced time does what it does to a life and lets directives act
(`Scene.aged_induction`).
-/

namespace LifeStory

/-! ### Draws -/

section Draws

variable {R G : Type} [Scalar R] [RandomSource G]

/-- The event that is drawn may take place. -/
theorem Catalog.mem_of_drawEvent {catalog : Catalog R} {showTests : Bool} {life : Life R}
    {source : Counted G} {event : Event R}
    (h : (catalog.drawEvent showTests life source).1 = some event) :
    event ∈ catalog.eligible showTests life := by
  obtain ⟨position, -, hget⟩ := Option.bind_eq_some_iff.1 h
  exact List.mem_of_getElem? hget

/-- The choice that is drawn is one of those that it is drawn from. -/
theorem Choice.mem_of_draw {life : Life R} {chaos : R} {choices : List (Choice R)}
    {source : Counted G} {choice : Choice R}
    (h : (Choice.draw life chaos choices source).1 = some choice) : choice ∈ choices := by
  obtain ⟨position, -, hget⟩ := Option.bind_eq_some_iff.1 h
  exact List.mem_of_getElem? hget

/-- What comes of a choice is among all that it may do. -/
theorem Choice.outcomes_resolve (choice : Choice R) (source : Counted G) :
    (choice.resolve source).1.outcomes ⊆ choice.allOutcomes :=
  (choice.mayComeTo_resolve source).subset

end Draws

/-! ### Offers -/

namespace Opportunity

variable {R G : Type} [Scalar R] [RandomSource G] {life : Life R} {pool : List (Opportunity R)}
  {source : Counted G}

/-- The draw of an ordinary opportunity: its position in the pool. -/
def drawOne (life : Life R) (pool : List (Opportunity R)) (source : Counted G) :
    Option Nat × Counted G :=
  let drawn := (Trace.ofCandidates "manual" (pool.map (weighted life))).draw source
  (drawn.1, drawn.2.2)

/-- The ordinary opportunities are drawn one after the other, each from those that are left. -/
theorem drawOrdinary_eq (hpool : pool ≠ []) (n : Nat) :
    drawOrdinary life (n + 1) pool source =
      match (drawOne life pool source).1 with
      | none => ([], (drawOne life pool source).2)
      | some index =>
        let more := drawOrdinary life n (pool.eraseIdx index) (drawOne life pool source).2
        ((pool[index]?).toList ++ more.1, more.2) := by
  cases pool with
  | nil => exact absurd rfl hpool
  | cons o rest =>
    rw [drawOrdinary, drawOne]
    · dsimp only
      split <;> next hdraw => rw [hdraw]
    · exact fun h ↦ absurd h hpool

/-- A draw that finds nothing is the last one. -/
theorem drawOrdinary_of_none (hpool : pool ≠ []) (h : (drawOne life pool source).1 = none)
    (n : Nat) : drawOrdinary life (n + 1) pool source = ([], (drawOne life pool source).2) := by
  rw [drawOrdinary_eq hpool, h]

/-- What is drawn is taken out of the pool for the next draw. -/
theorem drawOrdinary_of_some {index : Nat} (hpool : pool ≠ [])
    (h : (drawOne life pool source).1 = some index) (n : Nat) :
    drawOrdinary life (n + 1) pool source =
      let more := drawOrdinary life n (pool.eraseIdx index) (drawOne life pool source).2
      ((pool[index]?).toList ++ more.1, more.2) := by
  rw [drawOrdinary_eq hpool, h]

/-- The opportunities that are drawn for an offer: special ones, then ordinary ones. -/
def drawn (catalog : Catalog R) (config : Config R) (count : Nat) (life : Life R)
    (source : Counted G) : List (Opportunity R) × Counted G :=
  let opportunities := all catalog config.showTestEvents life
  let first := offerSpecial config.specialChoiceChance
    (opportunities.filter fun o ↦ o.choice.special) source
  let others := drawOrdinary life (count - first.1.length)
    (opportunities.filter fun o ↦ !o.choice.special) first.2
  (first.1 ++ others.1, others.2)

end Opportunity

/-- The candidates are the opportunities that are drawn, with names. -/
theorem Catalog.drawCandidates_eq {R G : Type} [Scalar R] [RandomSource G] (catalog : Catalog R)
    (config : Config R) (count : Nat) (life : Life R) (source : Counted G) :
    catalog.drawCandidates config count life source =
      Opportunity.toCandidates (Opportunity.drawn catalog config count life source).1
        (Opportunity.drawn catalog config count life source).2 := by
  rw [drawCandidates, List.partition_eq_filter_filter]
  rfl

/-- The report with what came of a choice. -/
def TurnReport.resolved {R : Type} (report : TurnReport R) (choice : Option String)
    (resolution : Resolution R) (death : Option DeathCause) : TurnReport R :=
  { report with
    choice := choice
    bucket := resolution.bucket
    traces := report.traces ++ resolution.trace.toList
    death := death.or report.death }

/-! ### Endings -/

namespace Scene

variable {R A G : Type} [Scalar R] [AchievementSink A] [RandomSource G] {catalog : Catalog R}
  {scene : Scene R A G}

omit [AchievementSink A] in
/-- Telling an ending draws from the text source and writes one line. -/
theorem tellEnding_eq (catalog : Catalog R) (id : String) (scene : Scene R A G) :
    ∃ title text source, scene.tellEnding catalog id =
      { scene with life := scene.life.note .ending title text, text := source } := by
  rw [tellEnding]
  split <;> exact ⟨_, _, _, rfl⟩

/-- No ending closes a run that an ending has closed. -/
theorem triggerEnding_of_ended (h : scene.life.phase = .ended) (id : String) :
    scene.triggerEnding catalog id = (false, scene) := by
  rw [triggerEnding, h]

/-- An ending closes a run that no ending has closed yet, is told, and may bring achievements. -/
theorem triggerEnding_of_not_ended (h : scene.life.phase ≠ .ended) (id : String) :
    scene.triggerEnding catalog id =
      (true, ((scene.mapLife (closed id)).tellEnding catalog id).reportAchievements catalog) := by
  rw [triggerEnding]
  split
  · next hended => exact absurd hended h
  · rfl

/-- An ending changes nothing when one has closed the run; else it closes the life, writes a line
and reports the achievements of the life that is left. -/
theorem triggerEnding_cases (catalog : Catalog R) (id : String) (scene : Scene R A G) :
    scene.triggerEnding catalog id = (false, scene) ∨
    scene.life.phase ≠ .ended ∧ ∃ title text source, scene.triggerEnding catalog id =
      (true, reportAchievements catalog
        { scene with life := (closed id scene.life).note .ending title text, text := source }) := by
  by_cases hphase : scene.life.phase = .ended
  · exact .inl (triggerEnding_of_ended hphase id)
  · obtain ⟨title, text, source, htold⟩ := tellEnding_eq catalog id (scene.mapLife (closed id))
    refine .inr ⟨hphase, title, text, source, ?_⟩
    rw [triggerEnding_of_not_ended hphase, htold]
    rfl

/-! ### Thresholds -/

section Thresholds

variable {thresholds : Thresholds R}

omit [RandomSource G] in
/-- An active run whose life breaches a threshold ends by it. -/
theorem enforceThresholds_of_breach {cause : DeathCause} (hactive : scene.life.isActive = true)
    (hbreach : scene.life.breach? thresholds = some cause) :
    scene.enforceThresholds catalog thresholds = (some cause, scene.passAway catalog cause) := by
  rw [enforceThresholds, if_pos hactive, hbreach]

omit [RandomSource G] in
/-- A run that is over, or breaches nothing, is left as it is. -/
theorem enforceThresholds_of_safe
    (h : scene.life.isActive = true → scene.life.breach? thresholds = none) :
    scene.enforceThresholds catalog thresholds = (none, scene) := by
  rw [enforceThresholds]
  split
  · next hactive => rw [h hactive]
  · rfl

omit [RandomSource G] in
/-- Thresholds change nothing, or an active life that breaches one passes away. -/
theorem enforceThresholds_cases (catalog : Catalog R) (thresholds : Thresholds R)
    (scene : Scene R A G) :
    (∃ cause, scene.life.isActive = true ∧ scene.life.breach? thresholds = some cause ∧
      scene.enforceThresholds catalog thresholds = (some cause, scene.passAway catalog cause)) ∨
    (scene.life.isActive = true → scene.life.breach? thresholds = none) ∧
      scene.enforceThresholds catalog thresholds = (none, scene) := by
  rw [enforceThresholds]
  split
  · next hactive =>
    split
    · next cause hbreach => exact .inl ⟨cause, hactive, hbreach, rfl⟩
    · next hsafe => exact .inr ⟨fun _ ↦ hsafe, rfl⟩
  · next hover => exact .inr ⟨fun hactive ↦ absurd hactive hover, rfl⟩

end Thresholds

/-! ### Time -/

/-- The scene in which the thresholds are enforced when a turn passes. -/
def aged (setting : Setting R) (scene : Scene R A G) : Scene R A G :=
  let ticked := ((scene.mapLife (·.grownOlder setting.config.aging)).tickStatuses setting.catalog).2
  { ticked with life := ticked.life.wearModifiers.2 }

/-- A turn passes by ageing, ticking and enforcing the thresholds, in this order. -/
theorem passTurn_eq {setting : Setting R} :
    scene.passTurn setting =
      let ticked :=
        (scene.mapLife (·.grownOlder setting.config.aging)).tickStatuses setting.catalog
      let enforced :=
        (scene.aged setting).enforceThresholds setting.catalog setting.config.thresholds
      (⟨ticked.1, ticked.2.life.wearModifiers.1, enforced.1⟩, enforced.2) :=
  rfl

/-- What is kept by every change that leaves alone whether the life goes on, and by every directive
of a status effect, is kept until the thresholds are enforced. -/
theorem aged_induction {P : Scene R A G → Prop} {setting : Setting R}
    (time : ∀ (scene : Scene R A G) (life : Life R), life.alive = scene.life.alive →
      life.ended = scene.life.ended → P scene → P { scene with life := life })
    (step : ∀ id effect, setting.catalog.statusEffect? id = some effect →
      ∀ directive ∈ effect.outcomes, ∀ scene, P scene →
        P (scene.applyDirective setting.catalog directive).2)
    {scene : Scene R A G} (h : P scene) : P (scene.aged setting) := by
  let older := scene.mapLife (·.grownOlder setting.config.aging)
  have hsettled : P { older with life := older.life.settleDebt.2 } := by
    have holder : P older := time scene _ rfl rfl h
    rcases older.life.settleDebt_cases with hsame | ⟨statuses, line, hsettle⟩
    · rwa [hsame]
    · rw [hsettle]
      exact time older _ rfl rfl holder
  have hacted := actStatuses_induction step hsettled
    (older.life.settleDebt.2.statuses.map ActiveStatus.id) []
  -- What is left of the turn wears out statuses and modifiers.
  exact time _ _ rfl rfl (time _ _ rfl rfl hacted)

end Scene

namespace World

variable {R A G : Type} [Scalar R] [AchievementSink A] [RandomSource G] {setting : Setting R}
  {world : World R A G} {report : TurnReport R}

/-! ### Time -/

/-- Time passes over an active run as over its scene. -/
theorem advance_of_active (h : world.life.isActive = true) :
    world.advance setting = world.onScene (Scene.passTurn setting) :=
  if_pos h

/-- Time does not pass over a run that has ended. -/
theorem advance_of_over (h : world.life.isActive = false) :
    world.advance setting = (.idle, world) :=
  if_neg (ne_true_of_eq_false h)

/-! ### Choices that are made -/

/-- How a choice turns out, in the world in which it was told. -/
def making (choice : Choice R) (world : World R A G) : Resolution R × World R A G :=
  (world.tellChoice choice).drawResult choice

/-- What comes of a choice, with the cause if it ends the life. -/
def made (setting : Setting R) (choice : Choice R) (world : World R A G) :
    Option DeathCause × World R A G :=
  let made := world.making choice
  (made.2.tellFeedback made.1.feedback).applyResult setting made.1.outcomes

/-- What is made of a choice: a report of how it was resolved, and the world that it leaves. -/
theorem make_eq (choice : Choice R) :
    world.make setting choice report =
      (report.resolved choice.id (world.making choice).1 (world.made setting choice).1,
        (world.made setting choice).2) :=
  rfl

/-! ### Turns without a player -/

/-- The world in which the life chooses, with the choice and the record of the draw. -/
def choosing (setting : Setting R) (event : Event R) (world : World R A G) :
    Option (Choice R) × Trace R × World R A G :=
  (world.stage ⟨event.id, event.title, event.text⟩).drawChoice setting event

/-- The report on an event, with the record of what the life was to choose from. -/
def staging (setting : Setting R) (event : Event R) (report : TurnReport R)
    (world : World R A G) : TurnReport R :=
  { report with
    event := some event.id, traces := report.traces ++ [(world.choosing setting event).2.1] }

/-- An event is lived through by the choice that is made in it, or without one. -/
theorem liveThrough_eq {event : Event R} :
    world.liveThrough setting event report =
      match (world.choosing setting event).1 with
      | some choice => (world.choosing setting event).2.2.make setting choice
          (world.staging setting event report)
      | none => (world.staging setting event report,
          (world.choosing setting event).2.2.note .system none directionlessLine) :=
  rfl

/-- An event with a choice that is drawn is lived through by making it. -/
theorem liveThrough_of_some {event : Event R} {choice : Choice R}
    (h : (world.choosing setting event).1 = some choice) :
    world.liveThrough setting event report =
      (world.choosing setting event).2.2.make setting choice
        (world.staging setting event report) := by
  rw [liveThrough_eq, h]

/-- An event without a choice is staged, and one line says that nothing is done. -/
theorem liveThrough_of_none {event : Event R} (h : (world.choosing setting event).1 = none) :
    world.liveThrough setting event report =
      (world.staging setting event report,
        (world.choosing setting event).2.2.note .system none directionlessLine) := by
  rw [liveThrough_eq, h]

omit [AchievementSink A] in
/-- A choice that the life makes is one of the event's, and may be made. -/
theorem mem_of_choosing {event : Event R} {choice : Choice R}
    (h : (world.choosing setting event).1 = some choice) :
    choice ∈ setting.catalog.available
      (world.stage ⟨event.id, event.title, event.text⟩).life event :=
  Choice.mem_of_draw h

/-- What happens in a turn is the event that is drawn, or nothing. -/
theorem happen_eq :
    world.happen setting report =
      let drawn := world.drawEvent setting
      let report := { report with traces := report.traces ++ [drawn.2.1] }
      match drawn.1 with
      | some event => drawn.2.2.liveThrough setting event report
      | none => (report, drawn.2.2.note .system none nothingLine) :=
  rfl

/-- An event that is drawn is lived through, and the record of the draw is kept. -/
theorem happen_of_some {event : Event R} (h : (world.drawEvent setting).1 = some event) :
    world.happen setting report =
      (world.drawEvent setting).2.2.liveThrough setting event
        { report with traces := report.traces ++ [(world.drawEvent setting).2.1] } := by
  rw [happen_eq]
  dsimp only
  rw [h]

/-- Where no event is drawn, one line says so, and the record of the draw is kept all the same. -/
theorem happen_of_none (h : (world.drawEvent setting).1 = none) :
    world.happen setting report =
      ({ report with traces := report.traces ++ [(world.drawEvent setting).2.1] },
        (world.drawEvent setting).2.2.note .system none nothingLine) := by
  rw [happen_eq]
  dsimp only
  rw [h]

omit [AchievementSink A] in
theorem mem_of_drawEvent {event : Event R} (h : (world.drawEvent setting).1 = some event) :
    event ∈ setting.catalog.eligible setting.config.showTestEvents world.life :=
  Catalog.mem_of_drawEvent h

/-- A turn over an active run lets something happen after time has passed. -/
theorem runTurn_of_active (h : (world.advance setting).2.life.isActive = true) :
    world.runTurn setting =
      let played := (world.advance setting).2.happen setting
        (TurnReport.blank.absorb (world.advance setting).1)
      (played.1.close played.2.life world.life.log.nextSeq, played.2) := by
  rw [runTurn]
  dsimp only
  rw [if_pos h]

/-- A turn over a run that has ended, or ends while time passes, reports no more than that. -/
theorem runTurn_of_over (h : (world.advance setting).2.life.isActive = false) :
    world.runTurn setting =
      ((TurnReport.blank.absorb (world.advance setting).1).close (world.advance setting).2.life
        world.life.log.nextSeq, (world.advance setting).2) := by
  rw [runTurn]
  dsimp only
  rw [if_neg (ne_true_of_eq_false h)]

/-! ### Turns of a player -/

omit [AchievementSink A] in
/-- Where no event may take place, time passes. -/
theorem gatherOffer_of_no_event
    (h : (setting.catalog.eligible setting.config.showTestEvents world.life).isEmpty = true) :
    world.gatherOffer setting = (.timePasses, world.note .system none nothingLine) := by
  rw [gatherOffer, if_pos h]

omit [AchievementSink A] in
/-- Where no choice is offered, time passes. -/
theorem gatherOffer_of_no_choice
    (h : (setting.catalog.eligible setting.config.showTestEvents world.life).isEmpty = false)
    (hnone : (world.drawCandidates setting).1.isEmpty = true) :
    world.gatherOffer setting =
      (.timePasses, (world.drawCandidates setting).2.note .system none directionlessLine) := by
  rw [gatherOffer, if_neg (ne_true_of_eq_false h)]
  dsimp only
  rw [if_pos hnone]

omit [AchievementSink A] in
/-- Where choices are offered, the player has them to choose from. -/
theorem gatherOffer_of_choices
    (h : (setting.catalog.eligible setting.config.showTestEvents world.life).isEmpty = false)
    (hsome : (world.drawCandidates setting).1.isEmpty = false) :
    world.gatherOffer setting =
      (.candidates (world.drawCandidates setting).1, (world.drawCandidates setting).2) := by
  rw [gatherOffer, if_neg (ne_true_of_eq_false h)]
  dsimp only
  rw [if_neg (ne_true_of_eq_false hsome)]

/-- A manual turn over a run that goes on makes an offer after time has passed. -/
theorem beginManual_of_active (h : (world.advance setting).2.life.isActive = true) :
    world.beginManual setting =
      let offered := (world.advance setting).2.gatherOffer setting
      (⟨(TurnReport.blank.absorb (world.advance setting).1).close offered.2.life
        world.life.log.nextSeq, offered.1⟩, offered.2) := by
  rw [beginManual]
  dsimp only
  rw [if_pos h]

/-- A manual turn over a run that has ended, or ends while time passes, offers nothing. -/
theorem beginManual_of_over (h : (world.advance setting).2.life.isActive = false) :
    world.beginManual setting =
      (⟨(TurnReport.blank.absorb (world.advance setting).1).close (world.advance setting).2.life
        world.life.log.nextSeq, .runOver⟩, (world.advance setting).2) := by
  rw [beginManual]
  dsimp only
  rw [if_neg (ne_true_of_eq_false h)]

end World

end LifeStory
