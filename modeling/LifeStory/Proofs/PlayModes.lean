import LifeStory.Proofs.Phases
import LifeStory.Scalar.Float

/-!
# The two ways of playing agree

A turn without a player draws an event and a choice, and then does what is done with a choice that a
player makes. The draws themselves change nothing but the streams of events and choices
(`World.withDraws`), and from there on neither of the two is looked at: every step of making a
choice leaves them as they are and does the same whatever they are. So the turn ends as if a player
had been offered that choice after time had passed, and had taken it.
-/

namespace LifeStory

/-- Thresholds that leave an active run did not end one. -/
theorem Scene.death_of_isActive {R A G : Type} [Scalar R] [AchievementSink A] {catalog : Catalog R}
    {thresholds : Thresholds R} {scene : Scene R A G}
    (h : (scene.enforceThresholds catalog thresholds).2.life.isActive = true) :
    (scene.enforceThresholds catalog thresholds).1 = none := by
  rcases scene.enforceThresholds_cases catalog thresholds with ⟨cause, -, -, hdead⟩ | ⟨-, hsafe⟩
  · rw [hdead] at h
    cases Life.isActive_iff.1 h
  · rw [hsafe]

namespace World

variable {R A G : Type}

/-- The world with other streams of events and of choices. -/
def withDraws (events choices : Counted G) (world : World R A G) : World R A G :=
  { world with streams := { world.streams with events := events, choices := choices } }

@[simp] theorem withDraws_withDraws (events choices events' choices' : Counted G)
    (world : World R A G) :
    (world.withDraws events choices).withDraws events' choices' =
      world.withDraws events' choices' :=
  rfl

variable [Scalar R] [RandomSource G] (events choices : Counted G)

/-! ### The draws -/

/-- The draw of an event changes nothing but the stream of events. -/
theorem drawEvent_eq_withDraws (setting : Setting R) (world : World R A G) :
    ∃ events, (world.drawEvent setting).2.2 = world.withDraws events world.streams.choices :=
  ⟨_, rfl⟩

/-- Beside the event that is staged, a choice that is drawn changes nothing but the stream of
choices. -/
theorem choosing_eq_withDraws (setting : Setting R) (event : Event R) (world : World R A G) :
    ∃ choices, (world.choosing setting event).2.2 =
      (world.stage ⟨event.id, event.title, event.text⟩).withDraws world.streams.events choices :=
  ⟨_, rfl⟩

/-! ### What does not look at the two streams -/

theorem stage_withDraws (origin : Origin) (world : World R A G) :
    (world.withDraws events choices).stage origin =
      (world.stage origin).withDraws events choices :=
  rfl

/-- To make a choice does not look at the streams of events and choices. -/
theorem making_withDraws (choice : Choice R) (world : World R A G) :
    (world.withDraws events choices).making choice =
      ((world.making choice).1, (world.making choice).2.withDraws events choices) :=
  rfl

theorem tellFeedback_withDraws (feedback : Option String) (world : World R A G) :
    (world.withDraws events choices).tellFeedback feedback =
      (world.tellFeedback feedback).withDraws events choices := by
  cases feedback <;> rfl

/-- While an event and a choice are drawn nothing happens but that the event takes place. -/
theorem choosing_drawEvent (setting : Setting R) (event : Event R) (world : World R A G) :
    ∃ events choices, ((world.drawEvent setting).2.2.choosing setting event).2.2 =
      (world.stage ⟨event.id, event.title, event.text⟩).withDraws events choices := by
  obtain ⟨events, hevents⟩ := world.drawEvent_eq_withDraws setting
  obtain ⟨choices, hchoices⟩ :=
    (world.withDraws events world.streams.choices).choosing_eq_withDraws setting event
  rw [stage_withDraws, withDraws_withDraws] at hchoices
  rw [hevents]
  exact ⟨_, choices, hchoices⟩

variable [AchievementSink A]

theorem applyResult_withDraws (setting : Setting R) (outcomes : List (Directive R))
    (world : World R A G) :
    (world.withDraws events choices).applyResult setting outcomes =
      ((world.applyResult setting outcomes).1,
        (world.applyResult setting outcomes).2.withDraws events choices) :=
  rfl

theorem made_withDraws (setting : Setting R) (choice : Choice R) (world : World R A G) :
    (world.withDraws events choices).made setting choice =
      ((world.made setting choice).1, (world.made setting choice).2.withDraws events choices) := by
  rw [made, making_withDraws, tellFeedback_withDraws, applyResult_withDraws]
  rfl

/-- Making a choice does the same, whatever the streams of events and choices are. -/
theorem make_withDraws (setting : Setting R) (choice : Choice R) (report : TurnReport R)
    (world : World R A G) :
    (world.withDraws events choices).make setting choice report =
      ((world.make setting choice report).1,
        (world.make setting choice report).2.withDraws events choices) := by
  rw [make_eq, made_withDraws, making_withDraws, make_eq]

/-! ### Turns without a player -/

/-- A run that is still active after time has passed did not end meanwhile. -/
theorem death_advance {setting : Setting R} {world : World R A G}
    (h : (world.advance setting).2.life.isActive = true) :
    (world.advance setting).1.death = none := by
  cases hactive : world.life.isActive with
  | false =>
    rw [advance_of_over hactive]
    rfl
  | true =>
    rw [advance_of_active hactive] at h ⊢
    have hsafe : ((world.scene.aged setting).enforceThresholds setting.catalog
        setting.config.thresholds).1 = none :=
      Scene.death_of_isActive h
    exact hsafe

/-- The turn of the simulation resolves a choice of an event: the run is active after time has
passed, the event is drawn, and the life makes the choice. -/
structure Resolves (setting : Setting R) (event : Event R) (choice : Choice R)
    (world : World R A G) : Prop where
  active : (world.advance setting).2.life.isActive = true
  drawn : ((world.advance setting).2.drawEvent setting).1 = some event
  chosen : (((world.advance setting).2.drawEvent setting).2.2.choosing setting event).1 =
    some choice

/-- A turn whose report names a choice or a bucket resolves a choice. -/
theorem exists_resolves {setting : Setting R} {world : World R A G}
    (h : (world.runTurn setting).1.choice ≠ none ∨ (world.runTurn setting).1.bucket ≠ none) :
    ∃ event choice, world.Resolves setting event choice := by
  cases hactive : (world.advance setting).2.life.isActive with
  | false =>
    rw [runTurn_of_over hactive] at h
    exact (h.elim (· rfl) (· rfl)).elim
  | true =>
    rw [runTurn_of_active hactive] at h
    cases hevent : ((world.advance setting).2.drawEvent setting).1 with
    | none =>
      rw [happen_of_none hevent] at h
      exact (h.elim (· rfl) (· rfl)).elim
    | some event =>
      rw [happen_of_some hevent] at h
      cases hchoice :
          (((world.advance setting).2.drawEvent setting).2.2.choosing setting event).1 with
      | none =>
        rw [liveThrough_of_none hchoice] at h
        exact (h.elim (· rfl) (· rfl)).elim
      | some choice => exact ⟨event, choice, hactive, hevent, hchoice⟩

variable {setting : Setting R} {event : Event R} {choice : Choice R} {world : World R A G}

/-- A turn that resolves a choice does what is done with it after time has passed, with other
streams of events and choices. -/
theorem Resolves.runTurn_eq (h : world.Resolves setting event choice) :
    let staged := (world.advance setting).2.stage ⟨event.id, event.title, event.text⟩
    let made := staged.made setting choice
    ∃ events choices, ∃ report : TurnReport R,
      report.event = some event.id ∧ report.death = none ∧
      world.runTurn setting =
        ((report.resolved choice.id (staged.making choice).1 made.1).close made.2.life
          world.life.log.nextSeq, made.2.withDraws events choices) := by
  intro staged made
  let drawn := (world.advance setting).2.drawEvent setting
  obtain ⟨events, choices, hchosen⟩ :=
    (world.advance setting).2.choosing_drawEvent setting event
  let report : TurnReport R := TurnReport.blank.absorb (world.advance setting).1
  refine ⟨events, choices,
    drawn.2.2.staging setting event { report with traces := report.traces ++ [drawn.2.1] },
    rfl, death_advance h.active, ?_⟩
  rw [runTurn_of_active h.active, happen_of_some h.drawn, liveThrough_of_some h.chosen, hchosen,
    make_withDraws, make_eq]
  rfl

theorem resolve_eq (id : CandidateId) (origin : Origin) :
    let made := (world.stage origin).made setting choice
    world.resolve setting ⟨id, choice, origin⟩ =
      (({ TurnReport.blank with event := some origin.id }.resolved choice.id
        ((world.stage origin).making choice).1 made.1).close made.2.life world.life.log.nextSeq,
        made.2) :=
  rfl

end World

namespace Session

variable {R A G : Type} [Scalar R] [AchievementSink A] [RandomSource G] {setting : Setting R}
  {event : Event R} {choice : Choice R} {world : World R A G}

/-- The session of a player who is offered one choice of an event after time has passed. -/
def offering (setting : Setting R) (event : Event R) (choice : Choice R) (id : CandidateId)
    (world : World R A G) : Session R A G :=
  ⟨setting, (world.advance setting).2, [⟨id, choice, ⟨event.id, event.title, event.text⟩⟩]⟩

/-- A choice that is offered is made as if it were resolved after time has passed. -/
theorem choose_offering (h : (world.advance setting).2.life.isActive = true) (id : CandidateId) :
    (offering setting event choice id world).choose id =
      let resolved := (world.advance setting).2.resolve setting
        ⟨id, choice, ⟨event.id, event.title, event.text⟩⟩
      (.ok resolved.1, (offering setting event choice id world).moveOn resolved.2) := by
  rw [choose, if_pos (show (offering setting event choice id world).life.isActive = true from h)]
  simp [offering]

/-- **Both ways of playing agree.** When a turn without a player resolves a choice of an event, it
leaves the same life, the same sink, and the same streams of text and results as when time passes,
the choice is offered with that event, and a player takes it. The answer is not refused, and its
report says the same about the event, the choice, the bucket and the death, and about the turn and
the phase. -/
theorem both_ways_agree (h : world.Resolves setting event choice) (id : CandidateId) :
    let turn := world.runTurn setting
    let answer := (offering setting event choice id world).choose id
    turn.2.life = answer.2.life ∧ turn.2.sink = answer.2.world.sink ∧
      turn.2.streams.text = answer.2.world.streams.text ∧
      turn.2.streams.results = answer.2.world.streams.results ∧
      ∃ report, answer.1 = .ok report ∧ turn.1.event = report.event ∧
        turn.1.choice = report.choice ∧ turn.1.bucket = report.bucket ∧
        turn.1.death = report.death ∧ turn.1.turn = report.turn ∧ turn.1.phase = report.phase := by
  obtain ⟨events, choices, report, hevent, hdeath, hturn⟩ := h.runTurn_eq
  intro turn answer
  have hanswer : answer = _ := choose_offering h.active id
  rw [hanswer, show turn = _ from hturn, World.resolve_eq]
  refine ⟨rfl, rfl, rfl, rfl, _, rfl, hevent, rfl, rfl, ?_, rfl, rfl⟩
  show Option.or _ report.death = Option.or _ none
  rw [hdeath]

/-- A meal, which is good or bad. -/
def meal : Choice Float :=
  { Choice.plain (some "eat") "Eat" with
    results := [⟨none, [.changeStat (.ofList [("health", 1.0)])], some "Good."⟩,
      ⟨none, [.changeStat (.ofList [("health", -1.0)])], some "Bad."⟩] }

/-- An inn, where one may eat. -/
def inn : Event Float := ⟨"inn", "Inn", "", [], [meal], [], none, false, false⟩

/-- A life with nothing but the inn has the same meal with a player and without. -/
theorem meal_is_the_same_either_way :
    let setting : Setting Float := ⟨{ Catalog.ofBase .empty with events := [inn] }, .default⟩
    let world : World Float Ledger Xoshiro := ⟨Life.fresh 50, ⟨.empty, []⟩, .ofSeed 7⟩
    world.Resolves setting inn meal ∧ (world.runTurn setting).2.life =
      ((offering setting inn meal .zero world).choose .zero).2.life := by
  intro setting world
  have hbucket : (world.runTurn setting).1.bucket = some 1 := by decide +kernel
  obtain ⟨event, choice, h⟩ : ∃ event choice, world.Resolves setting event choice :=
    World.exists_resolves (.inr (by rw [hbucket]; exact Option.some_ne_none 1))
  -- There is only one event, and only one choice of it.
  obtain rfl : event = inn :=
    List.mem_singleton.1 (List.mem_filter.1 (World.mem_of_drawEvent h.drawn)).1
  obtain rfl : choice = meal :=
    List.mem_singleton.1 (List.mem_filter.1 (World.mem_of_choosing h.chosen)).1
  exact ⟨h, (both_ways_agree h .zero).1⟩

end Session

end LifeStory
