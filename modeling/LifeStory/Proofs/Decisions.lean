import LifeStory.Proofs.Turns
import LifeStory.Proofs.AfterTheEnd

/-!
# Decisions of the simulation

In a turn the simulation makes one choice of one event, or none (`World.decision?`). What is said
about status effects and modifiers of weights needs no more of a turn than this: the passing of time
apart, the outcomes of the choice are all that has a hand in them (`World.effects_of_decision`), and
in a turn without a choice nothing has (`World.effects_of_no_decision`).
-/

namespace LifeStory

/-- Two lives have the same status effects and the same modifiers of weights. -/
structure Life.SameEffects {R : Type} (life other : Life R) : Prop where
  statuses : other.statuses = life.statuses
  modifiers : other.eventModifiers = life.eventModifiers

namespace Life.SameEffects

variable {R : Type} {a b c : Life R}

theorem refl (life : Life R) : life.SameEffects life := ⟨rfl, rfl⟩

theorem trans (hab : a.SameEffects b) (hbc : b.SameEffects c) : a.SameEffects c :=
  ⟨hbc.statuses.trans hab.statuses, hbc.modifiers.trans hab.modifiers⟩

theorem note (h : a.SameEffects b) (kind : LogKind) (title : Option String) (text : String) :
    a.SameEffects (b.note kind title text) :=
  ⟨h.statuses, h.modifiers⟩

end Life.SameEffects

namespace World

variable {R A G : Type} [Scalar R] [AchievementSink A] [RandomSource G] {setting : Setting R}
  {world staged : World R A G} {choice : Choice R}

/-! ### Turns in a row -/

/-- The world after turns of the simulation. -/
def afterTurns (setting : Setting R) : Nat → World R A G → World R A G
  | 0, world => world
  | turns + 1, world => ((afterTurns setting turns world).runTurn setting).2

/-- A run that is active after a turn was active before it. -/
theorem isActive_of_runTurn (h : (world.runTurn setting).2.life.isActive = true) :
    world.life.isActive = true := by
  cases hactive : world.life.isActive with
  | true => rfl
  | false =>
    rw [runTurn_of_not_active hactive, hactive] at h
    cases h

/-- A run that goes on after a turn went on before it. -/
theorem isActive_of_afterTurns {turns : Nat} {first : World R A G}
    (h : (first.afterTurns setting (turns + 1)).life.isActive = true) :
    (first.afterTurns setting turns).life.isActive = true :=
  isActive_of_runTurn h

/-! ### What is decided -/

/-- The choice that the simulation makes in a turn, if it makes one, and the world in which it is
made. -/
def decision? (setting : Setting R) (world : World R A G) : Option (Choice R × World R A G) :=
  let advanced := (world.advance setting).2
  if advanced.life.isActive then
    (advanced.drawEvent setting).1.bind fun event ↦
      let chosen := (advanced.drawEvent setting).2.2.choosing setting event
      chosen.1.map fun choice ↦ (choice, chosen.2.2)
  else none

/-- The outcomes that a choice comes to. -/
def outcomes (choice : Choice R) (world : World R A G) : List (Directive R) :=
  (world.making choice).1.outcomes

/-- The world in which the outcomes of a choice are applied: the choice and what comes of it are
told. -/
def told (choice : Choice R) (world : World R A G) : World R A G :=
  (world.making choice).2.tellFeedback (world.making choice).1.feedback

/-- A choice that is decided for is one of an event that is drawn, and is made. -/
theorem exists_of_decision (h : world.decision? setting = some (choice, staged)) :
    ∃ event, (world.advance setting).2.life.isActive = true ∧
      ((world.advance setting).2.drawEvent setting).1 = some event ∧
      (((world.advance setting).2.drawEvent setting).2.2.choosing setting event).1 = some choice ∧
      (((world.advance setting).2.drawEvent setting).2.2.choosing setting event).2.2 = staged := by
  rw [decision?] at h
  dsimp only at h
  split at h
  · next hactive =>
    obtain ⟨event, hevent, hchosen⟩ := Option.bind_eq_some_iff.1 h
    obtain ⟨_, hchoice, hpair⟩ := Option.map_eq_some_iff.1 hchosen
    obtain ⟨rfl, rfl⟩ := Prod.mk.inj hpair
    exact ⟨event, hactive, hevent, hchoice, rfl⟩
  · cases h

/-- A turn in which a choice is decided for leaves what comes of it. -/
theorem runTurn_of_decision (h : world.decision? setting = some (choice, staged)) :
    (world.runTurn setting).2 = (staged.made setting choice).2 := by
  obtain ⟨event, hactive, hevent, hchoice, rfl⟩ := exists_of_decision h
  rw [runTurn_of_active hactive, happen_of_some hevent, liveThrough_of_some hchoice, make_eq]

/-- What comes of a choice is among what the catalog authors. -/
theorem outcomes_of_decision (h : world.decision? setting = some (choice, staged)) :
    ∃ event ∈ setting.catalog.events, choice ∈ event.choices ∧
      staged.outcomes choice ⊆ choice.allOutcomes := by
  obtain ⟨event, -, hevent, hchoice, rfl⟩ := exists_of_decision h
  exact ⟨event, (List.mem_filter.1 (mem_of_drawEvent hevent)).1,
    (List.mem_filter.1 (mem_of_choosing hchoice)).1, choice.outcomes_resolve _⟩

omit [AchievementSink A] in
/-- To draw an event touches no status effect and no modifier. -/
theorem sameEffects_drawEvent (world : World R A G) :
    world.life.SameEffects (world.drawEvent setting).2.2.life :=
  ⟨rfl, rfl⟩

omit [AchievementSink A] in
/-- To choose what to do about an event touches no status effect and no modifier. -/
theorem sameEffects_choosing (event : Event R) (world : World R A G) :
    world.life.SameEffects ((world.drawEvent setting).2.2.choosing setting event).2.2.life :=
  ⟨rfl, rfl⟩

omit [AchievementSink A] in
theorem sameEffects_told (choice : Choice R) (world : World R A G) :
    world.life.SameEffects (world.told choice).life := by
  have hmaking : world.life.SameEffects (world.making choice).2.life := ⟨rfl, rfl⟩
  rw [told]
  cases (world.making choice).1.feedback <;> exact ⟨hmaking.statuses, hmaking.modifiers⟩

omit [RandomSource G] in
/-- A death leaves status effects and modifiers as they are. -/
theorem sameEffects_enforceThresholds (catalog : Catalog R) (thresholds : Thresholds R)
    (scene : Scene R A G) :
    scene.life.SameEffects (scene.enforceThresholds catalog thresholds).2.life := by
  rcases scene.enforceThresholds_cases catalog thresholds with ⟨_, -, -, henforce⟩ | ⟨-, henforce⟩
  · rw [henforce]
    exact ⟨rfl, rfl⟩
  · rw [henforce]
    exact ⟨rfl, rfl⟩

/-- **In a turn with a choice**, the passing of time apart, only the outcomes of the choice have a
hand in the effects. -/
theorem effects_of_decision (h : world.decision? setting = some (choice, staged)) :
    (world.advance setting).2.life.SameEffects (staged.told choice).life ∧
      ((staged.told choice).scene.applyAll setting.catalog
        (staged.outcomes choice)).2.life.SameEffects (world.runTurn setting).2.life := by
  constructor
  · obtain ⟨event, -, -, -, rfl⟩ := exists_of_decision h
    exact (sameEffects_choosing event _).trans (sameEffects_told choice _)
  · rw [runTurn_of_decision h]
    exact sameEffects_enforceThresholds setting.catalog setting.config.thresholds _

/-- **In a turn without a choice**, the passing of time apart, nothing has a hand in the effects. -/
theorem effects_of_no_decision (h : world.decision? setting = none) :
    (world.advance setting).2.life.SameEffects (world.runTurn setting).2.life := by
  cases hactive : (world.advance setting).2.life.isActive with
  | false =>
    rw [runTurn_of_over hactive]
    exact .refl _
  | true =>
    rw [runTurn_of_active hactive]
    cases hevent : ((world.advance setting).2.drawEvent setting).1 with
    | none =>
      rw [happen_of_none hevent]
      exact (sameEffects_drawEvent _).note _ _ _
    | some event =>
      rw [happen_of_some hevent]
      cases hchoice :
          (((world.advance setting).2.drawEvent setting).2.2.choosing setting event).1 with
      | none =>
        rw [liveThrough_of_none hchoice]
        exact (sameEffects_choosing event _).note _ _ _
      | some choice =>
        rw [decision?] at h
        dsimp only at h
        rw [if_pos hactive, hevent, Option.bind_some, hchoice] at h
        cases h

end World

end LifeStory
