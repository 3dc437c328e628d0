import LifeStory.Proofs.Acts

/-!
# The turn counter

Nothing but the passing of time moves the turn counter. Directives, endings, thresholds, and events
and choices that are told leave it where it is. When time passes over an active run the counter goes
up by one, as long as there is a larger number for it; over a run that has ended time stands still
(`Life.nextTurn`). A run begins at turn zero.
-/

namespace LifeStory

/-- A count does not get past its limit. -/
theorem succUpTo_le {limit n : Nat} (h : n ≤ limit) : succUpTo limit n ≤ limit := by
  rw [succUpTo]
  split <;> omega

/-- A count goes up by no more than one. -/
theorem succUpTo_le_succ (limit n : Nat) : succUpTo limit n ≤ n + 1 := by
  rw [succUpTo]
  split <;> omega

theorem succUpTo_of_lt {limit n : Nat} (h : n < limit) : succUpTo limit n = n + 1 := if_pos h

/-- The turn after time was let pass. -/
def Life.nextTurn {R : Type} (life : Life R) : Nat :=
  if life.isActive then succUpTo maxTurn life.turn else life.turn

/-- Over an active run the next turn has the next number. -/
theorem Life.nextTurn_of_active {R : Type} {life : Life R} (h : life.isActive = true) :
    life.nextTurn = succUpTo maxTurn life.turn :=
  if_pos h

/-- No turn is skipped. -/
theorem Life.nextTurn_le {R : Type} (life : Life R) : life.nextTurn ≤ life.turn + 1 := by
  rw [nextTurn]
  split
  · exact succUpTo_le_succ maxTurn life.turn
  · exact Nat.le_succ _

/-! ### Acts -/

namespace Life

variable {R : Type} [Scalar R] {catalog : Catalog R} {allowed : Directive R → Prop}
  {life next : Life R}

/-- **No act moves the turn counter.** -/
theorem Act.turn (h : Act catalog allowed life next) : next.turn = life.turn := by
  cases h with
  | obey directive _ obeyed => exact (kept_of_obey? obeyed).turn
  | note | die | close => rfl

/-- Acts of which nothing is reported leave the turn counter where it is. -/
theorem turn_of_acts (h : Acts catalog (fun _ ↦ True) life next) : next.turn = life.turn :=
  h.keeps (P := fun l ↦ l.turn = life.turn) (fun _ _ hact hl ↦ hact.turn.trans hl) rfl

theorem turn_settleDebt (life : Life R) : life.settleDebt.2.turn = life.turn := by
  rcases life.settleDebt_cases with hsame | ⟨_, _, hsettle⟩
  · rw [hsame]
  · rw [hsettle]
    rfl

end Life

/-! ### Scenes -/

namespace Scene

variable {R A G : Type} [Scalar R] [AchievementSink A] [RandomSource G] {catalog : Catalog R}

theorem turn_triggerEnding (id : String) (scene : Scene R A G) :
    (scene.triggerEnding catalog id).2.life.turn = scene.life.turn :=
  Life.turn_of_acts (scene.triggerEnding_acts id)

/-- No directive moves the turn counter. -/
theorem turn_applyDirective (directive : Directive R) (scene : Scene R A G) :
    (scene.applyDirective catalog directive).2.life.turn = scene.life.turn :=
  Life.turn_of_acts (scene.applyDirective_acts trivial)

/-- **No directive moves the turn counter.** -/
theorem turn_applyAll (outcomes : List (Directive R)) (scene : Scene R A G) :
    (scene.applyAll catalog outcomes).2.life.turn = scene.life.turn :=
  Life.turn_of_acts (scene.applyAll_acts fun _ _ ↦ trivial)

/-- **A turn that passes** moves the turn counter by one, up to its largest number. -/
theorem turn_passTurn {setting : Setting R} (scene : Scene R A G) :
    (scene.passTurn setting).2.life.turn = succUpTo Life.maxTurn scene.life.turn :=
  passTurn_keeps (P := fun life ↦ life.turn = succUpTo Life.maxTurn scene.life.turn)
    setting.catalog.only_true (fun life h ↦ life.turn_settleDebt.trans h)
    (fun _ _ hact h ↦ hact.turn.trans h) (fun _ _ _ h ↦ h) (fun _ h ↦ h) rfl

/-- A run begins at turn zero. -/
theorem turn_begin (logCapacity : Nat) (talents : List String) (scene : Scene R A G) :
    (scene.begin catalog logCapacity talents).life.turn = 0 :=
  begin_keeps (P := fun life ↦ life.turn = 0) (fun _ _ _ _ ↦ trivial) (fun _ ↦ rfl)
    (fun _ _ h ↦ h) (fun _ _ hact h ↦ hact.turn.trans h) talents scene

end Scene

/-! ### Worlds -/

namespace World

variable {R A G : Type} [Scalar R] [AchievementSink A] [RandomSource G] {setting : Setting R}

/-- Time that passes moves the turn counter exactly if the run goes on. -/
theorem turn_advance (world : World R A G) :
    (world.advance setting).2.life.turn = world.life.nextTurn := by
  rw [Life.nextTurn]
  cases hactive : world.life.isActive with
  | true =>
    rw [advance_of_active hactive, if_pos rfl]
    exact world.scene.turn_passTurn
  | false =>
    rw [advance_of_over hactive]
    rfl

/-- To make a choice takes no time. -/
theorem turn_make (choice : Choice R) (report : TurnReport R) (world : World R A G) :
    (world.make setting choice report).2.life.turn = world.life.turn := by
  have hmade : Life.Acts setting.catalog (fun _ ↦ True) _
      (world.make setting choice report).2.life := world.make_acts (fun _ _ ↦ trivial) report
  have hturn := Life.turn_of_acts hmade
  exact hturn

theorem turn_liveThrough (event : Event R) (report : TurnReport R) (world : World R A G) :
    (world.liveThrough setting event report).2.life.turn = world.life.turn := by
  have hchoosing : (world.choosing setting event).2.2.life.turn = world.life.turn := rfl
  cases hchoice : (world.choosing setting event).1 with
  | none =>
    rw [liveThrough_of_none hchoice]
    exact hchoosing
  | some choice =>
    rw [liveThrough_of_some hchoice, turn_make]
    exact hchoosing

/-- Whatever happens in a turn takes no more time. -/
theorem turn_happen (report : TurnReport R) (world : World R A G) :
    (world.happen setting report).2.life.turn = world.life.turn := by
  cases hevent : (world.drawEvent setting).1 with
  | none =>
    rw [happen_of_none hevent]
    rfl
  | some event =>
    rw [happen_of_some hevent, turn_liveThrough]
    rfl

/-- A turn of the simulation moves the counter as time does. -/
theorem turn_runTurn (world : World R A G) :
    (world.runTurn setting).2.life.turn = world.life.nextTurn := by
  have hadvance : (world.advance setting).2.life.turn = world.life.nextTurn := world.turn_advance
  rw [← hadvance]
  cases hactive : (world.advance setting).2.life.isActive with
  | true =>
    rw [runTurn_of_active hactive]
    exact turn_happen _ _
  | false => rw [runTurn_of_over hactive]

/-- A turn of the player moves the counter as time does. -/
theorem turn_beginManual (world : World R A G) :
    (world.beginManual setting).2.life.turn = world.life.nextTurn := by
  have hadvance : (world.advance setting).2.life.turn = world.life.nextTurn := world.turn_advance
  rw [← hadvance]
  cases hactive : (world.advance setting).2.life.isActive with
  | true =>
    rw [beginManual_of_active hactive]
    exact Life.turn_of_acts (world.advance setting).2.gatherOffer_acts
  | false => rw [beginManual_of_over hactive]

/-- A choice of the player leaves the counter. -/
theorem turn_resolve (candidate : Candidate R) (world : World R A G) :
    (world.resolve setting candidate).2.life.turn = world.life.turn :=
  turn_make candidate.choice { TurnReport.blank with event := some candidate.origin.id }
    (world.stage candidate.origin)

theorem turn_passTime (world : World R A G) :
    (world.passTime setting).2.life.turn = world.life.nextTurn :=
  (world.note .system none timePassesLine).turn_beginManual

end World

end LifeStory
