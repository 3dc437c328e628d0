import LifeStory.Proofs.Stories
import LifeStory.Proofs.Unique

/-!
# Histories

A life takes down which events have taken place and which choices have been made. The reports of a
run tell both histories: a choice is taken down exactly when a report names it, and an event that is
taken down is named by a report. Of events the converse holds as long as nothing resets them.

Both are shown along the story of the run (`Life.Story`). Acts and turns that pass leave the choices
alone (`Life.Act.chosen`), and of the events they at most forget some (`Life.Act.spent_of_next`).
-/

namespace LifeStory

namespace Life

variable {R A G : Type} [Scalar R] [AchievementSink A] [RandomSource G] {setting : Setting R}
  {allowed : Directive R → Prop} {told more : Happenings} {life next : Life R} {x : String}

/-! ### Single beats -/

/-- Acts make no choices. -/
theorem Act.chosen {catalog : Catalog R} (h : Act catalog allowed life next) :
    next.chosen = life.chosen := by
  cases h with
  | obey directive _ obeyed => exact (kept_of_obey? obeyed).chosen
  | note | die | close => rfl

/-- Of the events that have taken place an act at most forgets one. -/
theorem Act.spent_of_next {catalog : Catalog R} (h : Act catalog allowed life next)
    (hnext : next.Spent x) : life.Spent x := by
  cases h with
  | obey directive _ obeyed =>
    by_cases hreset : ∃ event, directive = .resetEvent event
    · obtain ⟨event, rfl⟩ := hreset
      obtain rfl := Option.some.inj obeyed
      exact StringMap.contains_of_contains_erase hnext
    · have htriggered := (kept_of_obey? obeyed).triggered fun event heq ↦ hreset ⟨event, heq⟩
      rwa [Spent, ← htriggered]
  | note | die | close => exact hnext

theorem chosen_settleDebt (life : Life R) : life.settleDebt.2.chosen = life.chosen := by
  rcases life.settleDebt_cases with hsettle | ⟨_, _, hsettle⟩ <;> rw [hsettle]
  rfl

theorem spent_of_settleDebt (h : life.settleDebt.2.Spent x) : life.Spent x := by
  rcases life.settleDebt_cases with hsettle | ⟨_, _, hsettle⟩ <;> rw [hsettle] at h <;> exact h

end Life

namespace Scene

variable {R A G : Type} [Scalar R] [AchievementSink A] [RandomSource G] {setting : Setting R}

/-- No choices are made while a turn passes. -/
theorem chosen_passTurn (scene : Scene R A G) :
    (scene.passTurn setting).2.life.chosen = scene.life.chosen :=
  passTurn_keeps (P := fun life ↦ life.chosen = scene.life.chosen) setting.catalog.only_true
    (fun life h ↦ life.chosen_settleDebt.trans h) (fun _ _ hact h ↦ hact.chosen.trans h)
    (fun _ _ _ h ↦ h) (fun _ h ↦ h) rfl

/-- No event takes place while a turn passes. -/
theorem spent_of_passTurn {x : String} {scene : Scene R A G}
    (h : (scene.passTurn setting).2.life.Spent x) : scene.life.Spent x :=
  passTurn_keeps (P := fun life ↦ life.Spent x → scene.life.Spent x) setting.catalog.only_true
    (fun _ h hsettled ↦ h (Life.spent_of_settleDebt hsettled))
    (fun _ _ hact h hnext ↦ h (hact.spent_of_next hnext))
    (fun _ _ _ h ↦ h) (fun _ h ↦ h) (fun h ↦ h) h

end Scene

namespace Life

variable {R A G : Type} [Scalar R] [AchievementSink A] [RandomSource G] {setting : Setting R}
  {allowed : Directive R → Prop} {told : Happenings} {life next : Life R} {x : String}

/-- A beat adds the choice that is made in it. -/
theorem Beat.chosen_iff (h : Beat A G setting allowed told life next) :
    next.chosen.contains x = true ↔ life.chosen.contains x = true ∨ x ∈ told.choices := by
  cases h with
  | act hact =>
    rw [hact.chosen]
    exact (or_iff_left List.not_mem_nil).symm
  | pass scene =>
    rw [scene.chosen_passTurn]
    exact (or_iff_left List.not_mem_nil).symm
  | stage => exact (or_iff_left List.not_mem_nil).symm
  | choose choice =>
    rw [StringSet.contains_add, or_comm, List.mem_singleton]

/-- An event that has taken place had done so before, or does so in the beat. -/
theorem Beat.spent_of_next (h : Beat A G setting allowed told life next) (hnext : next.Spent x) :
    life.Spent x ∨ x ∈ told.events := by
  cases h with
  | act hact => exact .inl (hact.spent_of_next hnext)
  | pass scene => exact .inl (Scene.spent_of_passTurn hnext)
  | stage event =>
    rcases StringSet.contains_add.1 hnext with heq | hbefore
    · exact .inr (List.mem_singleton.2 heq)
    · exact .inl hbefore
  | choose => exact .inl hnext

/-- An event that nothing resets has taken place after the beat if it had done so before, or does
so in the beat. -/
theorem Beat.spent (honly : setting.catalog.Only (· ≠ .resetEvent x))
    (h : Beat A G setting (· ≠ .resetEvent x) told life next)
    (hspent : life.Spent x ∨ x ∈ told.events) : next.Spent x := by
  cases h with
  | act hact => exact hact.change.spent (hspent.resolve_right List.not_mem_nil)
  | pass scene =>
    exact Course.spent (scene.passTurn_course honly) (hspent.resolve_right List.not_mem_nil)
  | stage event =>
    exact StringSet.contains_add.2 (hspent.symm.imp_left List.mem_singleton.1)
  | choose => exact hspent.resolve_right List.not_mem_nil

/-! ### Stories -/

/-- The choices that have been made after a story are those of before and those that it tells. -/
theorem Story.chosen_iff (h : Story A G setting allowed told life next) :
    next.chosen.contains x = true ↔ life.chosen.contains x = true ∨ x ∈ told.choices := by
  induction h with
  | refl => exact (or_iff_left List.not_mem_nil).symm
  | tail _ beat ih =>
    rw [beat.chosen_iff, ih, or_assoc, Happenings.choices_append, List.mem_append]

/-- The events that have taken place after a story are among those of before and those that it
tells. -/
theorem Story.spent_of_next (h : Story A G setting allowed told life next)
    (hnext : next.Spent x) : life.Spent x ∨ x ∈ told.events := by
  induction h with
  | refl => exact .inl hnext
  | tail _ beat ih =>
    rw [Happenings.events_append, List.mem_append, ← or_assoc]
    exact (beat.spent_of_next hnext).imp_left ih

/-- An event that nothing resets has taken place after a story if it had done so before, or the
story tells of it. -/
theorem Story.spent (honly : setting.catalog.Only (· ≠ .resetEvent x))
    (h : Story A G setting (· ≠ .resetEvent x) told life next)
    (hspent : life.Spent x ∨ x ∈ told.events) : next.Spent x := by
  induction h with
  | refl => exact hspent.resolve_right List.not_mem_nil
  | tail _ beat ih =>
    rw [Happenings.events_append, List.mem_append, ← or_assoc] at hspent
    exact beat.spent honly (hspent.imp_left ih)

end Life

/-! ### Runs -/

namespace Session

variable {R A G : Type} [Scalar R] [AchievementSink A] [SeededSource G]

/-- An event that nothing resets has taken place after a run exactly if it had done so before, or a
report tells of it. -/
theorem spent_goOn_iff {x : String} {session : Session R A G}
    (h : session.setting.catalog.Only (· ≠ .resetEvent x)) (hfit : session.Fit)
    (moves : List Move) :
    (session.goOn moves).2.life.Spent x ↔ session.life.Spent x ∨
      x ∈ ((session.goOn moves).1.flatMap Answer.turnReports).filterMap TurnReport.event :=
  ⟨(goOn_story h hfit moves).spent_of_next, (goOn_story h hfit moves).spent h⟩

/-- **Histories are exactly what was reported.** In any run, whatever state it starts in, the
choices that have been made in the end are those of the start and those that the reports name. The
events that have taken place in the end are among those of the start and those that the reports
name, and are all of these if no directive of the catalog resets events. -/
theorem histories_tell_what_was_reported (setting : Setting R) (world : World R A G)
    (moves : List Move) :
    let played := (idle setting world).goOn moves
    let reports := played.1.flatMap Answer.turnReports
    (∀ choice, played.2.life.chosen.contains choice = true ↔
      world.life.chosen.contains choice = true ∨ choice ∈ reports.filterMap TurnReport.choice) ∧
    (∀ event, played.2.life.triggered.contains event = true →
      world.life.triggered.contains event = true ∨
        event ∈ reports.filterMap TurnReport.event) ∧
    ((setting.catalog.Only fun directive ↦ ∀ event, directive ≠ .resetEvent event) →
      ∀ event, played.2.life.triggered.contains event = true ↔
        world.life.triggered.contains event = true ∨
          event ∈ reports.filterMap TurnReport.event) := by
  intro played reports
  have hfit : (idle setting world).Fit := fit_idle setting world
  have hstory := goOn_story setting.catalog.only_true hfit moves
  refine ⟨fun choice ↦ hstory.chosen_iff, fun event ↦ hstory.spent_of_next, fun hkept event ↦ ?_⟩
  exact spent_goOn_iff (hkept.mono fun directive hnever ↦ hnever event) hfit moves

/-- A wedding that a turn reports, in a catalog that resets nothing, has taken place. -/
theorem wedding_that_is_reported_has_taken_place :
    let session : Session Float Ledger Xoshiro :=
      idle ⟨weddingCatalog, .default⟩ ⟨Life.fresh 50, ⟨.empty, []⟩, .ofSeed 7⟩
    (weddingCatalog.Only fun directive ↦ ∀ event, directive ≠ .resetEvent event) ∧
      (session.goOn [.runTurn, .timePasses]).2.life.triggered.contains "wedding" = true := by
  intro session
  have hkept : weddingCatalog.Only fun directive ↦ ∀ event, directive ≠ .resetEvent event := by
    refine ⟨?_, fun id effect heffect ↦ ?_⟩
    · simp [weddingCatalog, Choice.plain, Choice.allOutcomes]
    · cases heffect
  have hreported : "wedding" ∈
      ((session.goOn [.runTurn, .timePasses]).1.flatMap Answer.turnReports).filterMap
        TurnReport.event := by
    decide +kernel
  have htold := histories_tell_what_was_reported ⟨weddingCatalog, .default⟩ session.world
    [.runTurn, .timePasses]
  exact ⟨hkept, (htold.2.2 hkept "wedding").2 (.inr hreported)⟩

end Session

end LifeStory
