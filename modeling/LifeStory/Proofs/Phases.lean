import LifeStory.Proofs.Course

/-!
# A life only goes forward

A life is active, then dead, then ended, and never goes back. A dead life stays dead, an ending that
was told is not taken back, and a life that is over keeps the reason that it is over for
(`Life.Forward`). Single changes go forward, whatever the content asks for
(`Life.Change.forward`), hence courses do, and hence the lists of directives, the status effects of
a turn and any moves of a session, also those that go on after the life was closed.
-/

namespace LifeStory

/-- The place of a phase in the order of the phases. -/
def Phase.rank : Phase → Nat
  | active => 0
  | dead => 1
  | ended => 2

namespace Life

variable {R : Type}

theorem phase_of_alive {life : Life R} (h : life.alive = true) : life.phase = .active :=
  if_pos h

/-- Who is not alive is dead, or ended if an ending has closed the life. -/
theorem phase_of_not_alive {life : Life R} (h : life.alive = false) :
    life.phase = if life.ended then .ended else .dead :=
  if_neg (ne_true_of_eq_false h)

theorem isActive_iff {life : Life R} : life.isActive = true ↔ life.alive = true := by
  rw [isActive, decide_eq_true_iff]
  refine ⟨fun h ↦ ?_, phase_of_alive⟩
  cases halive : life.alive with
  | true => rfl
  | false =>
    rw [phase_of_not_alive halive] at h
    split at h <;> cases h

/-- The phase depends on whether the life is alive and whether an ending has closed it. -/
theorem phase_of_same {life later : Life R} (halive : later.alive = life.alive)
    (hended : later.ended = life.ended) : later.phase = life.phase := by
  rw [phase, phase, halive, hended]

/-- A later life, in comparison with an earlier one: it is in no earlier phase, it is not alive
again, no ending is taken back, and if the earlier life was over, then for the same reason. -/
structure Forward (life later : Life R) : Prop where
  phase : life.phase.rank ≤ later.phase.rank
  alive : life.alive = false → later.alive = false
  ended : life.ended = true → later.ended = true
  reason : life.phase ≠ .active → ∀ reason, life.endReason = some reason →
    later.endReason = some reason

namespace Forward

theorem refl (life : Life R) : Forward life life :=
  ⟨Nat.le_refl _, id, id, fun _ _ ↦ id⟩

/-- To go forward twice is to go forward. -/
theorem trans {a b c : Life R} (hab : Forward a b) (hbc : Forward b c) : Forward a c where
  phase := Nat.le_trans hab.phase hbc.phase
  alive := hbc.alive ∘ hab.alive
  ended := hbc.ended ∘ hab.ended
  reason hover reason hreason := by
    refine hbc.reason (fun hactive ↦ hover ?_) reason (hab.reason hover reason hreason)
    -- The phase before an active one is active.
    have hrank := hab.phase
    rw [hactive] at hrank
    cases hphase : a.phase <;> rw [hphase] at hrank <;> first | rfl | cases hrank

/-- A life that is active was so before. -/
theorem isActive_of_later {life later : Life R} (h : Forward life later)
    (hlater : later.isActive = true) : life.isActive = true := by
  rw [isActive_iff] at hlater ⊢
  refine Bool.not_eq_false _ ▸ fun halive ↦ ?_
  rw [h.alive halive] at hlater
  cases hlater

/-- A life that stands as before has moved forward. -/
theorem of_same {life later : Life R} (halive : later.alive = life.alive)
    (hended : later.ended = life.ended) (hreason : later.endReason = life.endReason) :
    Forward life later where
  phase := Nat.le_of_eq (by rw [phase_of_same halive hended])
  alive := halive.trans
  ended := hended.trans
  reason _ _ := hreason.trans

/-- An active life may end in any way. -/
theorem of_active {life later : Life R} (h : life.isActive = true)
    (hended : life.ended = true → later.ended = true) : Forward life later := by
  have hphase : life.phase = .active := phase_of_alive (isActive_iff.1 h)
  refine ⟨?_, fun hdead ↦ ?_, hended, fun hover ↦ absurd hphase hover⟩
  · rw [hphase]
    exact Nat.zero_le _
  · rw [isActive_iff.1 h] at hdead
    cases hdead

/-- An ending that closes a life comes after all phases, and keeps the reason of a life that is
over. -/
theorem closed (ending : String) (life : Life R) : Forward life (Scene.closed ending life) where
  phase := by
    show life.phase.rank ≤ 2
    cases life.phase <;> decide
  alive _ := rfl
  ended _ := rfl
  reason hover reason hreason := by
    have hdead : life.alive = false := by
      cases halive : life.alive with
      | true => exact absurd (phase_of_alive halive) hover
      | false => rfl
    simp [Scene.closed, hdead, hreason]

end Forward

/-- **A single change goes forward.** -/
theorem Change.forward [Scalar R] {catalog : Catalog R} {allowed : Directive R → Prop}
    {life next : Life R} (h : Change catalog allowed life next) : Forward life next := by
  cases h with
  | settle =>
    rcases life.settleDebt_cases with hsettle | ⟨_, _, hsettle⟩ <;> rw [hsettle]
    · exact .refl life
    · exact .of_same rfl rfl rfl
  | obey directive _ obeyed =>
    have hkept := kept_of_obey? obeyed
    exact .of_same hkept.alive hkept.ended hkept.endReason
  | die cause hactive => exact .of_active hactive id
  | close ending => exact (Forward.closed ending life).trans (.of_same rfl rfl rfl)
  | grow | wearStatuses | wearModifiers | note | stage | choose => exact .of_same rfl rfl rfl

/-- **A course goes forward.** -/
theorem Course.forward [Scalar R] {catalog : Catalog R} {allowed : Directive R → Prop}
    {life next : Life R} (h : Course catalog allowed life next) : Forward life next :=
  h.induction .refl (fun _ _ _ ↦ .trans) fun _ _ ↦ Change.forward

end Life

open Life (Forward)

namespace Session

variable {R A G : Type} [Scalar R] [AchievementSink A] [SeededSource G]

theorem forward_of_move (session : Session R A G) (m : Move) :
    Forward session.life (session.move m).2.life :=
  (move_course session.only_true m).forward

theorem forward_of_goOn (session : Session R A G) (moves : List Move) :
    Forward session.life (session.goOn moves).2.life :=
  session.goOn_induction (P := fun s ↦ Forward session.life s.life)
    (fun s m h ↦ h.trans (s.forward_of_move m)) (.refl _) moves

/-- **The life of a run only goes forward.** Between any two points of a run, whatever the moves,
the life goes forward; so it does while a list of directives is applied and while status effects
act, also when one of the directives has closed the life already. -/
theorem life_only_goes_forward (session : Session R A G) (earlier later : List Move) :
    Forward (session.goOn earlier).2.life (session.goOn (earlier ++ later)).2.life ∧
      (∀ (scene : Scene R A G) (outcomes : List (Directive R)),
        Forward scene.life (scene.applyAll session.setting.catalog outcomes).2.life) ∧
      ∀ (scene : Scene R A G) (active removed : List String),
        Forward scene.life
          (scene.actStatuses session.setting.catalog active removed).2.2.life := by
  refine ⟨?_, fun scene outcomes ↦ ?_, fun scene active removed ↦ ?_⟩
  · rw [goOn_append]
    exact forward_of_goOn _ later
  · have hcourse : Life.Course session.setting.catalog (fun _ ↦ True) scene.life
        (scene.applyAll session.setting.catalog outcomes).2.life :=
      scene.applyAll_course fun _ _ ↦ trivial
    exact hcourse.forward
  · exact (scene.actStatuses_course session.setting.catalog.only_true active removed).forward

end Session

end LifeStory
