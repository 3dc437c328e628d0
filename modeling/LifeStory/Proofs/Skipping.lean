import LifeStory.Proofs.Directives
import LifeStory.Random.Stepper
import LifeStory.Scalar.Rational

/-!
# Skipped directives

A directive is skipped exactly when nothing can be done of what it asks for
(`Life.CannotObey`, `Scene.skipped_iff`): there is no such stat, the item is not carried, the run is
closed already, or the directive was never understood. Then it leaves the whole scene as it was
(`Scene.eq_of_skipped`), and the list goes on as if it were not there.

Lists of directives compose: what a list counts is the sum of what its parts count, and the later
part sees the scene that the earlier one leaves (`Scene.applyAll_append`). With both, the directives
of a list that were applied (`Scene.effective`) do by themselves all that the list does
(`Scene.applyAll_effective`).
-/

namespace LifeStory

/-! ### Tallies -/

namespace Tally

/-- What became of two lists of directives, one after the other. -/
def append (a b : Tally) : Tally :=
  ⟨a.applied + b.applied, a.skipped + b.skipped, a.removed ++ b.removed⟩

instance : Append Tally := ⟨append⟩

theorem append_def (a b : Tally) :
    a ++ b = ⟨a.applied + b.applied, a.skipped + b.skipped, a.removed ++ b.removed⟩ := rfl

@[simp] theorem zero_append (tally : Tally) : zero ++ tally = tally := by
  simp only [append_def, zero, Nat.zero_add, List.nil_append]

@[simp] theorem append_zero (tally : Tally) : tally ++ zero = tally := by
  simp only [append_def, zero, Nat.add_zero, List.append_nil]

theorem append_assoc (a b c : Tally) : a ++ b ++ c = a ++ (b ++ c) := by
  simp only [append_def, Nat.add_assoc, List.append_assoc]

/-- What becomes of one directive. -/
def ofDirective {R : Type} (directive : Directive R) (applied : Bool) : Tally :=
  zero.count directive applied

theorem ofDirective_true {R : Type} (directive : Directive R) :
    ofDirective directive true = ⟨1, 0, removedBy directive⟩ := rfl

theorem ofDirective_false {R : Type} (directive : Directive R) :
    ofDirective directive false = ⟨0, 1, []⟩ := rfl

/-- To count a directive is to add what became of it alone. -/
theorem count_eq {R : Type} (tally : Tally) (directive : Directive R) (applied : Bool) :
    tally.count directive applied = tally ++ ofDirective directive applied := by
  cases applied
  · simp [count, ofDirective, append_def, zero]
  · simp [count, ofDirective, append_def, zero]

end Tally

/-! ### What cannot be done -/

namespace Life

variable {R : Type} {life : Life R}

/-- There is a stat with the name, and directives may write it. -/
def Writable (life : Life R) (name : String) : Prop :=
  CoreStat.ofName? name ≠ none ∨ life.customStats.get? name ≠ none

/-- A stat is not updated exactly if it cannot be written. -/
theorem updateStat?_eq_none_iff {name : String} {f : R → R} :
    life.updateStat? name f = none ↔ ¬ life.Writable name := by
  rw [updateStat?, Writable]
  cases CoreStat.ofName? name with
  | some stat => simp
  | none => simp

variable [Scalar R]

/-- No stat is changed when none of the names is that of a stat. -/
theorem changeStats?_eq_none_iff {deltas : List (String × R)} :
    life.changeStats? deltas = none ↔ ∀ delta ∈ deltas, ¬ life.Writable delta.1 := by
  induction deltas with
  | nil => simp [changeStats?]
  | cons delta rest ih =>
    obtain ⟨stat, amount⟩ := delta
    have hfirst : life.changeStat? stat amount = none ↔ ¬ life.Writable stat :=
      updateStat?_eq_none_iff
    rw [List.forall_mem_cons, ← hfirst, ← ih, changeStats?]
    cases life.changeStat? stat amount with
    | some changed => simp
    | none => simp

/-- Nothing can be done of what a directive asks for. -/
def CannotObey (life : Life R) : Directive R → Prop
  | .changeStat deltas => ∀ delta ∈ deltas.entries, ¬ life.Writable delta.1
  | .addMultiplier stat _ => life.stat? stat = none ∨ stat = turnStat
  | .setStat stat _ => ¬ life.Writable stat
  | .removeItem item => life.hasItem item = false
  | .removeTag tag => life.hasTag tag = false
  | .removeStatus id => life.hasStatus id = false
  | .triggerEnding _ => life.phase = .ended
  | .unknown _ => True
  | .addItem _ | .addTag .. | .addStatus .. | .unlockEvent _ | .resetEvent _
  | .modifyTagProbability .. | .modifyEventWeight .. | .unlockAchievement _ | .setVariable ..
  | .changeVariable .. => False

end Life

namespace Scene

variable {R A G : Type} [Scalar R] [AchievementSink A] [RandomSource G] {catalog : Catalog R}

omit [Scalar R] [AchievementSink A] [RandomSource G] in
/-- A scene skips exactly the changes that are refused. -/
theorem accept_skips_iff {scene : Scene R A G} {changed : Option (Life R)} :
    (scene.accept changed).1 = false ↔ changed = none := by
  cases changed with
  | some life => exact iff_of_false nofun nofun
  | none => exact iff_of_true rfl rfl

/-- **A directive is skipped exactly when nothing can be done** of what it asks for. -/
theorem skipped_iff {directive : Directive R} {scene : Scene R A G} :
    (scene.applyDirective catalog directive).1 = false ↔ scene.life.CannotObey directive := by
  cases directive with
  | changeStat deltas => exact accept_skips_iff.trans Life.changeStats?_eq_none_iff
  | setStat stat value =>
    refine accept_skips_iff.trans ?_
    show scene.life.updateStat? stat (fun _ ↦ value) = none ↔ _
    exact Life.updateStat?_eq_none_iff
  | addMultiplier stat factor =>
    refine accept_skips_iff.trans ?_
    simp only [Life.obey?, Life.addMultiplier?, Life.CannotObey, Option.isNone_iff_eq_none,
      ite_eq_left_iff, reduceCtorEq, imp_false, Decidable.not_not]
  | removeItem item =>
    refine accept_skips_iff.trans ?_
    simp [Life.obey?, Life.removeItem?, Life.CannotObey]
  | removeTag tag =>
    refine accept_skips_iff.trans ?_
    simp [Life.obey?, Life.removeTag?, Life.CannotObey]
  | removeStatus id =>
    refine accept_skips_iff.trans ?_
    simp [Life.obey?, Life.removeStatus?, Life.CannotObey]
  | triggerEnding ending =>
    show (scene.triggerEnding catalog ending).1 = false ↔ scene.life.phase = .ended
    rw [triggerEnding]
    cases scene.life.phase <;> simp
  | unknown raw => exact iff_of_true rfl trivial
  | _ => exact iff_of_false Bool.false_ne_true.symm id

/-! ### Lists of directives compose -/

/-- A list of directives goes on with the scene and the tally that its first directive leaves. -/
theorem applyFrom_cons (directive : Directive R) (rest : List (Directive R)) (tally : Tally)
    (scene : Scene R A G) :
    scene.applyFrom catalog (directive :: rest) tally =
      (scene.applyDirective catalog directive).2.applyFrom catalog rest
        (tally.count directive (scene.applyDirective catalog directive).1) :=
  rfl

/-- Counting goes on from whatever was counted before. -/
theorem applyFrom_eq (outcomes : List (Directive R)) (tally : Tally) (scene : Scene R A G) :
    scene.applyFrom catalog outcomes tally =
      (tally ++ (scene.applyAll catalog outcomes).1, (scene.applyAll catalog outcomes).2) := by
  induction outcomes generalizing tally scene with
  | nil => exact congrArg (·, scene) tally.append_zero.symm
  | cons directive rest ih =>
    rw [applyAll, applyFrom_cons, applyFrom_cons, ih, ih (Tally.zero.count _ _),
      Tally.count_eq tally, Tally.append_assoc]
    rfl

/-- What a list does is what its first directive does, and then the others. -/
theorem applyAll_cons (directive : Directive R) (rest : List (Directive R))
    (scene : Scene R A G) :
    scene.applyAll catalog (directive :: rest) =
      let next := (scene.applyDirective catalog directive).2.applyAll catalog rest
      (Tally.ofDirective directive (scene.applyDirective catalog directive).1 ++ next.1, next.2) :=
  applyFrom_eq rest _ (scene.applyDirective catalog directive).2

/-- **Two lists in a row** do what the second does where the first has left off. -/
theorem applyAll_append (first second : List (Directive R)) (scene : Scene R A G) :
    scene.applyAll catalog (first ++ second) =
      let next := (scene.applyAll catalog first).2.applyAll catalog second
      ((scene.applyAll catalog first).1 ++ next.1, next.2) := by
  induction first generalizing scene with
  | nil => exact congrArg (·, _) (Tally.zero_append _).symm
  | cons directive rest ih =>
    rw [List.cons_append, applyAll_cons, ih, applyAll_cons]
    exact congrArg (·, _) (Tally.append_assoc _ _ _).symm

theorem applyAll_cons_snd (directive : Directive R) (rest : List (Directive R))
    (scene : Scene R A G) :
    (scene.applyAll catalog (directive :: rest)).2 =
      ((scene.applyDirective catalog directive).2.applyAll catalog rest).2 := by
  rw [applyAll_cons]

/-- Two lists one after the other leave the scene that the second makes of that of the first. -/
theorem applyAll_append_snd (first second : List (Directive R)) (scene : Scene R A G) :
    (scene.applyAll catalog (first ++ second)).2 =
      ((scene.applyAll catalog first).2.applyAll catalog second).2 := by
  rw [applyAll_append]

/-! ### Skipped directives -/

/-- **A directive that is skipped leaves the scene as it was.** -/
theorem eq_of_skipped {directive : Directive R} {scene : Scene R A G}
    (h : (scene.applyDirective catalog directive).1 = false) :
    scene.applyDirective catalog directive = (false, scene) := by
  rcases applyDirective_cases catalog directive scene with
    ⟨ending, rfl, happly⟩ | ⟨id, rfl, happly⟩ | happly
  · rw [happly, triggerEnding] at h ⊢
    split at h
    · rfl
    · cases h
  · rw [happly] at h
    cases h
  · rw [happly] at h ⊢
    cases hobeyed : scene.life.obey? catalog directive with
    | none => rfl
    | some life =>
      rw [hobeyed] at h
      cases h

/-- The directives of a list that are applied, each where those before it have left off. -/
def effective (catalog : Catalog R) : List (Directive R) → Scene R A G → List (Directive R)
  | [], _ => []
  | directive :: rest, scene =>
    let (applied, next) := scene.applyDirective catalog directive
    if applied then directive :: effective catalog rest next else effective catalog rest next

variable {directive : Directive R} {scene : Scene R A G}

/-- A directive that was applied is one of the effective ones. -/
theorem effective_cons_of_applied (h : (scene.applyDirective catalog directive).1 = true)
    (rest : List (Directive R)) :
    effective catalog (directive :: rest) scene =
      directive :: effective catalog rest (scene.applyDirective catalog directive).2 :=
  if_pos h

/-- A directive that was skipped is left out. -/
theorem effective_cons_of_skipped (h : (scene.applyDirective catalog directive).1 = false)
    (rest : List (Directive R)) :
    effective catalog (directive :: rest) scene = effective catalog rest scene := by
  rw [effective, eq_of_skipped h]
  exact if_neg Bool.false_ne_true

/-- The effective directives are some of those of the list, in order. -/
theorem effective_sublist (catalog : Catalog R) (outcomes : List (Directive R))
    (scene : Scene R A G) : (effective catalog outcomes scene).Sublist outcomes := by
  induction outcomes generalizing scene with
  | nil => exact .slnil
  | cons directive rest ih =>
    cases h : (scene.applyDirective catalog directive).1 with
    | true =>
      rw [effective_cons_of_applied h]
      exact (ih _).cons_cons directive
    | false =>
      rw [effective_cons_of_skipped h]
      exact (ih scene).cons directive

/-- Every directive of a list is counted once, as applied or as skipped. -/
theorem length_eq_applied_add_skipped (outcomes : List (Directive R)) (scene : Scene R A G) :
    (scene.applyAll catalog outcomes).1.applied + (scene.applyAll catalog outcomes).1.skipped =
      outcomes.length := by
  induction outcomes generalizing scene with
  | nil => rfl
  | cons directive rest ih =>
    have hrest := ih (scene.applyDirective catalog directive).2
    rw [applyAll_cons, List.length_cons]
    cases (scene.applyDirective catalog directive).1 with
    | true =>
      rw [Tally.ofDirective_true]
      show 1 + _ + (0 + _) = _
      omega
    | false =>
      rw [Tally.ofDirective_false]
      show 0 + _ + (1 + _) = _
      omega

/-- **The directives that are applied do all that the list does**, and nothing of them is
skipped. -/
theorem applyAll_effective (outcomes : List (Directive R)) (scene : Scene R A G) :
    scene.applyAll catalog (effective catalog outcomes scene) =
      ({ (scene.applyAll catalog outcomes).1 with skipped := 0 },
        (scene.applyAll catalog outcomes).2) := by
  induction outcomes generalizing scene with
  | nil => rfl
  | cons directive rest ih =>
    cases h : (scene.applyDirective catalog directive).1 with
    | true =>
      rw [effective_cons_of_applied h, applyAll_cons, ih, applyAll_cons, h]
      rfl
    | false =>
      -- What was skipped counts nothing but itself, and has removed nothing.
      rw [effective_cons_of_skipped h, ih, applyAll_cons, eq_of_skipped h, Tally.ofDirective_false]
      simp only [Tally.append_def, Nat.zero_add, List.nil_append]

/-- As many directives count as applied as are effective. -/
theorem applied_applyAll (outcomes : List (Directive R)) (scene : Scene R A G) :
    (scene.applyAll catalog outcomes).1.applied = (effective catalog outcomes scene).length := by
  have hcounted : (scene.applyAll catalog (effective catalog outcomes scene)).1.applied +
      (scene.applyAll catalog (effective catalog outcomes scene)).1.skipped = _ :=
    length_eq_applied_add_skipped (effective catalog outcomes scene) scene
  rw [applyAll_effective] at hcounted
  exact hcounted

/-- One more directive counts as skipped when it is skipped where the others have left off. -/
theorem counted_as_skipped_iff {outcomes : List (Directive R)} :
    (scene.applyAll catalog (outcomes ++ [directive])).1.skipped =
        (scene.applyAll catalog outcomes).1.skipped + 1 ↔
      ((scene.applyAll catalog outcomes).2.applyDirective catalog directive).1 = false := by
  rw [applyAll_append, applyAll_cons]
  cases ((scene.applyAll catalog outcomes).2.applyDirective catalog directive).1 with
  | true => exact iff_of_false (Nat.succ_ne_self _).symm nofun
  | false => exact iff_of_true rfl rfl

/-- **Skipped directives are invisible.** Whatever the directives and the scene that they are
applied to:
* each is counted once, as applied or as skipped;
* one that comes after others is counted as skipped exactly when nothing can be done of what it asks
  for, and then it leaves the scene as they left it;
* those that are applied, in their order, do by themselves all that the list does, and nothing of
  them is skipped;
* a list that is followed by another does what it does, and then the other does what it does from
  there on, and what they count adds up. -/
theorem skipped_directives_are_invisible (catalog : Catalog R) (outcomes : List (Directive R))
    (scene : Scene R A G) :
    let tally := (scene.applyAll catalog outcomes).1
    let after := (scene.applyAll catalog outcomes).2
    tally.applied + tally.skipped = outcomes.length ∧
    (∀ directive, ((scene.applyAll catalog (outcomes ++ [directive])).1.skipped =
        tally.skipped + 1 ↔ after.life.CannotObey directive) ∧
      (after.life.CannotObey directive →
        (scene.applyAll catalog (outcomes ++ [directive])).2 = after)) ∧
    ((effective catalog outcomes scene).Sublist outcomes ∧
      (effective catalog outcomes scene).length = tally.applied ∧
      scene.applyAll catalog (effective catalog outcomes scene) =
        (⟨tally.applied, 0, tally.removed⟩, after)) ∧
    ∀ more, scene.applyAll catalog (outcomes ++ more) =
      (tally ++ (after.applyAll catalog more).1, (after.applyAll catalog more).2) := by
  intro tally after
  refine ⟨length_eq_applied_add_skipped outcomes scene, fun directive ↦ ⟨?_, fun hcannot ↦ ?_⟩,
    ⟨effective_sublist catalog outcomes scene, (applied_applyAll outcomes scene).symm,
      applyAll_effective outcomes scene⟩, fun more ↦ applyAll_append outcomes more scene⟩
  · exact counted_as_skipped_iff.trans skipped_iff
  · rw [applyAll_append_snd, applyAll_cons_snd, eq_of_skipped (skipped_iff.2 hcannot)]
    rfl

/-- A key is picked up, a lamp that is not there cannot be laid down, and the scene is that after
the key was picked up. -/
theorem missing_lamp_is_invisible :
    let catalog : Catalog ℚ := .ofBase .empty
    let scene : Scene ℚ Ledger Stepper := ⟨Life.fresh 50, ⟨.empty, []⟩, .fresh ⟨0, 0⟩⟩
    let lamp := [Directive.addItem "key"] ++ [Directive.removeItem "lamp"]
    (scene.applyAll catalog lamp).1 = ⟨1, 1, []⟩ ∧
      (scene.applyAll catalog lamp).2 = (scene.applyAll catalog [.addItem "key"]).2 := by
  intro catalog scene lamp
  have hmissing : (scene.applyAll catalog [.addItem "key"]).2.life.hasItem "lamp" = false := by
    decide +kernel
  have hinvisible := (skipped_directives_are_invisible catalog [.addItem "key"] scene).2.1
    (.removeItem "lamp")
  exact ⟨by decide +kernel, hinvisible.2 hmissing⟩

end Scene

end LifeStory
