import LifeStory.Proofs.Phases
import LifeStory.Proofs.Stories
import LifeStory.Random.Xoshiro
import LifeStory.Scalar.Rational
import Mathlib.Algebra.Order.Archimedean.Basic
import Mathlib.Tactic.Linarith
import Mathlib.Tactic.Ring

/-!
# Lifetimes

In exact arithmetic a life whose age no directive touches is as much older as turns have passed over
it (`Life.Ages`): time makes it older once a turn, whatever else happens, and factors on the changes
of stats have no hand in it. The thresholds are enforced in every turn that passes, whatever other
causes and endings come before, so a life that goes on after a turn is not past the greatest age.

Time has to pass for that. A life that is past the greatest age goes on until a turn passes, or a
choice is resolved (`Session.old_life_goes_on_until_time_passes`).
-/

namespace LifeStory

/-! ### Directives -/

/-- A directive neither changes nor sets the age. -/
def Directive.SparesAge {R : Type} : Directive R → Prop
  | .changeStat deltas => ∀ delta ∈ deltas.entries, delta.1 ≠ CoreStat.age.name
  | .setStat stat _ => stat ≠ CoreStat.age.name
  | _ => True

namespace Life

section Directives

variable {R : Type} {life next : Life R}

/-- A change of another stat leaves the age alone. -/
theorem age_of_updateStat? {name : String} {f : R → R} (h : life.updateStat? name f = some next)
    (hname : name ≠ CoreStat.age.name) : next.stats.age = life.stats.age := by
  rw [updateStat?] at h
  split at h
  · next stat hstat =>
    have hfound : stat.name = name := CoreStat.name_of_ofName? hstat
    have hstat : stat ≠ .age := fun heq ↦ hname (heq ▸ hfound.symm)
    obtain rfl := Option.some.inj h
    exact Stats.get_set_of_ne life.stats _ hstat
  · obtain ⟨_, -, rfl⟩ := Option.map_eq_some_iff.1 h
    rfl

variable [Scalar R]

theorem age_of_changeStats? {deltas : List (String × R)} (h : life.changeStats? deltas = some next)
    (hnames : ∀ delta ∈ deltas, delta.1 ≠ CoreStat.age.name) :
    next.stats.age = life.stats.age :=
  changeStats?_keeps (P := fun l ↦ l.stats.age = life.stats.age)
    (fun delta hdelta _ _ hchange hl ↦
      (age_of_updateStat? hchange (hnames delta hdelta)).trans hl) h rfl

/-- Acts leave the age alone if their directives do. -/
theorem Act.age {catalog : Catalog R} (h : Act catalog Directive.SparesAge life next) :
    next.stats.age = life.stats.age := by
  cases h with
  | obey directive hspares obeyed =>
    rcases stats_of_obey? obeyed with
      ⟨deltas, rfl, hchanged⟩ | ⟨stat, value, rfl, hset⟩ | ⟨hstats, -⟩
    · exact age_of_changeStats? hchanged hspares
    · exact age_of_updateStat? hset hspares
    · rw [hstats]
  | note | die | close => rfl

end Directives

/-! ### Time -/

/-- A life that breaches no threshold is not past the greatest age. -/
theorem not_old_of_safe {R : Type} [Scalar R] {life : Life R} {thresholds : Thresholds R}
    (h : life.breach? thresholds = none) : ¬ thresholds.maxAge < life.stats.age := by
  intro hold
  rw [breach?] at h
  split_ifs at h

end Life

namespace Scene

variable {R A G : Type} [Scalar R] [AchievementSink A] [RandomSource G] {setting : Setting R}

/-- **A turn adds to the age exactly once.** -/
theorem age_passTurn (h : setting.catalog.Only Directive.SparesAge) (scene : Scene R A G) :
    (scene.passTurn setting).2.life.stats.age =
      scene.life.stats.age + setting.config.aging.agePerTurn := by
  let older := scene.life.grownOlder setting.config.aging
  refine passTurn_keeps (P := fun life ↦ life.stats.age = older.stats.age) h (fun life hlife ↦ ?_)
    (fun _ _ hact hlife ↦ hact.age.trans hlife) (fun _ _ _ hlife ↦ hlife) (fun _ hlife ↦ hlife) rfl
  rcases life.settleDebt_cases with hsame | ⟨_, _, hsettle⟩
  · rwa [hsame]
  · rwa [hsettle]

/-- A life that goes on when a turn has passed is not past the greatest age. -/
theorem not_old_passTurn {scene : Scene R A G}
    (h : (scene.passTurn setting).2.life.isActive = true) :
    ¬ setting.config.thresholds.maxAge < (scene.passTurn setting).2.life.stats.age := by
  rw [passTurn_eq] at h ⊢
  dsimp only at h ⊢
  rcases (scene.aged setting).enforceThresholds_cases setting.catalog setting.config.thresholds with
    ⟨cause, -, -, hdies⟩ | ⟨hsafe, hlives⟩
  · rw [hdies] at h
    exact absurd (Life.isActive_iff.1 h) Bool.false_ne_true
  · rw [hlives] at h ⊢
    exact Life.not_old_of_safe (hsafe h)

end Scene

/-! ### Stories -/

namespace Life

variable {A G : Type} [AchievementSink A] [RandomSource G] {setting : Setting ℚ}
  {told more : Happenings} {life next : Life ℚ} {start : ℚ}

/-- How old a life is after what was told, from the age that it had at the start on. -/
structure Ages (setting : Setting ℚ) (start : ℚ) (told : Happenings) (life : Life ℚ) : Prop where
  age : life.stats.age = start + told.turns * setting.config.aging.agePerTurn
  /-- A life that goes on is not past the greatest age, once a turn has passed. -/
  spared : life.isActive = true → 0 < told.turns ∨ start ≤ setting.config.thresholds.maxAge →
    life.stats.age ≤ setting.config.thresholds.maxAge

theorem Beat.ages (honly : setting.catalog.Only Directive.SparesAge)
    (beat : Beat A G setting Directive.SparesAge more life next)
    (h : Ages setting start told life) : Ages setting start (told ++ more) next := by
  cases beat with
  | act hact =>
    rw [Happenings.append_nothing]
    refine ⟨hact.age.trans h.age, fun hactive hspared ↦ ?_⟩
    rw [hact.age]
    exact h.spared (hact.change.forward.isActive_of_later hactive) hspared
  | pass scene =>
    refine ⟨?_, fun hactive _ ↦ not_lt.1 (Scene.not_old_passTurn hactive)⟩
    have hage : (scene.passTurn setting).2.life.stats.age =
        scene.life.stats.age + setting.config.aging.agePerTurn := scene.age_passTurn honly
    rw [hage, h.age, Happenings.turns_append]
    push_cast
    ring
  | stage | choose => exact ⟨h.age, h.spared⟩

/-- **A story makes a life older by the turns that it lets pass.** -/
theorem Story.ages (honly : setting.catalog.Only Directive.SparesAge)
    (story : Story A G setting Directive.SparesAge more life next)
    (h : Ages setting start told life) : Ages setting start (told ++ more) next :=
  story.keeps (fun _ _ _ _ beat h ↦ beat.ages honly h) h

end Life

/-! ### Runs -/

namespace Session

section Rounds

variable {R A G : Type} [Scalar R] [AchievementSink A] [RandomSource G]

/-- Turns that leave the run going on have all been played. -/
theorem length_runUntilOver {turns : Nat} {session : Session R A G}
    (h : (session.runUntilOver turns).2.life.isActive = true) :
    (session.runUntilOver turns).1.length = turns := by
  induction turns generalizing session with
  | zero => rfl
  | succ turns ih =>
    cases hactive : session.life.isActive with
    | true =>
      rw [runUntilOver_of_active hactive] at h ⊢
      exact congrArg (· + 1) (ih h)
    | false =>
      rw [runUntilOver_of_over hactive, hactive] at h
      cases h

end Rounds

variable {A G : Type} [AchievementSink A] [SeededSource G]

/-- **Every run ends within a lifetime.** In exact arithmetic, if no directive of a choice or a
status effect changes the age: a run that is still active when so many turns have passed is not past
the greatest age by then, unless it was so to begin with and no turn has passed. So a run that is
played for turns that lead past the greatest age is over then; and if lives grow older at all, there
is such a number of turns. -/
theorem every_run_ends_within_a_lifetime {setting : Setting ℚ}
    (h : setting.catalog.Only Directive.SparesAge) (world : World ℚ A G) :
    let session := idle setting world
    let age := world.life.stats.age
    let perTurn := setting.config.aging.agePerTurn
    let limit := setting.config.thresholds.maxAge
    (∀ moves, (session.goOn moves).2.life.isActive = true →
      0 < session.turnsIn moves ∨ age ≤ limit → age + session.turnsIn moves * perTurn ≤ limit) ∧
    (∀ n : Nat, 0 < n → limit < age + n * perTurn →
      (session.runUntilOver n).2.life.isActive = false) ∧
    (0 < perTurn → ∃ n, (session.runUntilOver n).2.life.isActive = false) := by
  intro session age perTurn limit
  have hruns : ∀ moves, (session.goOn moves).2.life.isActive = true →
      0 < session.turnsIn moves ∨ age ≤ limit →
        age + session.turnsIn moves * perTurn ≤ limit := by
    intro moves hactive hspared
    have hstart : Life.Ages setting age .nothing world.life :=
      ⟨by simp [Happenings.nothing, age], fun _ hspared ↦ hspared.resolve_left (Nat.lt_irrefl 0)⟩
    have hfit : session.Fit := fit_idle setting world
    have hend := (goOn_story h hfit moves).ages h hstart
    rw [Happenings.nothing_append] at hend
    exact hend.age ▸ hend.spared hactive hspared
  have hover : ∀ n : Nat, 0 < n → limit < age + n * perTurn →
      (session.runUntilOver n).2.life.isActive = false := by
    intro n hn hpast
    rw [Bool.eq_false_iff]
    intro hactive
    have hturns : session.turnsIn [.runUntilOver n] = n := length_runUntilOver hactive
    have hpassed : 0 < session.turnsIn [.runUntilOver n] := by rwa [hturns]
    have hwithin := hruns [.runUntilOver n] hactive (.inl hpassed)
    rw [hturns] at hwithin
    exact absurd hwithin (not_le.2 hpast)
  refine ⟨hruns, hover, fun hpositive ↦ ?_⟩
  obtain ⟨n, hn⟩ := exists_nat_gt ((limit - age) / perTurn)
  have hpast : limit - age < n * perTurn := (div_lt_iff₀ hpositive).1 hn
  refine ⟨n + 1, hover (n + 1) (Nat.succ_pos n) ?_⟩
  push_cast
  linarith

/-- A catalog of one event, a walk that does good. -/
def walkingCatalog : Catalog ℚ :=
  { Catalog.ofBase .empty with
    events := [⟨"walk", "", "", [], [{ Choice.plain none "Walk on" with
      outcomes := [.changeStat (.ofList [("health", 1.0)])] }], [], none, false, false⟩] }

theorem walkingCatalog_sparesAge : walkingCatalog.Only Directive.SparesAge := by
  refine ⟨fun event hevent choice hchoice directive hdirective ↦ ?_, fun id effect heffect ↦ ?_⟩
  · obtain rfl := List.mem_singleton.1 hevent
    obtain rfl := List.mem_singleton.1 hchoice
    obtain rfl := List.mem_singleton.1 hdirective
    intro delta hdelta
    obtain rfl : delta = ("health", 1.0) := List.mem_singleton.1 hdelta
    decide
  · cases heffect

/-- Walking does not let a life go on for ever: half a year older in every turn, it is over when it
would be past a hundred. -/
theorem walker_lives_two_hundred_turns_at_most :
    let session : Session ℚ Ledger Xoshiro :=
      idle ⟨walkingCatalog, .default⟩ ⟨Life.fresh 50, ⟨.empty, []⟩, .ofSeed 7⟩
    walkingCatalog.Only Directive.SparesAge ∧
      (session.runUntilOver 201).2.life.isActive = false := by
  intro session
  refine ⟨walkingCatalog_sparesAge, ?_⟩
  have hspares : session.setting.catalog.Only Directive.SparesAge := walkingCatalog_sparesAge
  have hends := every_run_ends_within_a_lifetime hspares session.world
  exact hends.2.1 201 (by decide) (by decide +kernel)

/-- A life of two hundred years goes on as long as no turn passes, in a setting in which lives do
not grow older than a hundred. -/
theorem old_life_goes_on_until_time_passes :
    let setting : Setting ℚ := ⟨walkingCatalog, .default⟩
    let life : Life ℚ := { Life.fresh 50 with stats := { Stats.initial with age := 200.0 } }
    let session : Session ℚ Ledger Xoshiro := idle setting ⟨life, ⟨.empty, []⟩, .ofSeed 7⟩
    let perTurn := setting.config.aging.agePerTurn
    let limit := setting.config.thresholds.maxAge
    0 < perTurn ∧ setting.catalog.Only Directive.SparesAge ∧ life.isActive = true ∧
      ¬ (∀ moves, (session.goOn moves).2.life.isActive = true →
        life.stats.age + session.turnsIn moves * perTurn ≤ limit) ∧
      ¬ ∀ n : Nat, limit < life.stats.age + n * perTurn →
        (session.runUntilOver n).2.life.isActive = false := by
  intro setting life session perTurn limit
  have hpast : limit < life.stats.age + (0 : Nat) * perTurn := by decide +kernel
  have hactive : life.isActive = true := rfl
  refine ⟨by decide +kernel, walkingCatalog_sparesAge, hactive, fun hruns ↦ ?_, fun hover ↦ ?_⟩
  · exact absurd (hruns [] hactive) (not_le.2 hpast)
  · exact absurd (hover 0 hpast) (ne_false_of_eq_true hactive)

end Session

end LifeStory
