import LifeStory.Proofs.Course
import LifeStory.Proofs.Skipping
import LifeStory.Scalar.Rational
import LifeStory.Template.Conditional

/-!
# Named stats are cells

A stat is read and written under its name. To read it, the turn counter is looked for first, then
the stats that every life has, then custom stats; to write it, the turn counter is passed over.
Under every other name the two agree: there is something to write exactly if there is something to
read (`isSome_updateStat?_iff`), what is written is read (`stat?_updateStat?_self`), and under other
names nothing else is read than before (`stat?_updateStat?_of_ne`).

So a stat keeps its value as long as no directive changes or sets it and no turn passes, and if it
is none that time wears, in turns as well (`Act.stat?`, `Change.stat?`). All that reads the stat
sees this value (`Life.Shows`).

Nothing is ever written to the turn counter. But a custom stat may have its name. A directive that
sets this stat is applied, and nothing shows it.
-/

namespace LifeStory

/-- A directive neither changes nor sets a stat. -/
def Directive.SparesStat {R : Type} (name : String) : Directive R → Prop
  | .changeStat deltas => ∀ delta ∈ deltas.entries, delta.1 ≠ name
  | .setStat stat _ => stat ≠ name
  | _ => True

namespace Life

variable {R : Type} [Scalar R] {life next : Life R} {name : String} {f : R → R}

/-! ### Reading and writing -/

/-- The stats of a life are all that is read under the name of a stat. -/
theorem stat?_congr (hstats : next.stats = life.stats)
    (hcustom : next.customStats = life.customStats) (hturn : next.turn = life.turn)
    (name : String) : next.stat? name = life.stat? name := by
  rw [stat?, stat?, hstats, hcustom, hturn]

theorem stat?_turnStat (life : Life R) : life.stat? turnStat = some (Scalar.ofNat life.turn) :=
  if_pos rfl

/-- A stat can be written exactly if it can be read, but for the turn counter: under its name a
custom stat is written, if there is one. -/
theorem isSome_updateStat?_iff (life : Life R) (name : String) (f : R → R) :
    (life.updateStat? name f).isSome = true ↔
      if name = turnStat then life.customStats.contains name = true
      else (life.stat? name).isSome = true := by
  by_cases hname : name = turnStat
  · have hcore : CoreStat.ofName? name = none := by rw [hname]; rfl
    rw [if_pos hname, updateStat?, hcore]
    dsimp only
    rw [Option.isSome_map, StringMap.contains]
  · rw [if_neg hname, updateStat?, stat?, if_neg hname]
    cases CoreStat.ofName? name with
    | some stat => exact iff_of_true rfl rfl
    | none => exact Bool.eq_iff_iff.1 (Option.isSome_map ..)

omit [Scalar R] in
theorem turn_updateStat? (h : life.updateStat? name f = some next) : next.turn = life.turn := by
  obtain ⟨stats, customStats, rfl⟩ := eq_of_updateStat? h
  rfl

/-- What is written is read, unless it is written under the name of the turn counter. -/
theorem stat?_updateStat?_self (h : life.updateStat? name f = some next) (hname : name ≠ turnStat) :
    next.stat? name = (life.stat? name).map f := by
  rw [updateStat?] at h
  rw [stat?, stat?, if_neg hname, if_neg hname]
  cases hcore : CoreStat.ofName? name with
  | some stat =>
    rw [hcore] at h
    obtain rfl := Option.some.inj h
    exact congrArg some (Stats.get_set_self ..)
  | none =>
    rw [hcore] at h
    obtain ⟨value, hvalue, rfl⟩ := Option.map_eq_some_iff.1 h
    dsimp only
    rw [StringMap.get?_insert_self, hvalue, Option.map_some]

theorem stat?_setStat?_self {value : R} (h : life.setStat? name value = some next)
    (hname : name ≠ turnStat) : next.stat? name = some value := by
  have hsome := (life.isSome_updateStat?_iff name _).1 (Option.isSome_of_eq_some h)
  rw [if_neg hname] at hsome
  obtain ⟨before, hbefore⟩ := Option.isSome_iff_exists.1 hsome
  rw [stat?_updateStat?_self h hname, hbefore, Option.map_some]

/-- Under other names nothing else is read than before, and neither is the turn counter. -/
theorem stat?_updateStat?_of_ne (h : life.updateStat? name f = some next) {other : String}
    (hother : other ≠ name ∨ other = turnStat) : next.stat? other = life.stat? other := by
  by_cases hturn : other = turnStat
  · rw [hturn, stat?_turnStat, stat?_turnStat, turn_updateStat? h]
  have hne : other ≠ name := hother.resolve_right hturn
  rw [updateStat?] at h
  rw [stat?, stat?, if_neg hturn, if_neg hturn]
  cases hcore : CoreStat.ofName? name with
  | some stat =>
    rw [hcore] at h
    obtain rfl := Option.some.inj h
    cases hother : CoreStat.ofName? other with
    | some stat' =>
      have hstat : stat ≠ stat' := by
        rintro rfl
        exact hne ((CoreStat.name_of_ofName? hother).symm.trans (CoreStat.name_of_ofName? hcore))
      exact congrArg some (Stats.get_set_of_ne life.stats _ hstat)
    | none => rfl
  | none =>
    rw [hcore] at h
    obtain ⟨value, -, rfl⟩ := Option.map_eq_some_iff.1 h
    dsimp only
    rw [StringMap.get?_insert_of_ne _ _ hne.symm]

/-! ### What leaves a stat alone -/

/-- To change other stats leaves the value of a stat. -/
theorem stat?_of_changeStats? {deltas : List (String × R)}
    (h : life.changeStats? deltas = some next) (hspares : ∀ delta ∈ deltas, delta.1 ≠ name) :
    next.stat? name = life.stat? name :=
  changeStats?_keeps (P := fun l ↦ l.stat? name = life.stat? name)
    (fun delta hdelta _ _ hchange hl ↦
      (stat?_updateStat?_of_ne hchange (.inl (hspares delta hdelta).symm)).trans hl) h rfl

variable {catalog : Catalog R}

theorem stat?_of_obey? {directive : Directive R} (hspares : directive.SparesStat name)
    (h : life.obey? catalog directive = some next) : next.stat? name = life.stat? name := by
  rcases stats_of_obey? h with
    ⟨deltas, rfl, hchanged⟩ | ⟨stat, value, rfl, hset⟩ | ⟨hstats, hcustom⟩
  · exact stat?_of_changeStats? hchanged hspares
  · exact stat?_updateStat?_of_ne hset (.inl (Ne.symm hspares))
  · exact stat?_congr hstats hcustom (kept_of_obey? h).turn name

/-- **Acts leave a stat alone** if their directives do. -/
theorem Act.stat? (h : Act catalog (·.SparesStat name) life next) :
    next.stat? name = life.stat? name := by
  cases h with
  | obey directive hspares obeyed => exact stat?_of_obey? hspares obeyed
  | note | die | close => rfl

/-- The stats that a turn that passes may change by itself. -/
def timeStats : List String :=
  [turnStat, CoreStat.age.name, CoreStat.health.name, CoreStat.sanity.name]

/-- Whoever grows older keeps every stat that time does not touch. -/
theorem stat?_grownOlder (hname : name ∉ timeStats) (life : Life R) (aging : Aging R) :
    (life.grownOlder aging).stat? name = life.stat? name := by
  simp only [timeStats, List.mem_cons, List.not_mem_nil, or_false, not_or] at hname
  obtain ⟨hturn, hage, hhealth, hsanity⟩ := hname
  rw [Life.stat?, Life.stat?, if_neg hturn, if_neg hturn]
  cases hcore : CoreStat.ofName? name with
  | none => rfl
  | some stat =>
    have hfound := CoreStat.name_of_ofName? hcore
    cases stat with
    | age => exact absurd hfound.symm hage
    | health => exact absurd hfound.symm hhealth
    | sanity => exact absurd hfound.symm hsanity
    | _ => rfl

/-- **Nothing that happens to a life changes a stat** but the directives that do so, if it is none
that time wears. -/
theorem Change.stat? (hname : name ∉ timeStats) (h : Change catalog (·.SparesStat name) life next) :
    next.stat? name = life.stat? name := by
  cases h with
  | grow aging => exact stat?_grownOlder hname life aging
  | settle =>
    rcases life.settleDebt_cases with hsame | ⟨_, _, hsettle⟩
    · rw [hsame]
    · rw [hsettle]
      rfl
  | obey directive hspares obeyed => exact stat?_of_obey? hspares obeyed
  | wearStatuses | wearModifiers | note | stage | choose | die | close => rfl

/-! ### What is shown of a stat -/

/-- All that reads a stat sees a value: conditions, the tendencies of choices, and templates, in
which a variable of the name goes first. -/
structure Shows (life : Life R) (name : String) (value : R) : Prop where
  condition : ∀ op right,
    (Condition.stat name op right).holds life = Condition.compareHolds op value right
  tendency : ∀ choice : Choice R, choice.worldview = some name → choice.tendency life = value
  template : life.vars.get? name = none →
    Template.leftValue life name = Template.definedOrZero value

theorem shows_of_stat? {value : R} (h : life.stat? name = some value) : life.Shows name value where
  condition op right := by rw [Condition.holds, h]
  tendency choice hchoice := by
    rw [Choice.tendency, hchoice, Option.bind_some, h, Option.getD_some]
  template hvars := by
    rw [Template.leftValue, hvars, h]
    rfl

/-- A value is shown after acts whose directives leave the stat alone. -/
theorem Acts.shows {value : R} (h : Acts catalog (·.SparesStat name) life next)
    (hvalue : life.stat? name = some value) : next.Shows name value :=
  shows_of_stat? <| h.keeps (P := fun l ↦ l.stat? name = some value)
    (fun _ _ hact hl ↦ hact.stat?.trans hl) hvalue

/-- A value is shown in whatever happens to a life, if time and directives leave the stat alone. -/
theorem Course.shows {value : R} (hname : name ∉ timeStats)
    (h : Course catalog (·.SparesStat name) life next) (hvalue : life.stat? name = some value) :
    next.Shows name value :=
  shows_of_stat? <| h.keeps (P := fun l ↦ l.stat? name = some value)
    (fun _ _ hchange hl ↦ (hchange.stat? hname).trans hl) hvalue

end Life

open Life (Acts Course)

variable {R A G : Type} [Scalar R] [AchievementSink A] [RandomSource G]

/-- **Named stats are cells.** A stat can be set exactly if it can be read, but for the turn
counter. What it is set to is read under its name, and nothing else is read under any other. So a
directive that sets a stat and is counted as applied is seen by all that reads the stat, whatever is
done to the life, until the stat is changed or set again: for all stats as long as no turn passes,
and in turns as well for those that time does not wear. Under the name of the turn counter nothing
is seen of it, though a custom stat of this name can be set. -/
theorem named_stats_are_cells (catalog : Catalog R) (scene : Scene R A G) (name : String)
    (value : R) :
    let life := scene.life
    ((life.setStat? name value).isSome = true ↔
        if name = Life.turnStat then life.customStats.contains name = true
        else (life.stat? name).isSome = true) ∧
      (∀ next, life.setStat? name value = some next →
        next.turn = life.turn ∧ (name ≠ Life.turnStat → next.stat? name = some value) ∧
          ∀ other, other ≠ name ∨ other = Life.turnStat → next.stat? other = life.stat? other) ∧
      ∀ applied after, scene.applyDirective catalog (.setStat name value) = (applied, after) →
        (applied = true ↔ (life.setStat? name value).isSome = true) ∧
          (applied = true → name ≠ Life.turnStat →
            (∀ later, Acts catalog (·.SparesStat name) after.life later →
                later.Shows name value) ∧
              (name ∉ Life.timeStats →
                ∀ later, Course catalog (·.SparesStat name) after.life later →
                  later.Shows name value)) := by
  intro life
  refine ⟨life.isSome_updateStat?_iff name _, fun next hset ↦ ⟨Life.turn_updateStat? hset,
    Life.stat?_setStat?_self hset, fun other ↦ Life.stat?_updateStat?_of_ne hset⟩, ?_⟩
  intro applied after happly
  have haccept : scene.accept (life.setStat? name value) = (applied, after) := happly
  cases hset : life.setStat? name value with
  | none =>
    rw [hset] at haccept
    obtain ⟨rfl, -⟩ := Prod.mk.inj haccept
    exact ⟨iff_of_false Bool.false_ne_true Bool.false_ne_true, nofun⟩
  | some next =>
    rw [hset] at haccept
    obtain ⟨rfl, rfl⟩ := Prod.mk.inj haccept
    refine ⟨iff_of_true rfl rfl, fun _ hname ↦ ?_⟩
    have hvalue : next.stat? name = some value := Life.stat?_setStat?_self hset hname
    exact ⟨fun _ hacts ↦ Life.Acts.shows hacts hvalue,
      fun htime _ hcourse ↦ Life.Course.shows htime hcourse hvalue⟩

/-- A life at its beginning, with two custom stats, of which one has the name of the turn
counter. -/
def pilgrim : Life ℚ :=
  { Life.fresh 50 with customStats := (StringMap.empty.insert "karma" 3).insert "turn" 3 }

/-- The pilgrim, before anything is done. -/
def pilgrimage : Scene ℚ Ledger Stepper := ⟨pilgrim, ⟨.empty, []⟩, .fresh ⟨0, 0⟩⟩

/-- Karma is set, and seen after another stat was set and the run was closed. -/
theorem karma_is_seen :
    let catalog : Catalog ℚ := .ofBase .empty
    let set := pilgrimage.applyDirective catalog (.setStat "karma" 5)
    let later := (set.2.applyAll catalog [.setStat "fame" 2, .triggerEnding "home"]).2.life
    set.1 = true ∧ later.phase = .ended ∧ later.Shows "karma" 5 := by
  intro catalog set later
  have happlied : set.1 = true := by decide +kernel
  have hacts : Acts catalog (·.SparesStat "karma") set.2.life later := by
    refine Scene.applyAll_acts (fun directive hdirective ↦ ?_) set.2
    simp only [List.mem_cons, List.not_mem_nil, or_false] at hdirective
    obtain rfl | rfl := hdirective
    · exact (by decide : "fame" ≠ "karma")
    · trivial
  obtain ⟨-, -, hseen⟩ := named_stats_are_cells catalog pilgrimage "karma" 5
  exact ⟨happlied, by decide +kernel,
    ((hseen set.1 set.2 rfl).2 happlied (by decide)).1 later hacts⟩

/-- The custom stat with the name of the turn counter is set, which counts as applied, and what is
read under the name is the turn, as before. -/
theorem turn_is_set_and_not_seen :
    let set := pilgrimage.applyDirective (.ofBase .empty) (.setStat Life.turnStat 9)
    set.1 = true ∧ set.2.life.customStats.get? Life.turnStat = some 9 ∧
      set.2.life.stat? Life.turnStat = some 0 ∧ ¬ set.2.life.Shows Life.turnStat 9 := by
  intro set
  refine ⟨by decide +kernel, by decide +kernel, by decide +kernel, fun hshows ↦ ?_⟩
  have hcondition := hshows.condition (some .eq) (some 9)
  exact absurd hcondition (by decide +kernel)

end LifeStory
