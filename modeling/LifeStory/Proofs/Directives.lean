import LifeStory.Status

/-!
# What directives leave alone

A directive that asks for a change of the life alone (`Life.obey?`) has no hand in how the run
stands: it neither ends a life nor revives one, it does not move the turn counter, and it writes
nothing to the log. Which events have taken place it changes only when it resets one, and which are
unlocked only when it unlocks one. `Life.Kept` lists all of this. What each directive makes of a
life is read off `Life.obey?` once, by `Life.obeys_of_obey?`.

What every directive keeps is kept by lists of directives, and by the status effects of a turn.

Nor does such a directive read the log: with another log the same changes are made
(`Life.obey?_relog`).
-/

namespace LifeStory

namespace Life

variable {R : Type}

/-- What a directive that changes the life alone leaves as it is. -/
structure Kept (directive : Directive R) (life next : Life R) : Prop where
  alive : next.alive = life.alive
  endReason : next.endReason = life.endReason
  ended : next.ended = life.ended
  turn : next.turn = life.turn
  talents : next.talents = life.talents
  chosen : next.chosen = life.chosen
  log : next.log = life.log
  /-- Only a reset makes an event count as new. -/
  triggered : (∀ event, directive ≠ .resetEvent event) → next.triggered = life.triggered
  /-- Only an unlocking unlocks. -/
  unlocked : (∀ event, directive ≠ .unlockEvent event) → next.unlocked = life.unlocked

/-- Whatever becomes of the rest of a life. -/
theorem Kept.of_rest {directive : Directive R} {life : Life R} (stats : Stats R)
    (customStats : StringMap R) (vars : StringMap (Variable R)) (multipliers : StringMap R)
    (statuses : List ActiveStatus) (inventory tags : List String) (tagOdds : StringMap R)
    (eventModifiers : List (EventModifier R)) :
    Kept directive life { life with
      stats := stats, customStats := customStats, vars := vars, multipliers := multipliers,
      statuses := statuses, inventory := inventory, tags := tags, tagOdds := tagOdds,
      eventModifiers := eventModifiers } :=
  ⟨rfl, rfl, rfl, rfl, rfl, rfl, rfl, fun _ ↦ rfl, fun _ ↦ rfl⟩

/-- A change of a stat is a change of the stats. -/
theorem eq_of_updateStat? {life next : Life R} {name : String} {f : R → R}
    (h : life.updateStat? name f = some next) :
    ∃ stats customStats, next = { life with stats := stats, customStats := customStats } := by
  rw [updateStat?] at h
  split at h
  · exact ⟨_, _, (Option.some.inj h).symm⟩
  · obtain ⟨_, -, rfl⟩ := Option.map_eq_some_iff.1 h
    exact ⟨_, _, rfl⟩

variable [Scalar R]

/-- What every change of a single stat keeps is kept by a change of several. -/
theorem changeStats?_keeps {P : Life R → Prop} {deltas : List (String × R)}
    (step : ∀ delta ∈ deltas, ∀ life next,
      life.changeStat? delta.1 delta.2 = some next → P life → P next)
    {life next : Life R} (h : life.changeStats? deltas = some next) (hlife : P life) : P next := by
  induction deltas generalizing life next with
  | nil => cases h
  | cons delta rest ih =>
    obtain ⟨stat, amount⟩ := delta
    have hrest := fun delta hdelta ↦ step delta (List.mem_cons_of_mem (stat, amount) hdelta)
    rw [changeStats?] at h
    split at h
    · next changed hchanged =>
      have hfirst : P changed := step (stat, amount) List.mem_cons_self life changed hchanged hlife
      obtain rfl := Option.some.inj h
      cases hmore : changed.changeStats? rest with
      | none => exact hfirst
      | some last => exact ih hrest hmore hfirst
    · exact ih hrest h hlife

/-- A change of several stats is a change of the stats. -/
theorem eq_of_changeStats? {life next : Life R} {deltas : List (String × R)}
    (h : life.changeStats? deltas = some next) :
    ∃ stats customStats, next = { life with stats := stats, customStats := customStats } := by
  refine changeStats?_keeps
    (P := fun l ↦ ∃ stats customStats, l = { life with stats := stats, customStats := customStats })
    ?_ h ⟨_, _, rfl⟩
  rintro delta - _ changed hchange ⟨stats, customStats, rfl⟩
  obtain ⟨stats', customStats', rfl⟩ := eq_of_updateStat? hchange
  exact ⟨stats', customStats', rfl⟩

/-- What a directive makes of a life, when it asks for a change of the life alone that can be
made. An item that is held already and an effect that is in force already count as given, and
nothing changes. -/
inductive Obeys (catalog : Catalog R) (life : Life R) : Directive R → Life R → Prop where
  | changeStat {deltas : StringMap R} {stats : Stats R} {customStats : StringMap R}
      (changed : life.changeStats? deltas.entries =
        some { life with stats := stats, customStats := customStats }) :
      Obeys catalog life (.changeStat deltas)
        { life with stats := stats, customStats := customStats }
  | setStat {stat : String} {value : R} {stats : Stats R} {customStats : StringMap R}
      (changed : life.setStat? stat value =
        some { life with stats := stats, customStats := customStats }) :
      Obeys catalog life (.setStat stat value)
        { life with stats := stats, customStats := customStats }
  | addMultiplier {stat : String} {factor : R} (found : (life.stat? stat).isSome = true)
      (writable : stat ≠ turnStat) :
      Obeys catalog life (.addMultiplier stat factor)
        { life with multipliers := life.multipliers.insert stat (life.multiplier stat * factor) }
  | keepItem {item : String} (held : life.hasItem item = true) :
      Obeys catalog life (.addItem item) life
  | addItem {item : String} (new : life.hasItem item = false) :
      Obeys catalog life (.addItem item) { life with inventory := life.inventory ++ [item] }
  | removeItem {item : String} (held : life.hasItem item = true) :
      Obeys catalog life (.removeItem item) { life with inventory := life.inventory.erase item }
  | addTag {tag : String} {replace : Bool} :
      Obeys catalog life (.addTag tag replace) (life.addTag catalog.exclusions tag replace)
  | removeTag {tag : String} (held : life.hasTag tag = true) :
      Obeys catalog life (.removeTag tag) { life with tags := life.tags.filter (· ≠ tag) }
  | keepStatus {id : String} {duration : Option Int} (held : life.hasStatus id = true) :
      Obeys catalog life (.addStatus id duration) life
  | addStatus {id : String} {duration : Option Int} (new : life.hasStatus id = false) :
      Obeys catalog life (.addStatus id duration)
        { life with statuses := life.statuses ++ [⟨id, (duration.or
          ((catalog.statusEffect? id).bind StatusEffect.duration)).getD defaultDuration⟩] }
  | removeStatus {id : String} (held : life.hasStatus id = true) :
      Obeys catalog life (.removeStatus id)
        { life with statuses := life.statuses.filter (·.id ≠ id) }
  | unlockEvent {event : String} :
      Obeys catalog life (.unlockEvent event) { life with unlocked := life.unlocked.add event }
  | resetEvent {event : String} :
      Obeys catalog life (.resetEvent event) { life with triggered := life.triggered.erase event }
  | modifyTagProbability {tag : String} {multiplier : R} :
      Obeys catalog life (.modifyTagProbability tag multiplier)
        (life.multiplyTagOdds tag multiplier)
  | modifyEventWeight {event : String} {multiplier : R} {duration : Int} :
      Obeys catalog life (.modifyEventWeight event multiplier duration)
        { life with eventModifiers := life.eventModifiers ++ [⟨event, multiplier, duration⟩] }
  | setVariable {key : String} {value : Variable R} :
      Obeys catalog life (.setVariable key value) (life.setVariable key value)
  | changeVariable {key : String} {delta : R} :
      Obeys catalog life (.changeVariable key delta)
        (life.setVariable key (.number (life.variableNumber key + delta)))

/-- **A directive that is obeyed** makes of the life what `Obeys` says. -/
theorem obeys_of_obey? {life next : Life R} {catalog : Catalog R} {directive : Directive R}
    (h : life.obey? catalog directive = some next) : Obeys catalog life directive next := by
  cases directive with
  | changeStat deltas =>
    obtain ⟨stats, customStats, rfl⟩ := eq_of_changeStats? h
    exact .changeStat h
  | setStat stat value =>
    have hset : life.setStat? stat value = some next := h
    obtain ⟨stats, customStats, rfl⟩ := eq_of_updateStat? hset
    exact .setStat hset
  | addMultiplier stat factor =>
    obtain ⟨hwritable, hnext⟩ := Option.ite_none_left_eq_some.1 h
    obtain ⟨hfound, hturn⟩ := not_or.1 hwritable
    obtain rfl := Option.some.inj hnext
    exact .addMultiplier (Option.isSome_iff_ne_none.2 (by simpa using hfound)) hturn
  | addItem item =>
    obtain rfl := Option.some.inj h
    rw [addItem]
    split
    · next held => exact .keepItem held
    · next new => exact .addItem (Bool.eq_false_iff.2 new)
  | addStatus id duration =>
    obtain rfl := Option.some.inj h
    rw [addStatus]
    split
    · next held => exact .keepStatus held
    · next new => exact .addStatus (Bool.eq_false_iff.2 new)
  | removeItem item =>
    obtain ⟨held, hnext⟩ := Option.ite_none_right_eq_some.1 h
    obtain rfl := Option.some.inj hnext
    exact .removeItem held
  | removeTag tag =>
    obtain ⟨held, hnext⟩ := Option.ite_none_right_eq_some.1 h
    obtain rfl := Option.some.inj hnext
    exact .removeTag held
  | removeStatus id =>
    obtain ⟨held, hnext⟩ := Option.ite_none_right_eq_some.1 h
    obtain rfl := Option.some.inj hnext
    exact .removeStatus held
  | addTag | unlockEvent | resetEvent | modifyTagProbability | modifyEventWeight | setVariable
  | changeVariable =>
    obtain rfl := Option.some.inj h
    constructor
  | triggerEnding | unlockAchievement | unknown => cases h

theorem kept_of_obey? {life next : Life R} {catalog : Catalog R} {directive : Directive R}
    (h : life.obey? catalog directive = some next) : Kept directive life next := by
  cases obeys_of_obey? h with
  | unlockEvent =>
    exact ⟨rfl, rfl, rfl, rfl, rfl, rfl, rfl, fun _ ↦ rfl, fun hne ↦ absurd rfl (hne _)⟩
  | resetEvent =>
    exact ⟨rfl, rfl, rfl, rfl, rfl, rfl, rfl, fun hne ↦ absurd rfl (hne _), fun _ ↦ rfl⟩
  | _ => exact .of_rest ..

/-- A directive that changes a stat says so, or sets one; the others leave the stats alone. -/
theorem stats_of_obey? {life next : Life R} {catalog : Catalog R} {directive : Directive R}
    (h : life.obey? catalog directive = some next) :
    (∃ deltas, directive = .changeStat deltas ∧ life.changeStats? deltas.entries = some next) ∨
    (∃ stat value, directive = .setStat stat value ∧ life.setStat? stat value = some next) ∨
    next.stats = life.stats ∧ next.customStats = life.customStats := by
  cases obeys_of_obey? h with
  | changeStat changed => exact .inl ⟨_, rfl, changed⟩
  | setStat changed => exact .inr (.inl ⟨_, _, rfl, changed⟩)
  | _ => exact .inr (.inr ⟨rfl, rfl⟩)

/-! ### The log is not read -/

/-- The life with a changed log. -/
def relog (f : Log → Log) (life : Life R) : Life R := { life with log := f life.log }

omit [Scalar R] in
theorem updateStat?_relog (f : Log → Log) (life : Life R) (name : String) (g : R → R) :
    (life.relog f).updateStat? name g = (life.updateStat? name g).map (relog f) := by
  rw [updateStat?, updateStat?]
  cases CoreStat.ofName? name with
  | some stat => rfl
  | none =>
    dsimp only
    rw [Option.map_map]
    rfl

theorem changeStats?_relog (f : Log → Log) (life : Life R) (deltas : List (String × R)) :
    (life.relog f).changeStats? deltas = (life.changeStats? deltas).map (relog f) := by
  induction deltas generalizing life with
  | nil => rfl
  | cons delta rest ih =>
    obtain ⟨stat, amount⟩ := delta
    have hchange : (life.relog f).changeStat? stat amount =
        (life.changeStat? stat amount).map (relog f) := updateStat?_relog f life stat _
    rw [changeStats?, changeStats?, hchange]
    cases life.changeStat? stat amount with
    | none => exact ih life
    | some changed =>
      dsimp only [Option.map_some]
      rw [ih changed]
      cases changed.changeStats? rest <;> rfl

/-- A directive asks for the same change whatever the log. -/
theorem obey?_relog (catalog : Catalog R) (f : Log → Log) (life : Life R)
    (directive : Directive R) :
    (life.relog f).obey? catalog directive = (life.obey? catalog directive).map (relog f) := by
  cases directive with
  | changeStat deltas => exact changeStats?_relog f life deltas.entries
  | setStat stat value => exact updateStat?_relog f life stat fun _ ↦ value
  | addMultiplier stat factor =>
    rw [obey?, obey?, addMultiplier?, addMultiplier?, apply_ite (Option.map (relog f))]
    rfl
  | removeItem item =>
    rw [obey?, obey?, removeItem?, removeItem?, apply_ite (Option.map (relog f))]
    rfl
  | removeTag tag =>
    rw [obey?, obey?, removeTag?, removeTag?, apply_ite (Option.map (relog f))]
    rfl
  | removeStatus id =>
    rw [obey?, obey?, removeStatus?, removeStatus?, apply_ite (Option.map (relog f))]
    rfl
  | addItem item =>
    rw [obey?, obey?, addItem, addItem, Option.map_some, apply_ite (relog f)]
    rfl
  | addStatus id duration =>
    rw [obey?, obey?, addStatus, addStatus, Option.map_some, apply_ite (relog f)]
    rfl
  | _ => rfl

/-! ### The debt rule -/

/-- The debt rule speaks when it puts debt in force or ends it, and else does nothing. -/
theorem settleDebt_speaks (life : Life R) :
    (life.hasStatus debtStatus = false ∧ life.settleDebt.1 = some .entered ∧
      life.settleDebt.2.statuses = life.statuses ++ [⟨debtStatus, debtDuration⟩]) ∨
    (life.hasStatus debtStatus = true ∧ life.settleDebt.1 = some .cleared ∧
      life.settleDebt.2.statuses = life.statuses.filter (·.id ≠ debtStatus)) ∨
    life.settleDebt.1 = none ∧ life.settleDebt.2 = life := by
  rw [settleDebt]
  dsimp only
  split
  · next hfalls => exact .inl ⟨by simpa using hfalls.2, rfl, rfl⟩
  · split
    · next hrises => exact .inr (.inl ⟨hrises.2, rfl, rfl⟩)
    · exact .inr (.inr ⟨rfl, rfl⟩)

/-- The debt rule changes nothing, or it changes what is in force and speaks. -/
theorem settleDebt_cases (life : Life R) :
    life.settleDebt.2 = life ∨ ∃ statuses line,
      life.settleDebt.2 = { life with statuses := statuses }.note .feedback none line := by
  rw [settleDebt]
  dsimp only
  split
  · exact .inr ⟨_, _, rfl⟩
  · split
    · exact .inr ⟨_, _, rfl⟩
    · exact .inl rfl

end Life

namespace Scene

variable {R A G : Type} [Scalar R] [AchievementSink A] [RandomSource G]

/-- A directive closes the run, unlocks an achievement, or changes the life alone. -/
theorem applyDirective_cases (catalog : Catalog R) (directive : Directive R)
    (scene : Scene R A G) :
    (∃ ending, directive = .triggerEnding ending ∧
      scene.applyDirective catalog directive = scene.triggerEnding catalog ending) ∨
    (∃ id, directive = .unlockAchievement id ∧
      scene.applyDirective catalog directive =
        (true, { scene with sink := AchievementSink.unlock scene.sink id })) ∨
    scene.applyDirective catalog directive = scene.accept (scene.life.obey? catalog directive) := by
  cases directive with
  | triggerEnding ending => exact .inl ⟨ending, rfl, rfl⟩
  | unlockAchievement id => exact .inr (.inl ⟨id, rfl, rfl⟩)
  | _ => exact .inr (.inr rfl)

/-- What every directive of a list keeps is kept by the list. -/
theorem applyFrom_induction {P : Scene R A G → Prop} {catalog : Catalog R}
    {outcomes : List (Directive R)}
    (step : ∀ directive ∈ outcomes, ∀ scene, P scene →
      P (scene.applyDirective catalog directive).2)
    {scene : Scene R A G} (h : P scene) (tally : Tally) :
    P (scene.applyFrom catalog outcomes tally).2 := by
  induction outcomes generalizing scene tally with
  | nil => exact h
  | cons directive rest ih =>
    refine ih (fun d hd ↦ step d (List.mem_cons_of_mem _ hd)) ?_ _
    exact step directive List.mem_cons_self scene h

theorem applyAll_induction {P : Scene R A G → Prop} {catalog : Catalog R}
    {outcomes : List (Directive R)}
    (step : ∀ directive ∈ outcomes, ∀ scene, P scene →
      P (scene.applyDirective catalog directive).2)
    {scene : Scene R A G} (h : P scene) : P (scene.applyAll catalog outcomes).2 :=
  applyFrom_induction step h .zero

/-- What every directive of a status effect keeps is kept while status effects act. -/
theorem actStatuses_induction {P : Scene R A G → Prop} {catalog : Catalog R}
    (step : ∀ id effect, catalog.statusEffect? id = some effect →
      ∀ directive ∈ effect.outcomes, ∀ scene, P scene →
        P (scene.applyDirective catalog directive).2)
    {scene : Scene R A G} (h : P scene) (active removed : List String) :
    P (scene.actStatuses catalog active removed).2.2 := by
  induction active generalizing removed scene with
  | nil => exact h
  | cons id rest ih =>
    rw [actStatuses]
    split
    · exact ih h removed
    · split
      · exact ih h removed
      · next effect heffect => exact ih (applyAll_induction (step id effect heffect) h) _

end Scene

end LifeStory
