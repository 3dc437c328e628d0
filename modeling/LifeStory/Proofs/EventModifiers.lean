import LifeStory.Proofs.Durations
import LifeStory.Random.Xoshiro

/-!
# How long effects last that were authored with a duration

Modifiers of the weights of events stand in one list. Directives add to its end (`modifiersOf`), and
in a turn of time every entry loses a turn and those that have none left are dropped
(`wornModifiers`). Entries do not touch each other in this, so the list in a later turn is that of
before, worn as many times, and then what was added since (`World.modifiers_afterTurns`). As time
passes before an event is drawn, a modifier that a choice adds for some turns counts in one draw
less than that.

With the status effects this is what durations come to in whole runs (`World.durations_are_kept`).
-/

namespace LifeStory

/-! ### Modifiers that are added -/

/-- The modifier that a directive adds. -/
def Directive.modifier? {R : Type} : Directive R → Option (EventModifier R)
  | .modifyEventWeight event multiplier duration => some ⟨event, multiplier, duration⟩
  | _ => none

/-- The modifiers that directives add, in order. -/
def modifiersOf {R : Type} (outcomes : List (Directive R)) : List (EventModifier R) :=
  outcomes.filterMap Directive.modifier?

theorem modifiersOf_cons {R : Type} (directive : Directive R) (rest : List (Directive R)) :
    modifiersOf (directive :: rest) = directive.modifier?.toList ++ modifiersOf rest := by
  rw [modifiersOf, List.filterMap_cons, modifiersOf]
  cases directive.modifier? <;> rfl

/-- A directive adds its modifier, if it has one, and leaves the others. -/
theorem Life.modifiers_of_obey? {R : Type} [Scalar R] {life next : Life R} {catalog : Catalog R}
    {directive : Directive R} (h : life.obey? catalog directive = some next) :
    next.eventModifiers = life.eventModifiers ++ directive.modifier?.toList := by
  cases obeys_of_obey? h with
  | modifyEventWeight => rfl
  -- No other directive has a hand in the modifiers.
  | _ => exact (List.append_nil _).symm

/-- What cannot be obeyed would add nothing. -/
theorem Life.modifier?_of_disobeyed {R : Type} [Scalar R] {life : Life R} {catalog : Catalog R}
    {directive : Directive R} (h : life.obey? catalog directive = none) :
    directive.modifier? = none := by
  cases directive with
  | modifyEventWeight => cases h
  | _ => rfl

namespace Scene

variable {R A G : Type} [Scalar R] [AchievementSink A] [RandomSource G] {catalog : Catalog R}

/-- A directive that is skipped has no modifier to add. -/
theorem modifiers_applyDirective (directive : Directive R) (scene : Scene R A G) :
    (scene.applyDirective catalog directive).2.life.eventModifiers =
      scene.life.eventModifiers ++ directive.modifier?.toList := by
  rcases scene.applyDirective_cases catalog directive with
    ⟨ending, rfl, happly⟩ | ⟨id, rfl, happly⟩ | happly
  · rw [happly]
    refine Eq.trans ?_ (List.append_nil _).symm
    rcases scene.triggerEnding_cases catalog ending with hsame | ⟨-, _, _, _, htrigger⟩
    · rw [hsame]
    · rw [htrigger]
      rfl
  · rw [happly]
    exact (List.append_nil _).symm
  · rw [happly]
    cases hobey : scene.life.obey? catalog directive with
    | none =>
      rw [Life.modifier?_of_disobeyed hobey]
      exact (List.append_nil _).symm
    | some next => exact Life.modifiers_of_obey? hobey

/-- **Directives add their modifiers** at the end, whatever else they do. -/
theorem modifiers_applyAll (outcomes : List (Directive R)) (scene : Scene R A G) :
    (scene.applyAll catalog outcomes).2.life.eventModifiers =
      scene.life.eventModifiers ++ modifiersOf outcomes := by
  induction outcomes generalizing scene with
  | nil => exact (List.append_nil _).symm
  | cons directive rest ih =>
    rw [applyAll_cons_snd, ih, modifiers_applyDirective, modifiersOf_cons, List.append_assoc]

theorem modifiers_tickStatuses (catalog : Catalog R) (scene : Scene R A G) :
    (scene.tickStatuses catalog).2.life.eventModifiers =
      scene.life.eventModifiers ++ modifiersOf (scene.effectOutcomes catalog) := by
  have hsettled : scene.settled.life.eventModifiers = scene.life.eventModifiers := by
    show scene.life.settleDebt.2.eventModifiers = _
    rcases scene.life.settleDebt_cases with hsame | ⟨_, _, hsettle⟩
    · rw [hsame]
    · rw [hsettle]
      rfl
  rw [← hsettled, tickStatuses_eq]
  exact modifiers_applyAll _ _

end Scene

/-! ### Modifiers that wear out -/

section Worn

variable {R : Type}

/-- The modifiers after a turn of time. -/
def wornModifiers (modifiers : List (EventModifier R)) : List (EventModifier R) :=
  (modifiers.map fun m ↦ { m with remaining := turnLess m.remaining }).filter fun m ↦
    0 < m.remaining

/-- The modifiers after turns of time. -/
def wornFor : Nat → List (EventModifier R) → List (EventModifier R)
  | 0, modifiers => modifiers
  | turns + 1, modifiers => wornModifiers (wornFor turns modifiers)

/-- Modifiers wear one by one, wherever they stand in the list. -/
theorem wornModifiers_append (first second : List (EventModifier R)) :
    wornModifiers (first ++ second) = wornModifiers first ++ wornModifiers second := by
  rw [wornModifiers, List.map_append, List.filter_append]
  rfl

/-- However many turns they are worn for, modifiers do not touch each other. -/
theorem wornFor_append (turns : Nat) (first second : List (EventModifier R)) :
    wornFor turns (first ++ second) = wornFor turns first ++ wornFor turns second := by
  induction turns with
  | zero => rfl
  | succ turns ih => rw [wornFor, ih, wornModifiers_append, wornFor, wornFor]

/-- A modifier with turns left loses one, and is dropped after the last. -/
theorem wornModifiers_singleton (event : String) (multiplier : R) {left : Int} (h : 1 ≤ left) :
    wornModifiers [⟨event, multiplier, left⟩] =
      if 1 < left then [⟨event, multiplier, left - 1⟩] else [] := by
  rw [wornModifiers, List.map_singleton]
  dsimp only
  rw [turnLess_of_pos h]
  by_cases hmore : 1 < left <;> simp [hmore]

/-- A modifier is left as long as it has turns left. -/
theorem wornFor_singleton (turns : Nat) (event : String) (multiplier : R) {duration : Int}
    (h : 1 ≤ duration) :
    wornFor turns [⟨event, multiplier, duration⟩] =
      if turns < duration then [⟨event, multiplier, duration - turns⟩] else [] := by
  induction turns with
  | zero =>
    have hpositive : ((0 : Nat) : Int) < duration := by omega
    rw [wornFor, if_pos hpositive]
    simp
  | succ turns ih =>
    rw [wornFor, ih]
    by_cases hturns : turns < duration
    · have hless : duration - turns - 1 = duration - (turns + 1 : Nat) := by omega
      have hmore : 1 < duration - turns ↔ (turns + 1 : Nat) < duration := by omega
      rw [if_pos hturns, wornModifiers_singleton event multiplier (by omega), hless]
      simp only [hmore]
    · rw [if_neg hturns, if_neg (by omega)]
      rfl

end Worn

/-! ### Turns of a run -/

namespace World

variable {R A G : Type} [Scalar R] [AchievementSink A] [RandomSource G] {setting : Setting R}
  {world : World R A G}

/-- The outcomes of the choice that is made in a turn, if one is. -/
def choiceOutcomes (setting : Setting R) (world : World R A G) : List (Directive R) :=
  (world.decision? setting).elim [] fun (choice, staged) ↦ staged.outcomes choice

/-- The outcomes of the status effects that act in a turn. -/
def effectOutcomes (setting : Setting R) (world : World R A G) : List (Directive R) :=
  (world.older setting).effectOutcomes setting.catalog

theorem modifiers_advance (h : world.life.isActive = true) :
    (world.advance setting).2.life.eventModifiers =
      wornModifiers (world.life.eventModifiers ++ modifiersOf (world.effectOutcomes setting)) := by
  have haged := (sameEffects_enforceThresholds setting.catalog setting.config.thresholds
    (world.scene.aged setting)).modifiers
  have hticked := Scene.modifiers_tickStatuses setting.catalog (world.older setting)
  rw [advance_of_active h]
  refine haged.trans ?_
  show wornModifiers ((world.older setting).tickStatuses setting.catalog).2.life.eventModifiers = _
  rw [hticked]
  rfl

/-- After time has passed nothing but the outcomes of the choice adds modifiers in a turn. -/
theorem modifiers_runTurn :
    (world.runTurn setting).2.life.eventModifiers =
      (world.advance setting).2.life.eventModifiers ++
        modifiersOf (world.choiceOutcomes setting) := by
  cases hdecision : world.decision? setting with
  | none =>
    rw [(effects_of_no_decision hdecision).modifiers, choiceOutcomes, hdecision]
    exact (List.append_nil _).symm
  | some decision =>
    obtain ⟨choice, staged⟩ := decision
    obtain ⟨htold, hmade⟩ := effects_of_decision hdecision
    rw [hmade.modifiers, Scene.modifiers_applyAll, choiceOutcomes, hdecision, ← htold.modifiers]
    rfl

/-- The modifiers that are added in turns of the simulation, as far as they are left when the turns
are over. -/
def addedSince (setting : Setting R) (world : World R A G) : Nat → List (EventModifier R)
  | 0 => []
  | turns + 1 =>
    let now := world.afterTurns setting turns
    wornModifiers (addedSince setting world turns ++ modifiersOf (now.effectOutcomes setting))
      ++ modifiersOf (now.choiceOutcomes setting)

/-- The modifiers that are added in turns of the simulation and in the next one until an event is
drawn, as far as they are left for the draw. -/
def addedByDraw (setting : Setting R) (world : World R A G) (turns : Nat) :
    List (EventModifier R) :=
  wornModifiers (world.addedSince setting turns ++
    modifiersOf ((world.afterTurns setting turns).effectOutcomes setting))

/-- **The modifiers after turns** are those of before, less the turns, and then those that were
added since. -/
theorem modifiers_afterTurns (turns : Nat)
    (h : (world.afterTurns setting turns).life.isActive = true) :
    (world.afterTurns setting turns).life.eventModifiers =
      wornFor turns world.life.eventModifiers ++ world.addedSince setting turns := by
  induction turns with
  | zero => exact (List.append_nil _).symm
  | succ turns ih =>
    have hbefore := isActive_of_afterTurns h
    rw [afterTurns, modifiers_runTurn, modifiers_advance hbefore, ih hbefore, List.append_assoc,
      wornModifiers_append, List.append_assoc]
    rfl

/-- The modifiers that count in a draw. -/
theorem modifiers_draw (turns : Nat)
    (h : (world.afterTurns setting turns).life.isActive = true) :
    ((world.afterTurns setting turns).advance setting).2.life.eventModifiers =
      wornFor (turns + 1) world.life.eventModifiers ++ world.addedByDraw setting turns := by
  rw [modifiers_advance h, modifiers_afterTurns turns h, List.append_assoc, wornModifiers_append]
  rfl

end World

/-! ### Weights of events -/

namespace Event

variable {R : Type} [Scalar R]

/-- The factors of modifiers on the weight of an event. -/
def modifierFactors (event : Event R) (modifiers : List (EventModifier R)) : List (Factor R) :=
  (modifiers.filter fun m ↦ m.event = event.id).map fun m ↦ ⟨modifierLabel, m.multiplier⟩

/-- The event as a candidate of a draw, with the given factors. -/
def weighing (event : Event R) (factors : List (Factor R)) : Weighted R :=
  let base := Scalar.max event.authoredPriority minEventWeight
  ⟨event.id, base, factors, Scalar.max (factors.foldl (fun weight f ↦ weight * f.value) base) 0.0⟩

/-- An event is weighed by the odds of its tags and then by the modifiers, in order. -/
theorem weighted_eq (event : Event R) (life : Life R) :
    event.weighted life = event.weighing
      (event.tags.filterMap (tagFactor? life) ++ event.modifierFactors life.eventModifiers) :=
  rfl

omit [Scalar R] in
theorem modifierFactors_append (event : Event R) (first second : List (EventModifier R)) :
    event.modifierFactors (first ++ second) =
      event.modifierFactors first ++ event.modifierFactors second := by
  rw [modifierFactors, List.filter_append, List.map_append]
  rfl

omit [Scalar R] in
/-- What a modifier contributes after turns of time. -/
theorem modifierFactors_wornFor (event : Event R) (turns : Nat) (m : EventModifier R)
    (h : 1 ≤ m.remaining) :
    event.modifierFactors (wornFor turns [m]) =
      if event.id = m.event ∧ turns < m.remaining then [⟨modifierLabel, m.multiplier⟩] else [] := by
  obtain ⟨target, multiplier, duration⟩ := m
  rw [wornFor_singleton turns target multiplier h, modifierFactors]
  by_cases hturns : turns < duration
  · by_cases hevent : event.id = target
    · simp [hturns, hevent]
    · simp [hturns, hevent, Ne.symm hevent]
  · simp [hturns]

end Event

namespace World

variable {R A G : Type} [Scalar R] [AchievementSink A] [RandomSource G] {setting : Setting R}

/-- What a modifier that a choice has added between others counts for from then on: after so many
turns, it is a factor on the weight of its event in the draw of the next turn as long as it has
turns left then, and on no other weight. What was there before it and what has been added after it
count as they would without it. -/
def Counts (setting : Setting R) (next : World R A G) (before : List (EventModifier R))
    (m : EventModifier R) (after : List (EventModifier R)) : Prop :=
  ∀ turns : Nat, (next.afterTurns setting turns).life.isActive = true →
    let life := ((next.afterTurns setting turns).advance setting).2.life
    ∀ event : Event R, event.weighted life = event.weighing
      (event.tags.filterMap (Event.tagFactor? life)
        ++ (event.modifierFactors (wornFor (turns + 1) before)
          ++ (if event.id = m.event ∧ turns + 1 < m.remaining then [⟨modifierLabel, m.multiplier⟩]
            else [])
          ++ event.modifierFactors
            (wornFor (turns + 1) after ++ next.addedByDraw setting turns)))

/-- A modifier in force counts for so many turns, wherever it stands among the others. -/
theorem counts_of_modifiers {next : World R A G} {before after : List (EventModifier R)}
    {m : EventModifier R} (hremaining : 1 ≤ m.remaining)
    (h : next.life.eventModifiers = before ++ m :: after) : next.Counts setting before m after := by
  intro turns hactive life event
  have hmodifiers : life.eventModifiers = wornFor (turns + 1) before ++
      (wornFor (turns + 1) [m] ++
        (wornFor (turns + 1) after ++ next.addedByDraw setting turns)) := by
    have hsplit : before ++ m :: after = before ++ ([m] ++ after) := rfl
    rw [modifiers_draw turns hactive, h, hsplit, wornFor_append, wornFor_append, List.append_assoc,
      List.append_assoc]
  rw [Event.weighted_eq, hmodifiers, Event.modifierFactors_append, Event.modifierFactors_append,
    Event.modifierFactors_wornFor event (turns + 1) m hremaining, List.append_assoc]
  rfl

/-- **Effects last as long as they were authored for**, in whole runs of the simulation.

A status effect other than debt, which the catalog defines and nothing in it ends, lasts for its
full duration once a choice, an effect or a talent has begun it: it acts in so many turns of time
after the one in which it was begun, expires in the last one and is gone right after it, whatever
would begin it again meanwhile.

A modifier of weights that a choice adds counts in the draws of the turns after that turn, in one
fewer of them than its duration, and in no later one. -/
theorem durations_are_kept (setting : Setting R) :
    (∀ (id : String) (duration : Option Int) (scene : Scene R A G) (next : World R A G),
      id ≠ debtStatus → (setting.catalog.statusEffect? id).isSome = true →
      setting.catalog.NeverEnds id → CarriesOut setting (.addStatus id duration) scene next →
      scene.life.hasStatus id = false → 1 ≤ setting.catalog.fullDuration id duration →
      next.Lasts setting id (setting.catalog.fullDuration id duration)) ∧
    ∀ (world staged : World R A G) (choice : Choice R) (before after : List (Directive R))
      (event : String) (multiplier : R) (duration : Int),
      world.decision? setting = some (choice, staged) →
      staged.outcomes choice = before ++ .modifyEventWeight event multiplier duration :: after →
      1 ≤ duration →
      (world.runTurn setting).2.Counts setting
        ((staged.told choice).scene.applyAll setting.catalog before).2.life.eventModifiers
        ⟨event, multiplier, duration⟩ (modifiersOf after) := by
  constructor
  · intro id duration scene next hdebt hdefined hnever hcarried hnot hfull
    exact lasts_of_inForce hnever.only hdebt hdefined (hcarried.inForce hnever hnot hfull)
  · intro world staged choice before after event multiplier duration hdecided hsplit hduration
    refine counts_of_modifiers hduration ?_
    rw [(effects_of_decision hdecided).2.modifiers, hsplit, Scene.applyAll_append_snd,
      Scene.modifiers_applyAll, modifiersOf_cons]
    rfl

/-- A ride that brings luck for two turns, and the fair more often for three. -/
def ride : Choice Float :=
  { Choice.plain (some "ride") "Ride" with
    outcomes := [.addStatus "luck" none, .modifyEventWeight "fair" 2.0 3] }

/-- A fair, where one may ride. -/
def fair : Event Float := ⟨"fair", "Fair", "", [], [ride], [], none, false, false⟩

/-- Nothing but the fair, and luck, which does nothing. -/
def fairSetting : Setting Float :=
  ⟨{ Catalog.ofBase .empty with
      events := [fair], statusEffects := .ofList [("luck", ⟨"Luck", "", some 2, []⟩)] }, .default⟩

/-- At the fair nothing takes luck away. -/
theorem fair_never_ends_luck : fairSetting.catalog.NeverEnds "luck" where
  only.choices := by
    intro event hevent choice hchoice directive hdirective
    obtain rfl := List.mem_singleton.1 hevent
    obtain rfl := List.mem_singleton.1 hchoice
    rcases List.mem_pair.1 hdirective with rfl | rfl <;> exact nofun
  only.effects := by
    intro id effect heffect directive hdirective
    have hluck : effect = ⟨"Luck", "", some 2, []⟩ := by
      change (if "luck" = id then some _ else none) = some effect at heffect
      split at heffect
      · exact (Option.some.inj heffect).symm
      · cases heffect
    rw [hluck] at hdirective
    cases hdirective
  talents := nofun

/-- A life that begins at the fair rides, is lucky for two turns after that, and finds the fair more
often in two draws. -/
theorem ride_brings_luck :
    let world : World Float Ledger Xoshiro := ⟨Life.fresh 50, ⟨.empty, []⟩, .ofSeed 7⟩
    ∃ staged, world.decision? fairSetting = some (ride, staged) ∧
      CarriesOut fairSetting (.addStatus "luck" none) (staged.told ride).scene
        (world.runTurn fairSetting).2 ∧
      (world.runTurn fairSetting).2.Lasts fairSetting "luck" 2 ∧
      ∃ before, (world.runTurn fairSetting).2.Counts fairSetting before ⟨"fair", 2.0, 3⟩ [] := by
  intro world
  have hdecides : (world.decision? fairSetting).isSome = true := by decide +kernel
  obtain ⟨⟨choice, staged⟩, hdecided⟩ := Option.isSome_iff_exists.1 hdecides
  -- There is only one event, and only one choice of it.
  obtain ⟨event, hevent, hchoice, -⟩ := outcomes_of_decision hdecided
  obtain rfl : event = fair := List.mem_singleton.1 hevent
  obtain rfl : choice = ride := List.mem_singleton.1 hchoice
  have houtcomes : staged.outcomes ride =
      [] ++ .addStatus "luck" none :: [.modifyEventWeight "fair" 2.0 3] := rfl
  have hnot : (staged.told ride).life.hasStatus "luck" = false := by
    rw [Life.hasStatus, (effects_of_decision hdecided).1.statuses]
    decide +kernel
  obtain ⟨hlasts, hcounts⟩ := durations_are_kept (A := Ledger) (G := Xoshiro) fairSetting
  have hcarried := CarriesOut.choice hdecided houtcomes
  exact ⟨staged, hdecided, hcarried,
    hlasts "luck" none _ _ (by decide) rfl fair_never_ends_luck hcarried hnot (by decide),
    _, hcounts world staged ride [.addStatus "luck" none] [] "fair" 2.0 3 hdecided rfl (by decide)⟩

end World

end LifeStory
