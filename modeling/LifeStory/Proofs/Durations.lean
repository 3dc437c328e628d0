import LifeStory.Proofs.Course
import LifeStory.Proofs.Decisions
import LifeStory.Proofs.StatusTicks

/-!
# How long status effects last

A status effect that no directive of the catalog ends, and that the debt rule has no hand in, lasts
as long as it was begun for. What carries this is that the list of effects holds it once, with the
turns that are left (`InForce`): directives leave that as it is, also those that would begin it
again, and a turn of time takes one of the turns. So the effect acts in every turn until it has none
left (`World.lasts_of_inForce`).

An effect may be begun by a choice, by another effect while time passes, or by a talent
(`World.CarriesOut`). In the turn in which it is begun it neither acts nor loses a turn.
-/

namespace LifeStory

/-! ### One effect among others -/

/-- An effect is in force once, with so many turns left. -/
def InForce (id : String) (left : Int) (statuses : List ActiveStatus) : Prop :=
  statuses.filter (fun s ↦ s.id = id) = [⟨id, left⟩]

section InForce

variable {id other : String} {left duration : Int} {statuses : List ActiveStatus}

theorem filter_id_eq_nil (h : id ∉ statuses.map ActiveStatus.id) :
    statuses.filter (fun s ↦ s.id = id) = [] := by
  refine List.filter_eq_nil_iff.2 fun s hs heq ↦ h ?_
  exact List.mem_map.2 ⟨s, hs, of_decide_eq_true heq⟩

/-- The effect stands in the list with the turns that are left, and in no other way. -/
theorem InForce.mem_iff (h : InForce id left statuses) {s : ActiveStatus} :
    s ∈ statuses ∧ s.id = id ↔ s = ⟨id, left⟩ := by
  have hsingle : s ∈ statuses.filter (fun s ↦ s.id = id) ↔ s = ⟨id, left⟩ := by
    rw [h]
    exact List.mem_singleton
  rwa [List.mem_filter, decide_eq_true_iff] at hsingle

theorem InForce.mem_ids (h : InForce id left statuses) : id ∈ statuses.map ActiveStatus.id :=
  List.mem_map.2 ⟨_, h.mem_iff.2 rfl⟩

/-- An effect that was not in force is in force with the turns that it is given. -/
theorem InForce.begin (h : id ∉ statuses.map ActiveStatus.id) (left : Int) :
    InForce id left (statuses ++ [⟨id, left⟩]) := by
  rw [InForce, List.filter_append, filter_id_eq_nil h]
  simp

theorem InForce.append (h : InForce id left statuses) (hne : other ≠ id) :
    InForce id left (statuses ++ [⟨other, duration⟩]) := by
  rw [InForce, List.filter_append, h]
  simp [hne]

/-- An effect stays in force when others are ended. -/
theorem InForce.filter_ne (h : InForce id left statuses) (hne : other ≠ id) :
    InForce id left (statuses.filter (·.id ≠ other)) := by
  rw [InForce, List.filter_comm, h]
  simp [hne.symm]

theorem turnLess_of_pos (h : 1 ≤ left) : turnLess left = left - 1 := by
  rw [turnLess, minDuration]
  omega

/-- What is left when effects of some ids lose a turn. -/
theorem filter_wornBy (wears : String → Bool) (id : String) (statuses : List ActiveStatus) :
    (wornBy wears statuses).filter (fun s ↦ s.id = id) =
      (statuses.filter fun s ↦ s.id = id).map fun s ↦
        { s with remaining := lessIf (wears id) s.remaining } := by
  induction statuses with
  | nil => rfl
  | cons s rest ih =>
    have hhead : (if wears s.id then { s with remaining := turnLess s.remaining } else s) =
        { s with remaining := lessIf (wears s.id) s.remaining } := by
      rw [lessIf]
      split <;> rfl
    rw [wornBy, List.map_cons, hhead]
    by_cases heq : s.id = id
    · subst heq
      rw [List.filter_cons_of_pos (by simp), List.filter_cons_of_pos (by simp), List.map_cons]
      exact congrArg _ ih
    · rw [List.filter_cons_of_neg (by simpa using heq),
        List.filter_cons_of_neg (by simpa using heq)]
      exact ih

/-- An effect that wears loses a turn, and the others keep theirs. -/
theorem InForce.wornBy (h : InForce id left statuses) (wears : String → Bool) :
    InForce id (lessIf (wears id) left) (wornBy wears statuses) := by
  rw [InForce, filter_wornBy, h]
  rfl

/-- Dropping effects by what is left of them keeps the effect, or drops it. -/
theorem InForce.mem_filter_iff (h : InForce id left statuses) (kept : Int → Bool) :
    id ∈ (statuses.filter fun s ↦ kept s.remaining).map ActiveStatus.id ↔ kept left = true := by
  simp only [List.mem_map, List.mem_filter]
  constructor
  · rintro ⟨s, ⟨hs, hkept⟩, hid⟩
    obtain rfl := h.mem_iff.1 ⟨hs, hid⟩
    exact hkept
  · intro hkept
    exact ⟨⟨id, left⟩, ⟨(h.mem_iff.2 rfl).1, hkept⟩, rfl⟩

/-- An effect stays in force if those with its turns are kept. -/
theorem InForce.filter (h : InForce id left statuses) (kept : Int → Bool)
    (hkept : kept left = true) :
    InForce id left (statuses.filter fun s ↦ kept s.remaining) := by
  rw [InForce, List.filter_comm, h]
  simp [hkept]

end InForce

theorem Life.hasStatus_iff {R : Type} {life : Life R} {id : String} :
    life.hasStatus id = true ↔ id ∈ life.statuses.map ActiveStatus.id := by
  simp [hasStatus]

/-! ### Directives -/

/-- Nothing that the catalog authors ends a status effect. -/
structure Catalog.NeverEnds {R : Type} (catalog : Catalog R) (id : String) : Prop where
  only : catalog.Only (· ≠ .removeStatus id)
  talents : ∀ talent ∈ catalog.talents, ∀ directive ∈ talent.effects, directive ≠ .removeStatus id

theorem Catalog.Only.outcomesOf {R : Type} {catalog : Catalog R} {allowed : Directive R → Prop}
    (h : catalog.Only allowed) (ids : List String) :
    ∀ directive ∈ catalog.outcomesOf ids, allowed directive := by
  intro directive hdirective
  obtain ⟨id, -, hmem⟩ := List.mem_flatMap.1 hdirective
  cases heffect : catalog.statusEffect? id with
  | none =>
    rw [heffect] at hmem
    cases hmem
  | some effect =>
    rw [heffect] at hmem
    exact h.effects id effect heffect directive hmem

theorem Life.of_statusChange?_ended {R : Type} {life : Life R} {catalog : Catalog R}
    {directive : Directive R} {id : String}
    (h : directive.statusChange? catalog life = some (.ended id)) :
    directive = .removeStatus id := by
  cases directive with
  | addStatus other duration =>
    rw [Directive.statusChange?] at h
    split at h <;> cases h
  | removeStatus other =>
    rw [Directive.statusChange?] at h
    split at h
    · cases h
      rfl
    · cases h
  | _ => cases h

namespace Scene

variable {R A G : Type} [Scalar R] [AchievementSink A] [RandomSource G] {catalog : Catalog R}
  {scene : Scene R A G} {outcomes : List (Directive R)} {id : String} {left : Int}

/-- Only a directive that ends an effect changes one that is in force. -/
theorem inForce_applyDirective {directive : Directive R} (h : InForce id left scene.life.statuses)
    (hkept : directive ≠ .removeStatus id) :
    InForce id left (scene.applyDirective catalog directive).2.life.statuses := by
  rw [statuses_applyDirective]
  cases hchange : directive.statusChange? catalog scene.life with
  | none => exact h
  | some change =>
    cases change with
    | begun other duration =>
      refine h.append fun heq ↦ ?_
      have hnot := turnsLeft?_eq_none_iff.1 (Life.of_statusChange?_begun hchange).1
      exact hnot (heq ▸ h.mem_ids)
    | ended other =>
      refine h.filter_ne fun heq ↦ hkept ?_
      rw [← heq]
      exact Life.of_statusChange?_ended hchange

/-- Directives of which none ends an effect leave it in force as it is. -/
theorem inForce_applyAll (h : InForce id left scene.life.statuses)
    (hkept : ∀ directive ∈ outcomes, directive ≠ .removeStatus id) :
    InForce id left (scene.applyAll catalog outcomes).2.life.statuses :=
  applyAll_induction (P := fun s ↦ InForce id left s.life.statuses)
    (fun directive hdirective _ hs ↦ inForce_applyDirective hs (hkept directive hdirective)) h

/-- An effect that is not in force is in force for its full duration once it is begun. -/
theorem inForce_of_begun {duration : Option Int} (h : scene.life.hasStatus id = false) :
    InForce id (catalog.fullDuration id duration)
      (scene.applyDirective catalog (.addStatus id duration)).2.life.statuses := by
  have hnot : id ∉ scene.life.statuses.map ActiveStatus.id := fun hmem ↦
    ne_true_of_eq_false h (Life.hasStatus_iff.2 hmem)
  rw [statuses_applyDirective, Directive.statusChange?, if_neg (ne_true_of_eq_false h)]
  exact .begin hnot _

/-- An effect that a list of directives begins is in force after the list, for its full duration. -/
theorem inForce_of_split {before after : List (Directive R)} {duration : Option Int}
    (hkept : ∀ directive ∈ before ++ .addStatus id duration :: after, directive ≠ .removeStatus id)
    (hnot : (scene.applyAll catalog before).2.life.hasStatus id = false) :
    InForce id (catalog.fullDuration id duration)
      (scene.applyAll catalog (before ++ .addStatus id duration :: after)).2.life.statuses := by
  rw [applyAll_append_snd, applyAll_cons_snd]
  exact inForce_applyAll (inForce_of_begun hnot) fun directive hdirective ↦
    hkept directive (List.mem_append_right _ (List.mem_cons_of_mem _ hdirective))

theorem not_ended_mem (hkept : ∀ directive ∈ outcomes, directive ≠ .removeStatus id) :
    .ended id ∉ scene.statusChanges catalog outcomes := by
  induction outcomes generalizing scene with
  | nil => exact List.not_mem_nil
  | cons directive rest ih =>
    rw [statusChanges_cons, List.mem_append, not_or]
    refine ⟨fun hended ↦ ?_, ih fun d hd ↦ hkept d (List.mem_cons_of_mem _ hd)⟩
    exact hkept directive List.mem_cons_self
      (Life.of_statusChange?_ended (Option.mem_toList.1 hended))

/-! ### A turn of the status effects -/

/-- An effect that nothing ends acts when its turn comes. -/
theorem mem_acting (hnever : catalog.Only (· ≠ .removeStatus id))
    (hdefined : (catalog.statusEffect? id).isSome = true) {active removed : List String}
    (hactive : id ∈ active) (hremoved : id ∉ removed) (hforce : scene.life.hasStatus id = true) :
    id ∈ (scene.actStatuses catalog active removed).1 := by
  induction active generalizing removed scene with
  | nil => cases hactive
  | cons first rest ih =>
    rcases actStatuses_cases catalog first rest removed scene with
      ⟨effect, heffect, -, hact⟩ | ⟨hout, hskip⟩
    · rw [hact]
      rcases List.mem_cons.1 hactive with rfl | hlater
      · exact List.mem_cons_self
      have hkept : .ended id ∉ scene.statusChanges catalog effect.outcomes :=
        not_ended_mem (hnever.effects first effect heffect)
      refine List.mem_cons_of_mem _ (ih hlater ?_ (hasStatus_applyAll hforce hkept))
      rw [List.mem_append, not_or, removed_applyAll]
      exact ⟨hremoved, fun hended ↦ hkept (StatusChange.mem_endedIds.1 hended)⟩
    · rw [hskip]
      rcases List.mem_cons.1 hactive with rfl | hlater
      · rcases hout with hgone | hforceless | hnone
        · exact absurd hgone hremoved
        · exact absurd hforce (ne_true_of_eq_false hforceless)
        · rw [hnone] at hdefined
          cases hdefined
      · exact ih hlater hremoved hforce

theorem inForce_wornAfter (h : InForce id left (scene.applyAll catalog outcomes).2.life.statuses) :
    InForce id (lessIf (scene.wears (scene.statusChanges catalog outcomes) id) left)
      (scene.wornAfter catalog outcomes) :=
  h.wornBy _

omit [AchievementSink A] [RandomSource G] in
/-- The debt rule leaves every other effect as it is. -/
theorem inForce_settled (h : InForce id left scene.life.statuses) (hdebt : id ≠ debtStatus) :
    InForce id left scene.settled.life.statuses := by
  show InForce id left scene.life.settleDebt.2.statuses
  rcases scene.life.settleDebt_speaks with ⟨-, -, hsettled⟩ | ⟨-, -, hsettled⟩ | ⟨-, hsame⟩
  · rw [hsettled]
    exact h.append hdebt.symm
  · rw [hsettled]
    exact h.filter_ne hdebt.symm
  · rwa [hsame]

/-- The outcomes of the effects that act in a turn. -/
def effectOutcomes (catalog : Catalog R) (scene : Scene R A G) : List (Directive R) :=
  catalog.outcomesOf (scene.tickStatuses catalog).1.ticked

/-- What is in force after a turn: what the outcomes of the effects left, less the turn, as far as
there are turns left. -/
theorem statuses_tickStatuses (catalog : Catalog R) (scene : Scene R A G) :
    (scene.tickStatuses catalog).2.life.statuses =
      (scene.settled.wornAfter catalog (scene.effectOutcomes catalog)).filter
        fun s ↦ 0 < s.remaining := by
  rw [effectOutcomes, tickStatuses_eq]

/-- The effects that expire in a tick are those that have no turns left. -/
theorem expired_tickStatuses (catalog : Catalog R) (scene : Scene R A G) :
    (scene.tickStatuses catalog).1.expired =
      ((scene.settled.wornAfter catalog (scene.effectOutcomes catalog)).filter
        fun s ↦ s.remaining ≤ 0).map ActiveStatus.id := by
  rw [effectOutcomes, tickStatuses_eq]

/-- An effect that nothing ends, and that is in force once the debt rule has spoken, loses the
turn. -/
theorem inForce_worn (hnever : catalog.Only (· ≠ .removeStatus id))
    (h : InForce id left scene.settled.life.statuses) (hleft : 1 ≤ left) :
    InForce id (left - 1)
      (scene.settled.wornAfter catalog (scene.effectOutcomes catalog)) := by
  have hkept := hnever.outcomesOf (scene.tickStatuses catalog).1.ticked
  have hwears : scene.settled.wears
      (scene.settled.statusChanges catalog (scene.effectOutcomes catalog)) id = true :=
    wears_iff.2 ⟨h.mem_ids, fun hended ↦ not_ended_mem hkept (StatusChange.mem_endedIds.1 hended)⟩
  have hless : InForce id (lessIf (scene.settled.wears
      (scene.settled.statusChanges catalog (scene.effectOutcomes catalog)) id) left)
      (scene.settled.wornAfter catalog (scene.effectOutcomes catalog)) :=
    inForce_wornAfter (inForce_applyAll h hkept)
  rwa [hwears, lessIf, if_pos rfl, turnLess_of_pos hleft] at hless

/-- It stays in force if a turn is left. -/
theorem inForce_tickStatuses (hnever : catalog.Only (· ≠ .removeStatus id))
    (h : InForce id left scene.settled.life.statuses) (hmore : 1 < left) :
    InForce id (left - 1) (scene.tickStatuses catalog).2.life.statuses := by
  rw [statuses_tickStatuses]
  exact (inForce_worn hnever h (by omega)).filter (fun left ↦ 0 < left)
    (decide_eq_true (by omega))

/-- **A turn of an effect that nothing ends**: it acts, it loses the turn, and it expires and is
gone when this was the last one. -/
theorem tick_of_inForce (hnever : catalog.Only (· ≠ .removeStatus id)) (hdebt : id ≠ debtStatus)
    (hdefined : (catalog.statusEffect? id).isSome = true) (h : InForce id left scene.life.statuses)
    (hleft : 1 ≤ left) :
    id ∈ (scene.tickStatuses catalog).1.ticked ∧
      (id ∈ (scene.tickStatuses catalog).1.expired ↔ left = 1) ∧
      ((scene.tickStatuses catalog).2.life.hasStatus id = true ↔ 1 < left) ∧
      (1 < left → InForce id (left - 1) (scene.tickStatuses catalog).2.life.statuses) := by
  have hsettled := inForce_settled h hdebt
  have hworn := inForce_worn hnever hsettled hleft
  refine ⟨?_, ?_, ?_, inForce_tickStatuses hnever hsettled⟩
  · rw [tickStatuses_eq]
    exact mem_acting hnever hdefined hsettled.mem_ids List.not_mem_nil
      (Life.hasStatus_iff.2 hsettled.mem_ids)
  · rw [expired_tickStatuses, hworn.mem_filter_iff fun left ↦ left ≤ 0, decide_eq_true_iff]
    omega
  · rw [Life.hasStatus_iff, statuses_tickStatuses, hworn.mem_filter_iff fun left ↦ 0 < left,
      decide_eq_true_iff]
    omega

/-- An effect that is begun while other effects act is in force after the turn for as long as it was
begun for. -/
theorem tick_of_begun {before after : List (Directive R)} {duration : Option Int}
    (hnever : catalog.Only (· ≠ .removeStatus id))
    (houtcomes : scene.effectOutcomes catalog = before ++ .addStatus id duration :: after)
    (hnot : (scene.settled.applyAll catalog before).2.life.hasStatus id = false)
    (hfull : 1 ≤ catalog.fullDuration id duration) :
    InForce id (catalog.fullDuration id duration)
      (scene.tickStatuses catalog).2.life.statuses := by
  have hkept := hnever.outcomesOf (scene.tickStatuses catalog).1.ticked
  change ∀ directive ∈ scene.effectOutcomes catalog, directive ≠ .removeStatus id at hkept
  rw [houtcomes] at hkept
  -- It was not in force when the turn began, for what nothing ends would be so still.
  have hwears : ∀ changes, scene.settled.wears changes id = false := by
    intro changes
    refine Bool.eq_false_iff.2 fun hwears ↦ ne_true_of_eq_false hnot ?_
    exact hasStatus_applyAll (Life.hasStatus_iff.2 (wears_iff.1 hwears).1)
      (not_ended_mem fun directive hdirective ↦ hkept directive (List.mem_append_left _ hdirective))
  have hbegun : InForce id (catalog.fullDuration id duration)
      (scene.settled.applyAll catalog (scene.effectOutcomes catalog)).2.life.statuses := by
    rw [houtcomes]
    exact inForce_of_split hkept hnot
  rw [statuses_tickStatuses]
  have hworn := inForce_wornAfter hbegun
  rw [hwears, lessIf, if_neg Bool.false_ne_true] at hworn
  exact hworn.filter (fun left ↦ 0 < left) (decide_eq_true (by omega))

/-- An effect that is not in force does not act. -/
theorem hasStatus_of_acting (hdebt : id ≠ debtStatus)
    (h : id ∈ (scene.tickStatuses catalog).1.ticked) : scene.life.hasStatus id = true := by
  rw [tickStatuses_eq] at h
  have hsettled : id ∈ scene.life.settleDebt.2.statuses.map ActiveStatus.id :=
    (acting_sublist _ _ _).subset h
  rw [Life.hasStatus_iff]
  rcases scene.life.settleDebt_speaks with ⟨-, -, hspoke⟩ | ⟨-, -, hspoke⟩ | ⟨-, hsame⟩
  · rw [hspoke] at hsettled
    obtain ⟨s, hs, hid⟩ := List.mem_map.1 hsettled
    rcases List.mem_append.1 hs with hold | hnew
    · exact List.mem_map.2 ⟨s, hold, hid⟩
    · rw [List.mem_singleton.1 hnew] at hid
      exact absurd hid.symm hdebt
  · rw [hspoke] at hsettled
    exact (List.filter_sublist.map ActiveStatus.id).subset hsettled
  · rwa [hsame] at hsettled

/-! ### Talents -/

/-- The scene of a life at birth. -/
def born (setting : Setting R) (talents : List (Talent R)) (scene : Scene R A G) : Scene R A G :=
  { scene with life := .atBirth setting.catalog setting.config.logCapacity talents }

/-- The scene of a life that holds one more talent, before the talent has any effect. -/
def holding (talent : Talent R) (scene : Scene R A G) : Scene R A G :=
  scene.mapLife fun life ↦ { life with talents := life.talents ++ [⟨talent.id, talent.name⟩] }

/-- Talents that are received leave an effect in force that nothing ends. -/
theorem inForce_foldl_receiveTalent (hnever : catalog.NeverEnds id) {talents : List (Talent R)}
    (hknown : talents ⊆ catalog.talents) (h : InForce id left scene.life.statuses) :
    InForce id left (talents.foldl (receiveTalent catalog) scene).life.statuses := by
  induction talents generalizing scene with
  | nil => exact h
  | cons talent rest ih =>
    obtain ⟨htalent, hrest⟩ := List.cons_subset.1 hknown
    exact ih hrest (inForce_applyAll h (hnever.talents talent htalent))

end Scene

/-! ### Turns of a run -/

namespace World

variable {R A G : Type} [Scalar R] [AchievementSink A] [RandomSource G] {setting : Setting R}
  {world next : World R A G} {scene : Scene R A G} {id : String} {left : Int}

/-- The scene of a world that is a turn older. -/
def older (setting : Setting R) (world : World R A G) : Scene R A G :=
  world.scene.mapLife (·.grownOlder setting.config.aging)

/-- What becomes of the status effects when time passes, and the scene right after that. -/
def tick (setting : Setting R) (world : World R A G) : StatusTick × Scene R A G :=
  (world.older setting).tickStatuses setting.catalog

/-- It is what the passing of time reports. -/
theorem status_advance (h : world.life.isActive = true) :
    (world.advance setting).1.status = (world.tick setting).1 := by
  rw [advance_of_active h]
  rfl

theorem statuses_advance (h : world.life.isActive = true) :
    (world.advance setting).2.life.statuses = (world.tick setting).2.life.statuses := by
  rw [advance_of_active h]
  exact (sameEffects_enforceThresholds setting.catalog setting.config.thresholds
    (world.scene.aged setting)).statuses

/-- Choices leave an effect in force that nothing ends. -/
theorem inForce_runTurn (hnever : setting.catalog.Only (· ≠ .removeStatus id))
    (hactive : world.life.isActive = true)
    (h : InForce id left (world.tick setting).2.life.statuses) :
    InForce id left (world.runTurn setting).2.life.statuses := by
  rw [← statuses_advance hactive] at h
  cases hdecision : world.decision? setting with
  | none =>
    rw [(effects_of_no_decision hdecision).statuses]
    exact h
  | some decision =>
    obtain ⟨choice, staged⟩ := decision
    obtain ⟨htold, hmade⟩ := effects_of_decision hdecision
    obtain ⟨event, hevent, hchoice, houtcomes⟩ := outcomes_of_decision hdecision
    rw [hmade.statuses]
    refine Scene.inForce_applyAll ?_ fun directive hdirective ↦
      hnever.choices event hevent choice hchoice directive (houtcomes hdirective)
    rw [← htold.statuses] at h
    exact h

/-- Where a directive is carried out in a run: the scene in which it is, and the world that is left
at the end of the turn, or when the run begins. -/
inductive CarriesOut (setting : Setting R) (directive : Directive R) :
    Scene R A G → World R A G → Prop where
  /-- A choice comes to it. -/
  | choice {world staged : World R A G} {choice : Choice R} {before after : List (Directive R)}
      (decided : world.decision? setting = some (choice, staged))
      (split : staged.outcomes choice = before ++ directive :: after) :
      CarriesOut setting directive ((staged.told choice).scene.applyAll setting.catalog before).2
        (world.runTurn setting).2
  /-- A status effect does it while time passes. -/
  | effect {world : World R A G} {before after : List (Directive R)}
      (active : world.life.isActive = true)
      (split : (world.older setting).effectOutcomes setting.catalog =
        before ++ directive :: after) :
      CarriesOut setting directive
        ((world.older setting).settled.applyAll setting.catalog before).2
        (world.runTurn setting).2
  /-- A talent of a run that begins does it. -/
  | talent {world : World R A G} {ids : List String} {first later : List (Talent R)}
      {talent : Talent R} {before after : List (Directive R)}
      (chosen : ids.filterMap setting.catalog.talent? = first ++ talent :: later)
      (split : talent.effects = before ++ directive :: after) :
      CarriesOut setting directive
        (((first.foldl (Scene.receiveTalent setting.catalog)
          (world.scene.born setting (first ++ talent :: later))).holding talent).applyAll
            setting.catalog before).2
        (world.setScene (world.scene.begin setting.catalog setting.config.logCapacity ids))

/-- A status effect lasts for some turns of the simulation, from a world on. -/
structure Lasts (setting : Setting R) (world : World R A G) (id : String) (duration : Int) :
    Prop where
  /-- It acts in every one of them. -/
  acts : ∀ turns : Nat, turns < duration → (world.afterTurns setting turns).life.isActive = true →
    id ∈ ((world.afterTurns setting turns).advance setting).1.status.ticked
  /-- It expires in the last one. -/
  expires_iff : ∀ turns : Nat, turns < duration →
    (world.afterTurns setting turns).life.isActive = true →
    (id ∈ ((world.afterTurns setting turns).advance setting).1.status.expired ↔
      turns + 1 = duration)
  /-- It is gone right after the status effects of the last one, and not before. -/
  stays_iff : ∀ turns : Nat, turns < duration →
    (world.afterTurns setting turns).life.isActive = true →
    (((world.afterTurns setting turns).tick setting).2.life.hasStatus id = true ↔
      turns + 1 < duration)
  /-- When it is not in force it does not act. -/
  rests : ∀ turns : Nat, (world.afterTurns setting turns).life.hasStatus id = false →
    id ∉ ((world.afterTurns setting turns).advance setting).1.status.ticked

/-- **An effect that nothing ends lasts** for the turns that it has left. -/
theorem lasts_of_inForce (hnever : setting.catalog.Only (· ≠ .removeStatus id))
    (hdebt : id ≠ debtStatus) (hdefined : (setting.catalog.statusEffect? id).isSome = true)
    (h : InForce id left world.life.statuses) : world.Lasts setting id left := by
  have hforce : ∀ turns : Nat, turns < left →
      (world.afterTurns setting turns).life.isActive = true →
      InForce id (left - turns) (world.afterTurns setting turns).life.statuses := by
    intro turns hturns hactive
    induction turns with
    | zero => simpa [afterTurns] using h
    | succ turns ih =>
      have hbefore := isActive_of_afterTurns hactive
      have hkept : InForce id (left - turns - 1)
          ((world.afterTurns setting turns).tick setting).2.life.statuses :=
        (Scene.tick_of_inForce hnever hdebt hdefined (ih (by omega) hbefore) (by omega)).2.2.2
          (by omega)
      have hless : left - (turns + 1 : Nat) = left - turns - 1 := by omega
      rw [hless]
      exact inForce_runTurn hnever hbefore hkept
  have htick : ∀ turns : Nat, turns < left →
      (world.afterTurns setting turns).life.isActive = true →
      id ∈ ((world.afterTurns setting turns).tick setting).1.ticked ∧
        (id ∈ ((world.afterTurns setting turns).tick setting).1.expired ↔ left - turns = 1) ∧
        (((world.afterTurns setting turns).tick setting).2.life.hasStatus id = true ↔
          1 < left - turns) := by
    intro turns hturns hactive
    have hleft : 1 ≤ left - turns := by omega
    have hbegins : InForce id (left - turns)
        ((world.afterTurns setting turns).older setting).life.statuses :=
      hforce turns hturns hactive
    obtain ⟨hacts, hexpires, hstays, -⟩ :=
      Scene.tick_of_inForce hnever hdebt hdefined hbegins hleft
    exact ⟨hacts, hexpires, hstays⟩
  refine ⟨fun turns hturns hactive ↦ ?_, fun turns hturns hactive ↦ ?_,
    fun turns hturns hactive ↦ ?_, fun turns hnot hacts ↦ ?_⟩
  · rw [status_advance hactive]
    exact (htick turns hturns hactive).1
  · rw [status_advance hactive, (htick turns hturns hactive).2.1]
    omega
  · rw [(htick turns hturns hactive).2.2]
    omega
  · cases hactive : (world.afterTurns setting turns).life.isActive with
    | false =>
      rw [advance_of_over hactive] at hacts
      cases hacts
    | true =>
      rw [status_advance hactive, tick] at hacts
      exact ne_true_of_eq_false hnot (Scene.hasStatus_of_acting hdebt hacts)

/-- What is begun in a run is in force from the end of the turn on, or from the beginning of the
run. -/
theorem CarriesOut.inForce {duration : Option Int}
    (h : CarriesOut setting (.addStatus id duration) scene next)
    (hnever : setting.catalog.NeverEnds id) (hnot : scene.life.hasStatus id = false)
    (hfull : 1 ≤ setting.catalog.fullDuration id duration) :
    InForce id (setting.catalog.fullDuration id duration) next.life.statuses := by
  cases h with
  | @choice world staged choice before after decided split =>
    obtain ⟨event, hevent, hchoice, houtcomes⟩ := outcomes_of_decision decided
    have hkept : ∀ directive ∈ staged.outcomes choice, directive ≠ .removeStatus id :=
      fun directive hdirective ↦
        hnever.only.choices event hevent choice hchoice directive (houtcomes hdirective)
    rw [split] at hkept
    rw [(effects_of_decision decided).2.statuses, split]
    exact Scene.inForce_of_split hkept hnot
  | effect active split =>
    exact inForce_runTurn hnever.only active (Scene.tick_of_begun hnever.only split hnot hfull)
  | @talent world ids first later talent before after chosen split =>
    have hknown : first ++ talent :: later ⊆ setting.catalog.talents := by
      rw [← chosen]
      intro talent htalent
      obtain ⟨id, -, hfind⟩ := List.mem_filterMap.1 htalent
      exact List.mem_of_find?_eq_some hfind
    have hkept := hnever.talents talent (hknown (List.mem_append_right _ List.mem_cons_self))
    rw [split] at hkept
    have hbegin : world.scene.begin setting.catalog setting.config.logCapacity ids =
        (first ++ talent :: later).foldl (Scene.receiveTalent setting.catalog)
          (world.scene.born setting (first ++ talent :: later)) := by
      rw [Scene.begin, chosen]
      rfl
    show InForce id _ (world.scene.begin _ _ ids).life.statuses
    rw [hbegin, List.foldl_append, List.foldl_cons]
    refine Scene.inForce_foldl_receiveTalent hnever
      (fun t ht ↦ hknown (List.mem_append_right _ (List.mem_cons_of_mem _ ht))) ?_
    show InForce id _ (Scene.applyAll setting.catalog talent.effects
      (Scene.holding talent _)).2.life.statuses
    rw [split]
    exact Scene.inForce_of_split hkept hnot

end World

end LifeStory
