import LifeStory.Proofs.StatusChanges
import LifeStory.Scalar.Float

/-!
# Status effects in a turn

In a turn every status effect is treated once. Effects act in the order in which they were in force
after the debt rule spoke; an effect that was ended before its turn came does not act
(`Scene.mem_acting_iff`). All that the effects do is what the directives of those that acted do, one
list after the other (`Scene.actStatuses_eq`), so the changes of that list say which effects were
ended and begun meanwhile. After that each effect that was in force and was not ended loses a turn,
an effect that was begun meanwhile loses none, and those that have no turn left are dropped.
-/

namespace LifeStory

/-! ### Losing turns -/

section Losing

variable {statuses : List ActiveStatus} {id : String}

/-- The effects in force when those of some ids have lost a turn. -/
def wornBy (wears : String → Bool) (statuses : List ActiveStatus) : List ActiveStatus :=
  statuses.map fun s ↦ if wears s.id then { s with remaining := turnLess s.remaining } else s

/-- What is left of an effect that loses a turn or does not. -/
def lessIf (wears : Bool) (left : Int) : Int := if wears then turnLess left else left

theorem ids_wornBy (wears : String → Bool) (statuses : List ActiveStatus) :
    (wornBy wears statuses).map ActiveStatus.id = statuses.map ActiveStatus.id := by
  rw [wornBy, List.map_map]
  refine List.map_congr_left fun s _ ↦ ?_
  show ActiveStatus.id (if _ then _ else _) = s.id
  split <;> rfl

theorem turnsLeft?_wornBy (wears : String → Bool) (statuses : List ActiveStatus) (id : String) :
    turnsLeft? id (wornBy wears statuses) = (turnsLeft? id statuses).map (lessIf (wears id)) := by
  induction statuses with
  | nil => rfl
  | cons s rest ih =>
    have hid : (if wears s.id then { s with remaining := turnLess s.remaining } else s).id = s.id :=
      by split <;> rfl
    rw [wornBy, List.map_cons, turnsLeft?_cons, hid, turnsLeft?_cons]
    by_cases heq : s.id = id
    · subst heq
      rw [if_pos rfl, if_pos rfl, Option.map_some, lessIf]
      split <;> rfl
    · rw [if_neg heq, if_neg heq]
      exact ih

/-- Dropping effects by what is left of them. -/
theorem turnsLeft?_filter (h : Distinct statuses) (kept : Int → Bool) (id : String) :
    turnsLeft? id (statuses.filter fun s ↦ kept s.remaining) =
      (turnsLeft? id statuses).filter kept := by
  have hkept : Distinct (statuses.filter fun s ↦ kept s.remaining) :=
    h.sublist (List.filter_sublist.map ActiveStatus.id)
  refine Option.ext fun left ↦ ?_
  rw [turnsLeft?_eq_some_iff hkept, List.mem_filter, Option.filter_eq_some_iff,
    turnsLeft?_eq_some_iff h]

/-- The ids of the effects that are dropped. -/
theorem mem_ids_filter_iff (h : Distinct statuses) (dropped : Int → Bool) :
    id ∈ (statuses.filter fun s ↦ dropped s.remaining).map ActiveStatus.id ↔
      ∃ left, turnsLeft? id statuses = some left ∧ dropped left = true := by
  simp only [List.mem_map, List.mem_filter, turnsLeft?_eq_some_iff h]
  constructor
  · rintro ⟨s, ⟨hs, hdropped⟩, rfl⟩
    exact ⟨s.remaining, hs, hdropped⟩
  · rintro ⟨left, hs, hdropped⟩
    exact ⟨⟨id, left⟩, ⟨hs, hdropped⟩, rfl⟩

end Losing

/-- Effects that wear lose a turn, and those that have none left are reported and dropped. -/
theorem Life.wearStatuses_eq {R : Type} (life : Life R) {wears : String → Bool}
    {active removed : List String} (h : ∀ id, wears id = true ↔ id ∈ active ∧ id ∉ removed) :
    life.wearStatuses active removed =
      (((wornBy wears life.statuses).filter fun s ↦ s.remaining ≤ 0).map ActiveStatus.id,
        { life with
          statuses := (wornBy wears life.statuses).filter fun s ↦ 0 < s.remaining }) := by
  simp only [wearStatuses, wornBy, h]

/-! ### Effects that act -/

/-- The outcomes of status effects that act one after the other. -/
def Catalog.outcomesOf {R : Type} (catalog : Catalog R) (ids : List String) : List (Directive R) :=
  ids.flatMap fun id ↦ (catalog.statusEffect? id).elim [] StatusEffect.outcomes

theorem Catalog.outcomesOf_cons {R : Type} {catalog : Catalog R} {id : String}
    {effect : StatusEffect R} (h : catalog.statusEffect? id = some effect) (rest : List String) :
    catalog.outcomesOf (id :: rest) = effect.outcomes ++ catalog.outcomesOf rest := by
  rw [outcomesOf, List.flatMap_cons, h]
  rfl

namespace Scene

variable {R A G : Type} [Scalar R] [AchievementSink A] [RandomSource G] {catalog : Catalog R}
  {id : String} {rest active removed : List String} {scene : Scene R A G}

/-- The next effect acts, or it is passed over: it was ended, or it is not defined. -/
theorem actStatuses_cases (catalog : Catalog R) (id : String) (rest removed : List String)
    (scene : Scene R A G) :
    (∃ effect, catalog.statusEffect? id = some effect ∧ id ∉ removed ∧
      let acted := scene.applyAll catalog effect.outcomes
      let later := acted.2.actStatuses catalog rest (removed ++ acted.1.removed)
      scene.actStatuses catalog (id :: rest) removed = (id :: later.1, later.2)) ∨
    (id ∈ removed ∨ scene.life.hasStatus id = false ∨ catalog.statusEffect? id = none) ∧
      scene.actStatuses catalog (id :: rest) removed = scene.actStatuses catalog rest removed := by
  rw [actStatuses]
  split
  · next hout => exact .inr ⟨by simpa [or_assoc] using Or.inl hout, rfl⟩
  · next hin =>
    rw [not_or] at hin
    split
    · next hnone => exact .inr ⟨.inr (.inr hnone), rfl⟩
    · next effect heffect => exact .inl ⟨effect, heffect, hin.1, rfl⟩

/-- The effects that act in a tick are some of those in force, in order. -/
theorem acting_sublist (active removed : List String) (scene : Scene R A G) :
    (scene.actStatuses catalog active removed).1.Sublist active := by
  induction active generalizing removed scene with
  | nil => exact .slnil
  | cons id rest ih =>
    rcases actStatuses_cases catalog id rest removed scene with ⟨effect, -, -, hact⟩ | ⟨-, hskip⟩
    · rw [hact]
      exact (ih ..).cons_cons id
    · rw [hskip]
      exact (ih ..).cons id

/-- **What the effects do** is what the outcomes of those that acted do, one list after the other,
and the effects that they ended are those that these outcomes ended. -/
theorem actStatuses_eq (catalog : Catalog R) (active removed : List String) (scene : Scene R A G) :
    let outcomes := catalog.outcomesOf (scene.actStatuses catalog active removed).1
    (scene.actStatuses catalog active removed).2.2 = (scene.applyAll catalog outcomes).2 ∧
      (scene.actStatuses catalog active removed).2.1 =
        removed ++ StatusChange.endedIds (scene.statusChanges catalog outcomes) := by
  induction active generalizing removed scene with
  | nil => exact ⟨rfl, (List.append_nil removed).symm⟩
  | cons id rest ih =>
    rcases actStatuses_cases catalog id rest removed scene with
      ⟨effect, heffect, -, hact⟩ | ⟨-, hskip⟩
    · obtain ⟨hscene, hremoved⟩ := ih
        (removed ++ (scene.applyAll catalog effect.outcomes).1.removed)
        (scene.applyAll catalog effect.outcomes).2
      intro outcomes
      simp only [outcomes, hact, Catalog.outcomesOf_cons heffect, applyAll_append_snd,
        statusChanges_append, StatusChange.endedIds_append]
      refine ⟨hscene, hremoved.trans ?_⟩
      rw [removed_applyAll, List.append_assoc]
    · rw [hskip]
      exact ih removed scene

/-- An effect that is in force and is not ended stays in force. -/
theorem hasStatus_applyAll {outcomes : List (Directive R)} (h : scene.life.hasStatus id = true)
    (hkept : .ended id ∉ scene.statusChanges catalog outcomes) :
    (scene.applyAll catalog outcomes).2.life.hasStatus id = true := by
  rw [Life.hasStatus_eq] at h ⊢
  rw [turnsLeft?_applyAll]
  cases hlatest : StatusChange.latest? id (scene.statusChanges catalog outcomes) with
  | none => exact h
  | some change =>
    obtain ⟨hmem, hid⟩ := StatusChange.id_of_latest? hlatest
    cases change with
    | begun => rfl
    | ended other =>
      obtain rfl : other = id := hid
      exact absurd hmem hkept

/-- Of ids without the first one, the same are among the first and others as among the others. -/
theorem filter_mem_cons {first : String} {ids before : List String} (h : first ∉ ids) :
    ids.filter (· ∈ first :: before) = ids.filter (· ∈ before) := by
  refine List.filter_congr fun other hother ↦ ?_
  have hne : other ≠ first := fun heq ↦ h (heq ▸ hother)
  simp [hne]

/-- **An effect acts** if it is defined and has not been ended when its turn comes: neither before
nor by those that acted before it. -/
theorem mem_acting_iff (hactive : active.Nodup)
    (hforce : ∀ id ∈ active, id ∉ removed → scene.life.hasStatus id = true)
    {before after : List String} (hsplit : active = before ++ id :: after) :
    id ∈ (scene.actStatuses catalog active removed).1 ↔
      (catalog.statusEffect? id).isSome = true ∧
        id ∉ removed ++ StatusChange.endedIds (scene.statusChanges catalog (catalog.outcomesOf
          ((scene.actStatuses catalog active removed).1.filter (· ∈ before)))) := by
  induction active generalizing removed scene before with
  | nil => simp at hsplit
  | cons first rest ih =>
    obtain ⟨hfirst, hrest⟩ := List.nodup_cons.1 hactive
    have hnotLater : ∀ (removed : List String) (scene : Scene R A G),
        first ∉ (scene.actStatuses catalog rest removed).1 := fun removed scene hmem ↦
      hfirst ((acting_sublist rest removed scene).subset hmem)
    rcases actStatuses_cases catalog first rest removed scene with
      ⟨effect, heffect, hin, hact⟩ | ⟨hout, hskip⟩
    · rw [hact]
      cases before with
      | nil =>
        -- It is this effect's turn, and it acts.
        obtain ⟨rfl, -⟩ := List.cons.inj hsplit
        have hnobody : ∀ ids : List String, ids.filter (· ∈ ([] : List String)) = [] := by simp
        rw [hnobody]
        refine iff_of_true List.mem_cons_self ⟨by rw [heffect]; rfl, ?_⟩
        exact (List.append_nil removed).symm ▸ hin
      | cons _ before =>
        obtain ⟨rfl, hsplitRest⟩ := List.cons.inj hsplit
        have hid : id ≠ first := by
          rintro rfl
          exact hfirst (hsplitRest ▸ List.mem_append_right before List.mem_cons_self)
        have hforceRest : ∀ other ∈ rest,
            other ∉ removed ++ (scene.applyAll catalog effect.outcomes).1.removed →
            (scene.applyAll catalog effect.outcomes).2.life.hasStatus other = true := by
          intro other hother hnot
          rw [List.mem_append, not_or, removed_applyAll, StatusChange.mem_endedIds] at hnot
          exact hasStatus_applyAll (hforce other (List.mem_cons_of_mem _ hother) hnot.1) hnot.2
        have hturn := ih hrest hforceRest hsplitRest
        rw [List.filter_cons_of_pos (by simp), filter_mem_cons (hnotLater _ _),
          Catalog.outcomesOf_cons heffect, statusChanges_append, StatusChange.endedIds_append,
          ← removed_applyAll, ← List.append_assoc, List.mem_cons, or_iff_right hid]
        exact hturn
    · rw [hskip]
      cases before with
      | nil =>
        obtain ⟨rfl, -⟩ := List.cons.inj hsplit
        refine iff_of_false (hnotLater removed scene) ?_
        rintro ⟨hdefined, hnot⟩
        have hin : first ∉ removed := fun hmem ↦ hnot (List.mem_append_left _ hmem)
        rcases hout with hmem | hforceless | hnone
        · exact hin hmem
        · exact ne_true_of_eq_false hforceless (hforce first List.mem_cons_self hin)
        · rw [hnone] at hdefined
          cases hdefined
      | cons _ before =>
        obtain ⟨rfl, hsplitRest⟩ := List.cons.inj hsplit
        rw [filter_mem_cons (hnotLater removed scene)]
        exact ih hrest (fun other hother ↦ hforce other (List.mem_cons_of_mem _ hother)) hsplitRest

end Scene

/-! ### The turn -/

theorem Life.distinct_settleDebt {R : Type} [Scalar R] {life : Life R}
    (h : Distinct life.statuses) : Distinct life.settleDebt.2.statuses := by
  rcases life.settleDebt_speaks with ⟨hfree, -, hsettled⟩ | ⟨-, -, hsettled⟩ | ⟨-, hsame⟩
  · have hnone := turnsLeft?_of_not_hasStatus (ne_true_of_eq_false hfree)
    rw [hsettled]
    exact distinct_append_new h (turnsLeft?_eq_none_iff.1 hnone) debtDuration
  · rw [hsettled]
    exact h.sublist (List.filter_sublist.map ActiveStatus.id)
  · rwa [hsame]

namespace StatusTick

variable {R A G : Type} [Scalar R] [AchievementSink A] [RandomSource G]

/-- What the effects that acted changed of what was in force, from the scene on in which the debt
rule had spoken. -/
def changes (tick : StatusTick) (catalog : Catalog R) (settled : Scene R A G) :
    List StatusChange :=
  settled.statusChanges catalog (catalog.outcomesOf tick.ticked)

/-- What became of the status effects in a turn, from the scene in which the debt rule has spoken to
the scene that is left. -/
structure Treats (tick : StatusTick) (catalog : Catalog R) (settled next : Scene R A G) :
    Prop where
  /-- All that was done meanwhile is what the outcomes of the effects that acted did. -/
  done : ∃ statuses, next = { (settled.applyAll catalog (catalog.outcomesOf tick.ticked)).2 with
    life := { (settled.applyAll catalog (catalog.outcomesOf tick.ticked)).2.life with
      statuses := statuses } }
  /-- Effects act in the order in which they are in force. -/
  order : tick.ticked.Sublist (settled.life.statuses.map ActiveStatus.id)
  once : tick.ticked.Nodup
  /-- An effect acts if it is defined, and those that acted before it have not ended it. -/
  acts_iff : ∀ before id after, settled.life.statuses.map ActiveStatus.id = before ++ id :: after →
    (id ∈ tick.ticked ↔ (catalog.statusEffect? id).isSome = true ∧
      .ended id ∉ settled.statusChanges catalog
        (catalog.outcomesOf (tick.ticked.filter (· ∈ before))))
  /-- An effect that was in force and was not ended loses a turn, and is kept if one is left. -/
  worn : ∀ id left, turnsLeft? id settled.life.statuses = some left →
    .ended id ∉ tick.changes catalog settled →
    ∀ kept, turnsLeft? id next.life.statuses = some kept ↔ kept = turnLess left ∧ 0 < kept
  /-- An effect that was ended, or was not in force, is in force if it was begun since, and for the
  duration that it was begun with. -/
  begun : ∀ id, .ended id ∈ tick.changes catalog settled ∨
      turnsLeft? id settled.life.statuses = none →
    ∀ kept, turnsLeft? id next.life.statuses = some kept ↔
      StatusChange.latest? id (tick.changes catalog settled) = some (.begun id kept) ∧ 0 < kept
  /-- This is the full duration that the directive gave. -/
  full : ∀ id left, .begun id left ∈ tick.changes catalog settled →
    ∃ duration, .addStatus id duration ∈ catalog.outcomesOf tick.ticked ∧
      left = catalog.fullDuration id duration
  /-- Those are said to have expired that have no turn left after all this. -/
  expired_iff : ∀ id, id ∈ tick.expired ↔
    (∃ left, turnsLeft? id settled.life.statuses = some left ∧
      .ended id ∉ tick.changes catalog settled ∧ turnLess left ≤ 0) ∨
    (.ended id ∈ tick.changes catalog settled ∨ turnsLeft? id settled.life.statuses = none) ∧
      ∃ left ≤ 0, StatusChange.latest? id (tick.changes catalog settled) = some (.begun id left)
  expired_once : tick.expired.Nodup
  distinct : Distinct next.life.statuses
  positive : ∀ s ∈ next.life.statuses, 1 ≤ s.remaining

end StatusTick

namespace Scene

variable {R A G : Type} [Scalar R] [AchievementSink A] [RandomSource G] {catalog : Catalog R}

/-- The scene after the debt rule has spoken. -/
def settled (scene : Scene R A G) : Scene R A G :=
  { scene with life := scene.life.settleDebt.2 }

/-- Whether an effect loses a turn: it was in force, and was not ended meanwhile. -/
def wears (scene : Scene R A G) (changes : List StatusChange) (id : String) : Bool :=
  id ∈ scene.life.statuses.map ActiveStatus.id ∧ id ∉ StatusChange.endedIds changes

omit [Scalar R] [AchievementSink A] [RandomSource G] in
/-- An effect wears that was in force when the tick began and has not been ended since. -/
theorem wears_iff {scene : Scene R A G} {changes : List StatusChange} {id : String} :
    scene.wears changes id = true ↔
      id ∈ scene.life.statuses.map ActiveStatus.id ∧ id ∉ StatusChange.endedIds changes :=
  decide_eq_true_iff

/-- What is left of an effect when those are dropped that have no turn left. -/
def due? (scene : Scene R A G) (changes : List StatusChange) (id : String) : Option Int :=
  ((StatusChange.latest? id changes).elim (turnsLeft? id scene.life.statuses)
    StatusChange.left?).map (lessIf (scene.wears changes id))

section Due

variable {scene : Scene R A G} {outcomes : List (Directive R)} {id : String} {left : Int}

/-- An effect that was in force and was not ended has a turn less. -/
theorem due?_of_kept (h : turnsLeft? id scene.life.statuses = some left)
    (hkept : .ended id ∉ scene.statusChanges catalog outcomes) :
    scene.due? (scene.statusChanges catalog outcomes) id = some (turnLess left) := by
  have hforce : id ∈ scene.life.statuses.map ActiveStatus.id := by
    by_contra hnot
    rw [turnsLeft?_eq_none_iff.2 hnot] at h
    cases h
  have hwears : scene.wears (scene.statusChanges catalog outcomes) id = true :=
    wears_iff.2 ⟨hforce, fun hended ↦ hkept (StatusChange.mem_endedIds.1 hended)⟩
  rw [due?, latest?_of_not_ended h hkept, Option.elim_none, h, hwears]
  rfl

omit [Scalar R] [AchievementSink A] [RandomSource G] in
/-- An effect that was ended, or was not in force, has the turns that its latest change gave it. -/
theorem due?_of_renewed {changes : List StatusChange}
    (h : .ended id ∈ changes ∨ turnsLeft? id scene.life.statuses = none) :
    scene.due? changes id = (StatusChange.latest? id changes).bind StatusChange.left? := by
  have hwears : scene.wears changes id = false := by
    refine Bool.eq_false_iff.2 fun hwears ↦ ?_
    obtain ⟨hforce, hkept⟩ := wears_iff.1 hwears
    rcases h with hended | hnone
    · exact hkept (StatusChange.mem_endedIds.2 hended)
    · exact turnsLeft?_eq_none_iff.1 hnone hforce
  have hlatest : (StatusChange.latest? id changes).elim (turnsLeft? id scene.life.statuses)
      StatusChange.left? = (StatusChange.latest? id changes).bind StatusChange.left? := by
    cases hlast : StatusChange.latest? id changes with
    | some change => rfl
    | none =>
      rcases h with hended | hnone
      · obtain ⟨last, hsome⟩ := StatusChange.exists_latest? hended rfl
        exact nomatch hsome.symm.trans hlast
      · exact hnone
  rw [due?, hlatest, hwears]
  cases (StatusChange.latest? id changes).bind StatusChange.left? <;> rfl

/-- The turns that a change gives an effect are those for which it was begun. -/
theorem bind_left?_eq_some_iff {changes : List StatusChange} :
    (StatusChange.latest? id changes).bind StatusChange.left? = some left ↔
      StatusChange.latest? id changes = some (.begun id left) := by
  cases hlast : StatusChange.latest? id changes with
  | none => simp
  | some change =>
    have hid := (StatusChange.id_of_latest? hlast).2
    cases change with
    | begun other duration =>
      obtain rfl : other = id := hid
      simp [StatusChange.left?]
    | ended other => simp [StatusChange.left?]

end Due

/-- The effects in force after outcomes, when those that lose a turn have lost it. -/
def wornAfter (scene : Scene R A G) (catalog : Catalog R) (outcomes : List (Directive R)) :
    List ActiveStatus :=
  wornBy (scene.wears (scene.statusChanges catalog outcomes))
    (scene.applyAll catalog outcomes).2.life.statuses

section Worn

variable {scene : Scene R A G} {outcomes : List (Directive R)} {id : String} {left kept : Int}

theorem turnsLeft?_wornAfter (outcomes : List (Directive R)) (scene : Scene R A G) (id : String) :
    turnsLeft? id (scene.wornAfter catalog outcomes) =
      scene.due? (scene.statusChanges catalog outcomes) id := by
  rw [wornAfter, turnsLeft?_wornBy, turnsLeft?_applyAll, due?]

/-- After a tick no effect is in force twice. -/
theorem distinct_wornAfter (h : Distinct scene.life.statuses) (outcomes : List (Directive R)) :
    Distinct (scene.wornAfter catalog outcomes) := by
  rw [wornAfter, Distinct, ids_wornBy]
  exact distinct_applyAll h outcomes

/-- An effect is kept if it has a turn left. -/
theorem kept_iff (h : Distinct scene.life.statuses) :
    turnsLeft? id ((scene.wornAfter catalog outcomes).filter fun s ↦ 0 < s.remaining) =
        some kept ↔
      scene.due? (scene.statusChanges catalog outcomes) id = some kept ∧ 0 < kept := by
  rw [turnsLeft?_filter (distinct_wornAfter h outcomes) (fun left ↦ 0 < left),
    turnsLeft?_wornAfter, Option.filter_eq_some_iff, decide_eq_true_iff]

theorem kept_iff_of_force (h : Distinct scene.life.statuses)
    (hforce : turnsLeft? id scene.life.statuses = some left)
    (hkept : .ended id ∉ scene.statusChanges catalog outcomes) :
    turnsLeft? id ((scene.wornAfter catalog outcomes).filter fun s ↦ 0 < s.remaining) =
        some kept ↔ kept = turnLess left ∧ 0 < kept := by
  rw [kept_iff h, due?_of_kept hforce hkept, Option.some.injEq, eq_comm]

theorem kept_iff_of_renewed (h : Distinct scene.life.statuses)
    (hrenewed : .ended id ∈ scene.statusChanges catalog outcomes ∨
      turnsLeft? id scene.life.statuses = none) :
    turnsLeft? id ((scene.wornAfter catalog outcomes).filter fun s ↦ 0 < s.remaining) =
        some kept ↔
      StatusChange.latest? id (scene.statusChanges catalog outcomes) = some (.begun id kept) ∧
        0 < kept := by
  rw [kept_iff h, due?_of_renewed hrenewed, bind_left?_eq_some_iff]

/-- An effect is dropped if it has no turn left: it lost the last one, or was begun with none. -/
theorem mem_dropped_iff (h : Distinct scene.life.statuses) :
    id ∈ ((scene.wornAfter catalog outcomes).filter fun s ↦ s.remaining ≤ 0).map
        ActiveStatus.id ↔
      (∃ left, turnsLeft? id scene.life.statuses = some left ∧
        .ended id ∉ scene.statusChanges catalog outcomes ∧ turnLess left ≤ 0) ∨
      (.ended id ∈ scene.statusChanges catalog outcomes ∨
          turnsLeft? id scene.life.statuses = none) ∧
        ∃ left ≤ 0, StatusChange.latest? id (scene.statusChanges catalog outcomes) =
          some (.begun id left) := by
  rw [mem_ids_filter_iff (distinct_wornAfter h outcomes) (fun left ↦ left ≤ 0),
    turnsLeft?_wornAfter]
  simp only [decide_eq_true_eq]
  by_cases hrenewed : .ended id ∈ scene.statusChanges catalog outcomes ∨
      turnsLeft? id scene.life.statuses = none
  · have hforceless : ¬ ∃ left, turnsLeft? id scene.life.statuses = some left ∧
        .ended id ∉ scene.statusChanges catalog outcomes ∧ turnLess left ≤ 0 := by
      rintro ⟨left, hforce, hkept, -⟩
      exact hrenewed.elim hkept fun hnone ↦ nomatch hforce.symm.trans hnone
    rw [or_iff_right hforceless, and_iff_right hrenewed, due?_of_renewed hrenewed]
    simp only [bind_left?_eq_some_iff, and_comm]
  · rw [or_iff_left fun hr ↦ hrenewed hr.1]
    obtain ⟨hkept, hforce⟩ := not_or.1 hrenewed
    obtain ⟨left, hleft⟩ := Option.ne_none_iff_exists'.1 hforce
    simp [due?_of_kept hleft hkept, hleft, hkept]

end Worn

theorem tickStatuses_of_act {scene acted : Scene R A G} {ticked ended : List String}
    (h : scene.settled.actStatuses catalog (scene.settled.life.statuses.map ActiveStatus.id) [] =
      (ticked, ended, acted)) :
    let wear := acted.life.wearStatuses (scene.settled.life.statuses.map ActiveStatus.id) ended
    scene.tickStatuses catalog =
      (⟨scene.life.settleDebt.1, ticked, wear.1⟩, { acted with life := wear.2 }) := by
  obtain rfl := congrArg Prod.fst h
  obtain rfl := congrArg (fun act ↦ act.2.1) h
  obtain rfl := congrArg (fun act ↦ act.2.2) h
  rfl

/-- **What a turn makes of the status effects**: what those that acted did, and then a turn less for
those that lose one. -/
theorem tickStatuses_eq (catalog : Catalog R) (scene : Scene R A G) :
    let ticked := (scene.settled.actStatuses catalog
      (scene.settled.life.statuses.map ActiveStatus.id) []).1
    let acted := (scene.settled.applyAll catalog (catalog.outcomesOf ticked)).2
    let worn := scene.settled.wornAfter catalog (catalog.outcomesOf ticked)
    scene.tickStatuses catalog =
      (⟨scene.life.settleDebt.1, ticked,
          (worn.filter fun s ↦ s.remaining ≤ 0).map ActiveStatus.id⟩,
        { acted with
          life := { acted.life with statuses := worn.filter fun s ↦ 0 < s.remaining } }) := by
  intro ticked acted worn
  obtain ⟨hacted, hended⟩ := actStatuses_eq catalog
    (scene.settled.life.statuses.map ActiveStatus.id) [] scene.settled
  rw [List.nil_append] at hended
  have hact : scene.settled.actStatuses catalog (scene.settled.life.statuses.map ActiveStatus.id) []
      = (ticked, StatusChange.endedIds
          (scene.settled.statusChanges catalog (catalog.outcomesOf ticked)), acted) :=
    Prod.ext rfl (Prod.ext hended hacted)
  rw [tickStatuses_of_act hact, acted.life.wearStatuses_eq fun id ↦ scene.settled.wears_iff]
  rfl

/-- **A turn treats every status effect exactly once.** -/
theorem tick_treats_every_status_once (catalog : Catalog R) (scene : Scene R A G)
    (h : Distinct scene.life.statuses) :
    (scene.tickStatuses catalog).1.Treats catalog scene.settled
      (scene.tickStatuses catalog).2 := by
  have hsettled : Distinct scene.settled.life.statuses := Life.distinct_settleDebt h
  rw [tickStatuses_eq]
  exact
    { done := ⟨_, rfl⟩
      order := acting_sublist ..
      once := hsettled.sublist (acting_sublist ..)
      acts_iff := by
        intro before id after hsplit
        rw [mem_acting_iff hsettled (fun id hid _ ↦ ?_) hsplit, List.nil_append,
          StatusChange.mem_endedIds]
        rw [Life.hasStatus_eq, Option.isSome_iff_ne_none]
        exact fun hnone ↦ turnsLeft?_eq_none_iff.1 hnone hid
      worn := fun id left hforce hkept kept ↦ kept_iff_of_force hsettled hforce hkept
      begun := fun id hrenewed kept ↦ kept_iff_of_renewed hsettled hrenewed
      full := fun id left hbegun ↦ exists_of_begun_mem hbegun
      expired_iff := fun id ↦ mem_dropped_iff hsettled
      expired_once := (distinct_wornAfter hsettled _).sublist (List.filter_sublist.map _)
      distinct := (distinct_wornAfter hsettled _).sublist (List.filter_sublist.map _)
      positive := fun s hs ↦ of_decide_eq_true (List.mem_filter.1 hs).2 }

/-- A catalog of a ward, where a relapse ends the flu and begins it again. -/
def wardCatalog : Catalog Float :=
  { Catalog.ofBase .empty with
    statusEffects := .ofList
      [("relapse", ⟨"Relapse", "", some 2, [.removeStatus "flu", .addStatus "flu" (some 3)]⟩),
        ("flu", ⟨"Flu", "", some 2, [.changeStat (.ofList [("health", -5.0)])]⟩)] }

/-- A patient of the ward, with a relapse, the flu and a worry that nobody has defined. -/
def wardScene : Scene Float Ledger Xoshiro :=
  ⟨{ Life.fresh 50 with statuses := [⟨"relapse", 2⟩, ⟨"flu", 2⟩, ⟨"worry", 1⟩] }, ⟨.empty, []⟩,
    .fresh (.ofSeed 7)⟩

/-- A turn on the ward treats the flu once, though the relapse ends it and begins it again. -/
theorem tick_treats_relapse_once :
    Distinct wardScene.life.statuses ∧
      (wardScene.tickStatuses wardCatalog).1.Treats wardCatalog wardScene.settled
        (wardScene.tickStatuses wardCatalog).2 ∧
      (wardScene.tickStatuses wardCatalog).1 = ⟨none, ["relapse"], ["worry"]⟩ ∧
      (wardScene.tickStatuses wardCatalog).2.life.statuses = [⟨"relapse", 1⟩, ⟨"flu", 3⟩] := by
  have hdistinct : Distinct wardScene.life.statuses := by decide
  exact ⟨hdistinct, tick_treats_every_status_once wardCatalog wardScene hdistinct,
    by decide +kernel, by decide +kernel⟩

end Scene

end LifeStory
