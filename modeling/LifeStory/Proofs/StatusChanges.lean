import LifeStory.Proofs.Skipping
import LifeStory.Proofs.Turns
import Mathlib.Data.List.Nodup

/-!
# What directives do to status effects

Of all directives only two have a hand in what is in force: one puts a status effect in force unless
it is, the other ends one that is (`Directive.statusChange?`). What a list of directives does is
therefore a list of changes (`Scene.statusChanges`), and the latest change of an effect decides
whether it is in force afterwards and for how long (`Scene.turnsLeft?_applyAll`). The effects that a
list is said to have ended are those that its changes end (`Scene.removed_applyAll`).
-/

namespace LifeStory

/-! ### What is in force -/

/-- The turns that are left of the first status effect with an id. -/
def turnsLeft? (id : String) (statuses : List ActiveStatus) : Option Int :=
  (statuses.find? fun s ↦ s.id = id).map ActiveStatus.remaining

/-- No two status effects have one id. -/
abbrev Distinct (statuses : List ActiveStatus) : Prop := (statuses.map ActiveStatus.id).Nodup

section InForce

variable {id other : String} {duration left : Int} {statuses : List ActiveStatus}

theorem turnsLeft?_cons (id : String) (s : ActiveStatus) (rest : List ActiveStatus) :
    turnsLeft? id (s :: rest) = if s.id = id then some s.remaining else turnsLeft? id rest := by
  rw [turnsLeft?, List.find?_cons]
  by_cases h : s.id = id <;> simp [h, turnsLeft?]

/-- An effect has no turns left exactly if it is not in force. -/
theorem turnsLeft?_eq_none_iff : turnsLeft? id statuses = none ↔ id ∉ statuses.map (·.id) := by
  simp [turnsLeft?]

/-- Where ids are distinct, what is left of an effect is what the list says of it. -/
theorem turnsLeft?_eq_some_iff (h : Distinct statuses) :
    turnsLeft? id statuses = some left ↔ ⟨id, left⟩ ∈ statuses := by
  induction statuses with
  | nil => simp [turnsLeft?]
  | cons s rest ih =>
    obtain ⟨hnew, hrest⟩ := List.nodup_cons.1 h
    rw [turnsLeft?_cons, List.mem_cons]
    by_cases hid : s.id = id
    · subst hid
      have habsent : ⟨s.id, left⟩ ∉ rest := fun hmem ↦ hnew (List.mem_map.2 ⟨_, hmem, rfl⟩)
      rw [if_pos rfl, or_iff_left habsent, Option.some.injEq]
      exact ⟨fun hleft ↦ hleft ▸ rfl, fun hs ↦ (congrArg ActiveStatus.remaining hs).symm⟩
    · have hne : (⟨id, left⟩ : ActiveStatus) ≠ s := fun hs ↦ hid (congrArg ActiveStatus.id hs).symm
      rw [if_neg hid, ih hrest, or_iff_right hne]

/-- An effect that is put in force has its duration, and the others have what they had. -/
theorem turnsLeft?_append_new (h : turnsLeft? id statuses = none) :
    turnsLeft? other (statuses ++ [⟨id, duration⟩]) =
      if id = other then some duration else turnsLeft? other statuses := by
  induction statuses with
  | nil => exact turnsLeft?_cons other ⟨id, duration⟩ []
  | cons s rest ih =>
    rw [turnsLeft?_cons] at h
    split at h
    · cases h
    · next hne =>
      rw [List.cons_append, turnsLeft?_cons, ih h, turnsLeft?_cons]
      by_cases hother : s.id = other
      · have hid : id ≠ other := fun heq ↦ hne (hother.trans heq.symm)
        rw [if_pos hother, if_pos hother, if_neg hid]
      · rw [if_neg hother, if_neg hother]

theorem nodup_append_new {α : Type} {l : List α} {a : α} (h : l.Nodup) (hnew : a ∉ l) :
    (l ++ [a]).Nodup := by
  rw [← List.concat_eq_append]
  exact List.Nodup.concat hnew h

/-- To put in force what was not keeps the effects distinct. -/
theorem distinct_append_new (h : Distinct statuses) (hnew : id ∉ statuses.map ActiveStatus.id)
    (duration : Int) : Distinct (statuses ++ [⟨id, duration⟩]) := by
  rw [Distinct, List.map_append]
  exact nodup_append_new h hnew

/-- An effect that is ended has no turns left, and the others have what they had. -/
theorem turnsLeft?_filter_ne (id other : String) (statuses : List ActiveStatus) :
    turnsLeft? other (statuses.filter (·.id ≠ id)) =
      if id = other then none else turnsLeft? other statuses := by
  induction statuses with
  | nil => simp [turnsLeft?]
  | cons s rest ih =>
    by_cases hid : s.id = id
    · rw [List.filter_cons_of_neg (by simpa using hid), ih, turnsLeft?_cons]
      split
      · rfl
      · next hne => rw [if_neg (hid ▸ hne)]
    · rw [List.filter_cons_of_pos (by simpa using hid), turnsLeft?_cons, ih, turnsLeft?_cons]
      grind

end InForce

/-! ### Changes -/

/-- A change of what is in force. -/
inductive StatusChange where
  | begun (id : String) (duration : Int)
  | ended (id : String)
deriving DecidableEq

namespace StatusChange

/-- The status effect that a change is about. -/
def id : StatusChange → String
  | begun id _ | ended id => id

/-- The turns that are left of the effect right after the change. -/
def left? : StatusChange → Option Int
  | begun _ duration => some duration
  | ended _ => none

/-- The effect that a change ends. -/
def ended? : StatusChange → Option String
  | begun .. => none
  | ended id => some id

/-- The effects in force after a change. -/
def apply (statuses : List ActiveStatus) : StatusChange → List ActiveStatus
  | begun id duration => statuses ++ [⟨id, duration⟩]
  | ended id => statuses.filter (·.id ≠ id)

/-- The latest change of an effect. -/
def latest? (id : String) (changes : List StatusChange) : Option StatusChange :=
  (changes.filter fun c ↦ c.id = id).getLast?

theorem latest?_singleton (id : String) (c : StatusChange) :
    latest? id [c] = if c.id = id then some c else none := by
  by_cases h : c.id = id <;> simp [latest?, h]

/-- The latest change is sought in the later list first. -/
theorem latest?_append (id : String) (first second : List StatusChange) :
    latest? id (first ++ second) = (latest? id second).or (latest? id first) := by
  rw [latest?, List.filter_append, List.getLast?_append, latest?, latest?]

/-- The latest change of an effect is one of the changes, and of that effect. -/
theorem id_of_latest? {id : String} {changes : List StatusChange} {c : StatusChange}
    (h : latest? id changes = some c) : c ∈ changes ∧ c.id = id := by
  simpa using List.mem_of_getLast? h

theorem exists_latest? {id : String} {changes : List StatusChange} {c : StatusChange}
    (h : c ∈ changes) (hid : c.id = id) : ∃ last, latest? id changes = some last := by
  have hmem : c ∈ changes.filter fun c ↦ c.id = id := List.mem_filter.2 ⟨h, by simpa using hid⟩
  exact Option.isSome_iff_exists.1 (List.getLast?_isSome.2 (List.ne_nil_of_mem hmem))

/-- The ids of the effects that changes end, in order. -/
def endedIds (changes : List StatusChange) : List String := changes.filterMap ended?

/-- The effects that changes end. -/
theorem mem_endedIds {id : String} {changes : List StatusChange} :
    id ∈ endedIds changes ↔ ended id ∈ changes := by
  rw [endedIds, List.mem_filterMap]
  constructor
  · rintro ⟨c, hc, hid⟩
    cases c with
    | begun => cases hid
    | ended other => exact Option.some.inj hid ▸ hc
  · exact fun h ↦ ⟨_, h, rfl⟩

theorem endedIds_append (first second : List StatusChange) :
    endedIds (first ++ second) = endedIds first ++ endedIds second :=
  List.filterMap_append

end StatusChange

/-! ### Changes by directives -/

/-- The turns for which a directive puts a status effect in force: as many as it says, else as many
as the effect is defined with. -/
def Catalog.fullDuration {R : Type} (catalog : Catalog R) (id : String) (duration : Option Int) :
    Int :=
  (duration.or ((catalog.statusEffect? id).bind StatusEffect.duration)).getD defaultDuration

/-- What a directive changes of what is in force in a life. -/
def Directive.statusChange? {R : Type} (catalog : Catalog R) (life : Life R) :
    Directive R → Option StatusChange
  | .addStatus id duration =>
    if life.hasStatus id then none else some (.begun id (catalog.fullDuration id duration))
  | .removeStatus id => if life.hasStatus id then some (.ended id) else none
  | _ => none

/-- What directives that are applied in order change of what is in force. -/
def Scene.statusChanges {R A G : Type} [Scalar R] [AchievementSink A] [RandomSource G]
    (catalog : Catalog R) : List (Directive R) → Scene R A G → List StatusChange
  | [], _ => []
  | directive :: rest, scene =>
    (directive.statusChange? catalog scene.life).toList
      ++ statusChanges catalog rest (scene.applyDirective catalog directive).2

namespace Life

variable {R : Type} {life next : Life R} {catalog : Catalog R} {directive : Directive R}

/-- An effect is in force exactly if it has turns left, be they what they may. -/
theorem hasStatus_eq (life : Life R) (id : String) :
    life.hasStatus id = (turnsLeft? id life.statuses).isSome := by
  rw [hasStatus, turnsLeft?, Option.isSome_map, Bool.eq_iff_iff, List.find?_isSome,
    List.any_eq_true]

theorem turnsLeft?_of_not_hasStatus {id : String} (h : ¬ life.hasStatus id = true) :
    turnsLeft? id life.statuses = none := by
  rwa [hasStatus_eq, Option.not_isSome_iff_eq_none] at h

/-- A directive that begins an effect says for how long, and the effect is not in force. -/
theorem of_statusChange?_begun {id : String} {left : Int}
    (h : directive.statusChange? catalog life = some (.begun id left)) :
    turnsLeft? id life.statuses = none ∧ ∃ duration, directive = .addStatus id duration ∧
      left = catalog.fullDuration id duration := by
  cases directive with
  | addStatus other duration =>
    rw [Directive.statusChange?] at h
    split at h
    · cases h
    · next hnot =>
      cases h
      exact ⟨turnsLeft?_of_not_hasStatus hnot, duration, rfl, rfl⟩
  | removeStatus other =>
    rw [Directive.statusChange?] at h
    split at h <;> cases h
  | _ => cases h

/-- The effects in force after a change, if there is one. -/
def statusesAfter (life : Life R) (change : Option StatusChange) : List ActiveStatus :=
  change.elim life.statuses (StatusChange.apply life.statuses)

/-- A change that a directive makes puts no effect in force twice. -/
theorem distinct_statusesAfter (h : Distinct life.statuses) (catalog : Catalog R)
    (directive : Directive R) :
    Distinct (life.statusesAfter (directive.statusChange? catalog life)) := by
  cases hchange : directive.statusChange? catalog life with
  | none => exact h
  | some change =>
    cases change with
    | begun id duration =>
      have hnew := turnsLeft?_eq_none_iff.1 (of_statusChange?_begun hchange).1
      exact distinct_append_new h hnew duration
    | ended id => exact h.sublist (List.filter_sublist.map ActiveStatus.id)

variable [Scalar R]

/-- A directive that is obeyed changes what is in force as its change says, or not at all. -/
theorem statuses_of_obey? (h : life.obey? catalog directive = some next) :
    next.statuses = life.statusesAfter (directive.statusChange? catalog life) := by
  cases obeys_of_obey? h with
  | keepStatus held =>
    rw [Directive.statusChange?, if_pos held]
    rfl
  | addStatus new =>
    rw [Directive.statusChange?, if_neg (Bool.eq_false_iff.1 new)]
    rfl
  | removeStatus held =>
    rw [Directive.statusChange?, if_pos held]
    rfl
  -- No other directive has a hand in what is in force.
  | _ => rfl

/-- A directive that cannot be obeyed would change nothing that is in force. -/
theorem statusChange?_of_disobeyed (h : life.obey? catalog directive = none) :
    directive.statusChange? catalog life = none := by
  cases directive with
  | addStatus id duration => cases h
  | removeStatus id =>
    rw [obey?, removeStatus?] at h
    split at h
    · cases h
    · next hnot => rw [Directive.statusChange?, if_neg hnot]
  | _ => rfl

end Life

namespace Scene

variable {R A G : Type} [Scalar R] [AchievementSink A] [RandomSource G] {catalog : Catalog R}

/-- An ending leaves what is in force. -/
theorem statuses_triggerEnding (id : String) (scene : Scene R A G) :
    (scene.triggerEnding catalog id).2.life.statuses = scene.life.statuses := by
  rcases scene.triggerEnding_cases catalog id with hsame | ⟨-, _, _, _, htrigger⟩
  · rw [hsame]
  · rw [htrigger]
    rfl

/-- **The effects in force after a directive** are those after its change. -/
theorem statuses_applyDirective (directive : Directive R) (scene : Scene R A G) :
    (scene.applyDirective catalog directive).2.life.statuses =
      scene.life.statusesAfter (directive.statusChange? catalog scene.life) := by
  rcases scene.applyDirective_cases catalog directive with
    ⟨ending, rfl, happly⟩ | ⟨id, rfl, happly⟩ | happly
  · rw [happly]
    exact scene.statuses_triggerEnding ending
  · rw [happly]
    rfl
  · rw [happly]
    cases hobey : scene.life.obey? catalog directive with
    | none =>
      rw [Life.statusChange?_of_disobeyed hobey]
      rfl
    | some next => exact Life.statuses_of_obey? hobey

/-- A directive changes what is left of the effect that its change is about, and of no other. -/
theorem turnsLeft?_applyDirective (directive : Directive R) (scene : Scene R A G) (id : String) :
    turnsLeft? id (scene.applyDirective catalog directive).2.life.statuses =
      (StatusChange.latest? id (directive.statusChange? catalog scene.life).toList).elim
        (turnsLeft? id scene.life.statuses) StatusChange.left? := by
  rw [statuses_applyDirective]
  cases hchange : directive.statusChange? catalog scene.life with
  | none => rfl
  | some change =>
    rw [Option.toList_some, StatusChange.latest?_singleton]
    cases change with
    | begun other duration =>
      have hnew := (Life.of_statusChange?_begun hchange).1
      show turnsLeft? id (scene.life.statuses ++ [⟨other, duration⟩]) = _
      rw [turnsLeft?_append_new hnew]
      show _ = (if other = id then some (StatusChange.begun other duration) else none).elim _ _
      split <;> rfl
    | ended other =>
      show turnsLeft? id (scene.life.statuses.filter (·.id ≠ other)) = _
      rw [turnsLeft?_filter_ne]
      show _ = (if other = id then some (StatusChange.ended other) else none).elim _ _
      split <;> rfl

/-- A directive puts no effect in force twice. -/
theorem distinct_applyDirective {scene : Scene R A G} (h : Distinct scene.life.statuses)
    (directive : Directive R) :
    Distinct (scene.applyDirective catalog directive).2.life.statuses := by
  rw [statuses_applyDirective]
  exact Life.distinct_statusesAfter h catalog directive

/-- What a directive is said to have ended is what its change ends. -/
theorem removed_count (tally : Tally) (directive : Directive R) (scene : Scene R A G) :
    (tally.count directive (scene.applyDirective catalog directive).1).removed =
      tally.removed
        ++ StatusChange.endedIds (directive.statusChange? catalog scene.life).toList := by
  cases directive with
  | removeStatus id =>
    have happly : scene.applyDirective catalog (.removeStatus id) =
      scene.accept (scene.life.removeStatus? id) := rfl
    rw [happly, Life.removeStatus?, Directive.statusChange?]
    split
    · rfl
    · exact (List.append_nil _).symm
  | addStatus id duration =>
    have hbegun : StatusChange.endedIds
        ((Directive.addStatus id duration).statusChange? catalog scene.life).toList = [] := by
      rw [Directive.statusChange?]
      split <;> rfl
    rw [hbegun, Tally.count]
    exact rfl
  | _ =>
    rw [Tally.count]
    split
    · rfl
    · exact (List.append_nil _).symm

/-! ### Lists of directives -/

/-- The changes of a list are those of its first directive and those of the others after it. -/
theorem statusChanges_cons (directive : Directive R) (rest : List (Directive R))
    (scene : Scene R A G) :
    scene.statusChanges catalog (directive :: rest) =
      (directive.statusChange? catalog scene.life).toList
        ++ (scene.applyDirective catalog directive).2.statusChanges catalog rest :=
  rfl

/-- The changes of two lists are those of the first and, in the scene that it leaves, of the second.
-/
theorem statusChanges_append (first second : List (Directive R)) (scene : Scene R A G) :
    scene.statusChanges catalog (first ++ second) =
      scene.statusChanges catalog first
        ++ (scene.applyAll catalog first).2.statusChanges catalog second := by
  induction first generalizing scene with
  | nil => rfl
  | cons directive rest ih =>
    rw [List.cons_append, statusChanges_cons, ih, statusChanges_cons, applyAll_cons_snd,
      List.append_assoc]

/-- **The latest change of an effect decides** what is left of it after directives. -/
theorem turnsLeft?_applyAll (outcomes : List (Directive R)) (scene : Scene R A G) (id : String) :
    turnsLeft? id (scene.applyAll catalog outcomes).2.life.statuses =
      (StatusChange.latest? id (scene.statusChanges catalog outcomes)).elim
        (turnsLeft? id scene.life.statuses) StatusChange.left? := by
  induction outcomes generalizing scene with
  | nil => rfl
  | cons directive rest ih =>
    rw [applyAll_cons_snd, ih, turnsLeft?_applyDirective, statusChanges_cons,
      StatusChange.latest?_append]
    cases StatusChange.latest? id _ with
    | none => rfl
    | some change => rfl

/-- Effects that are distinct stay so, whatever directives are applied. -/
theorem distinct_applyAll {scene : Scene R A G} (h : Distinct scene.life.statuses)
    (outcomes : List (Directive R)) :
    Distinct (scene.applyAll catalog outcomes).2.life.statuses :=
  applyAll_induction (P := fun s ↦ Distinct s.life.statuses)
    (fun directive _ _ hs ↦ distinct_applyDirective hs directive) h

/-- **The effects that directives are said to have ended** are those that their changes end. -/
theorem removed_applyAll (outcomes : List (Directive R)) (scene : Scene R A G) :
    (scene.applyAll catalog outcomes).1.removed =
      StatusChange.endedIds (scene.statusChanges catalog outcomes) := by
  induction outcomes generalizing scene with
  | nil => rfl
  | cons directive rest ih =>
    rw [applyAll_cons, statusChanges_cons, StatusChange.endedIds_append, ← ih]
    exact congrArg (· ++ _) (removed_count .zero directive scene)

/-- What is begun is begun by a directive of the list, for the full duration that it gives. -/
theorem exists_of_begun_mem {outcomes : List (Directive R)} {scene : Scene R A G} {id : String}
    {left : Int} (h : .begun id left ∈ scene.statusChanges catalog outcomes) :
    ∃ duration, .addStatus id duration ∈ outcomes ∧ left = catalog.fullDuration id duration := by
  induction outcomes generalizing scene with
  | nil => cases h
  | cons directive rest ih =>
    rcases List.mem_append.1 h with hfirst | hrest
    · obtain ⟨-, duration, rfl, hleft⟩ := Life.of_statusChange?_begun (Option.mem_toList.1 hfirst)
      exact ⟨duration, List.mem_cons_self, hleft⟩
    · obtain ⟨duration, hmem, hleft⟩ := ih hrest
      exact ⟨duration, List.mem_cons_of_mem _ hmem, hleft⟩

/-- Nothing changes an effect that is in force, as long as nothing ends it. -/
theorem latest?_of_not_ended {outcomes : List (Directive R)} {scene : Scene R A G} {id : String}
    {left : Int} (h : turnsLeft? id scene.life.statuses = some left)
    (hkept : .ended id ∉ scene.statusChanges catalog outcomes) :
    StatusChange.latest? id (scene.statusChanges catalog outcomes) = none := by
  induction outcomes generalizing scene with
  | nil => rfl
  | cons directive rest ih =>
    rw [statusChanges_cons, List.mem_append, not_or] at hkept
    have hfirst : StatusChange.latest? id (directive.statusChange? catalog scene.life).toList =
        none := by
      cases hchange : directive.statusChange? catalog scene.life with
      | none => rfl
      | some change =>
        rw [Option.toList_some, StatusChange.latest?_singleton, if_neg]
        intro hid
        cases change with
        | begun other duration =>
          obtain rfl : other = id := hid
          rw [(Life.of_statusChange?_begun hchange).1] at h
          cases h
        | ended other =>
          obtain rfl : other = id := hid
          exact hkept.1 (Option.mem_toList.2 hchange)
    have hsame : turnsLeft? id (scene.applyDirective catalog directive).2.life.statuses =
        some left := by
      rw [turnsLeft?_applyDirective, hfirst]
      exact h
    rw [statusChanges_cons, StatusChange.latest?_append, ih hsame hkept.2, hfirst]
    rfl

end Scene

end LifeStory
