import LifeStory.Proofs.Course
import LifeStory.Proofs.Numbering
import LifeStory.Proofs.StatusTicks
import LifeStory.Proofs.Stories
import LifeStory.Proofs.TurnCounter

/-!
# Collections keep their shape

The lists of a life hold nothing twice, its custom stats are those of the catalog, and it has
factors only for stats that can be written (`Life.Shapely`). Lives begin so, and every change of a
life keeps it so (`Life.Change.shapely`), also a directive that is applied in another catalog than
the one that the custom stats are of.

A life also keeps the talents and the room for lines that it began with, and forgets neither events
that were unlocked nor choices that were made (`Life.Retains`).

The runs that are looked at may have lists of directives applied between their moves (`Deed`).
These leave the turn counter alone as the directives of a turn do: it counts the turns that moves
let pass.
-/

namespace LifeStory

namespace Life

variable {R : Type}

/-! ### The names of custom stats -/

/-- A change of a stat adds no custom stat and takes none away. -/
theorem contains_customStats_of_updateStat? {life next : Life R} {name : String} {f : R → R}
    (h : life.updateStat? name f = some next) (other : String) :
    next.customStats.contains other = life.customStats.contains other := by
  rw [updateStat?] at h
  split at h
  · obtain rfl := Option.some.inj h
    rfl
  · obtain ⟨value, hvalue, rfl⟩ := Option.map_eq_some_iff.1 h
    have hname : life.customStats.contains name = true := by
      rw [StringMap.contains, hvalue]
      rfl
    rw [Bool.eq_iff_iff, StringMap.contains_insert_iff]
    exact or_iff_right_of_imp fun heq ↦ heq ▸ hname

variable [Scalar R]

/-- To change stats adds no custom stat, and takes none away. -/
theorem contains_customStats_of_changeStats? {life next : Life R} {deltas : List (String × R)}
    (h : life.changeStats? deltas = some next) (other : String) :
    next.customStats.contains other = life.customStats.contains other :=
  changeStats?_keeps (P := fun l ↦ l.customStats.contains other = life.customStats.contains other)
    (fun _ _ _ _ hchange hl ↦ (contains_customStats_of_updateStat? hchange other).trans hl) h rfl

/-! ### Shape -/

/-- The lists and maps of a life are in shape, for the custom stats of a catalog. -/
structure Shapely (catalog : Catalog R) (life : Life R) : Prop where
  inventory : life.inventory.Nodup
  tags : life.tags.Nodup
  statuses : (life.statuses.map ActiveStatus.id).Nodup
  customStats : ∀ name, life.customStats.contains name = true ↔
    ∃ stat ∈ catalog.customStats, stat.id = name
  /-- Only stats that can be written have factors. -/
  multipliers : ∀ name, life.multipliers.contains name = true → name ≠ turnStat ∧
    ((∃ stat : CoreStat, stat.name = name) ∨ ∃ stat ∈ catalog.customStats, stat.id = name)

/-- What a life retains of an earlier one. -/
structure Retains (life next : Life R) : Prop where
  capacity : next.log.capacity = life.log.capacity
  talents : next.talents = life.talents
  unlocked : ∀ event, life.unlocked.contains event = true → next.unlocked.contains event = true
  chosen : ∀ choice, life.chosen.contains choice = true → next.chosen.contains choice = true

variable {catalog other : Catalog R} {life next last : Life R} {allowed : Directive R → Prop}

omit [Scalar R] in
theorem Retains.refl (life : Life R) : Retains life life :=
  ⟨rfl, rfl, fun _ h ↦ h, fun _ h ↦ h⟩

omit [Scalar R] in
theorem Retains.trans (first : Retains life next) (later : Retains next last) :
    Retains life last where
  capacity := later.capacity.trans first.capacity
  talents := later.talents.trans first.talents
  unlocked event h := later.unlocked event (first.unlocked event h)
  chosen choice h := later.chosen choice (first.chosen choice h)

theorem shapely_atBirth (catalog : Catalog R) (logCapacity : Nat) (talents : List (Talent R)) :
    Shapely catalog (atBirth catalog logCapacity talents) where
  inventory := List.nodup_nil
  tags := List.nodup_nil
  statuses := List.nodup_nil
  customStats name := by
    show catalog.initialStats.contains name = true ↔ _
    rw [Catalog.initialStats, StringMap.contains_ofList_iff, List.map_map, List.mem_map]
    rfl
  multipliers _ h := absurd h Bool.false_ne_true

omit [Scalar R] in
/-- A tag that is added is not there twice. -/
theorem nodup_tags_addTag (h : life.tags.Nodup) (exclusions : Exclusions) (tag : String)
    (replace : Bool) : (life.addTag exclusions tag replace).tags.Nodup := by
  let kept :=
    if replace then life.tags.filter fun held ↦ !exclusions.exclusive tag held else life.tags
  have hkept : kept.Nodup := by
    cases replace with
    | true => exact h.filter _
    | false => exact h
  show (if tag ∈ kept then kept else kept ++ [tag]).Nodup
  by_cases hmem : tag ∈ kept
  · rwa [if_pos hmem]
  · rw [if_neg hmem]
    exact nodup_append_new hkept hmem

/-- A stat that is found by its name, and not as the turn counter, is one that every life has or a
custom stat. -/
theorem Shapely.stat_of_found (h : Shapely catalog life) {name : String}
    (hfound : (life.stat? name).isSome = true) (hturn : name ≠ turnStat) :
    (∃ stat : CoreStat, stat.name = name) ∨ ∃ stat ∈ catalog.customStats, stat.id = name := by
  rw [stat?, if_neg hturn] at hfound
  split at hfound
  · next stat hstat => exact .inl ⟨stat, CoreStat.name_of_ofName? hstat⟩
  · exact .inr ((h.customStats name).1 hfound)

/-- **A directive leaves a life in shape**, in whatever catalog it is applied. -/
theorem Shapely.obey {directive : Directive R} (h : Shapely catalog life)
    (hobey : life.obey? other directive = some next) : Shapely catalog next := by
  have hstatuses : (next.statuses.map ActiveStatus.id).Nodup := by
    rw [statuses_of_obey? hobey]
    exact distinct_statusesAfter h.statuses other directive
  cases obeys_of_obey? hobey with
  | changeStat changed =>
    have hnames := contains_customStats_of_changeStats? changed
    exact ⟨h.inventory, h.tags, hstatuses, fun name ↦ hnames name ▸ h.customStats name,
      h.multipliers⟩
  | setStat changed =>
    have hnames := contains_customStats_of_updateStat? changed
    exact ⟨h.inventory, h.tags, hstatuses, fun name ↦ hnames name ▸ h.customStats name,
      h.multipliers⟩
  | addMultiplier found writable =>
    refine ⟨h.inventory, h.tags, hstatuses, h.customStats, fun name hname ↦ ?_⟩
    rcases StringMap.contains_insert_iff.1 hname with rfl | hbefore
    · exact ⟨writable, h.stat_of_found found writable⟩
    · exact h.multipliers name hbefore
  | @addItem item new =>
    have hitem : item ∉ life.inventory := by simpa [hasItem] using new
    exact ⟨nodup_append_new h.inventory hitem, h.tags, hstatuses, h.customStats, h.multipliers⟩
  | @removeItem item =>
    exact ⟨h.inventory.erase item, h.tags, hstatuses, h.customStats, h.multipliers⟩
  | addTag =>
    exact ⟨h.inventory, nodup_tags_addTag h.tags other.exclusions _ _, hstatuses, h.customStats,
      h.multipliers⟩
  | removeTag =>
    exact ⟨h.inventory, h.tags.filter _, hstatuses, h.customStats, h.multipliers⟩
  | _ => exact ⟨h.inventory, h.tags, hstatuses, h.customStats, h.multipliers⟩

omit [Scalar R] in
theorem shapely_wearStatuses (h : Shapely catalog life) (active removed : List String) :
    Shapely catalog (life.wearStatuses active removed).2 := by
  let worn := life.statuses.map fun s ↦
    if s.id ∈ active ∧ s.id ∉ removed then { s with remaining := turnLess s.remaining } else s
  have hids : worn.map ActiveStatus.id = life.statuses.map ActiveStatus.id := by
    rw [List.map_map]
    refine List.map_congr_left fun s _ ↦ ?_
    show ActiveStatus.id (if _ then _ else _) = s.id
    split <;> rfl
  have hkept : ((worn.filter fun s ↦ 0 < s.remaining).map ActiveStatus.id).Nodup :=
    (hids ▸ h.statuses).sublist (List.filter_sublist.map ActiveStatus.id)
  exact ⟨h.inventory, h.tags, hkept, h.customStats, h.multipliers⟩

/-- **Every change leaves a life in shape.** -/
theorem Change.shapely (hchange : Change other allowed life next) (h : Shapely catalog life) :
    Shapely catalog next := by
  cases hchange with
  | obey directive _ obeyed => exact h.obey obeyed
  | settle =>
    have hstatuses : (life.settleDebt.2.statuses.map ActiveStatus.id).Nodup :=
      distinct_settleDebt h.statuses
    rcases life.settleDebt_cases with hsettle | ⟨statuses, line, hsettle⟩
    · rwa [hsettle]
    · rw [hsettle] at hstatuses ⊢
      exact ⟨h.inventory, h.tags, hstatuses, h.customStats, h.multipliers⟩
  | wearStatuses active removed => exact shapely_wearStatuses h active removed
  | grow | wearModifiers | note | stage | choose | die | close =>
    exact ⟨h.inventory, h.tags, h.statuses, h.customStats, h.multipliers⟩

/-! ### What is retained -/

/-- Every change of a life retains what a life keeps. -/
theorem Change.retains (h : Change other allowed life next) : Retains life next := by
  cases h with
  | obey directive _ obeyed =>
    have hkept := kept_of_obey? obeyed
    refine ⟨congrArg Log.capacity hkept.log, hkept.talents, fun event hevent ↦ ?_,
      fun choice hchoice ↦ hkept.chosen ▸ hchoice⟩
    by_cases hunlock : ∃ unlocked, directive = .unlockEvent unlocked
    · obtain ⟨unlocked, rfl⟩ := hunlock
      obtain rfl := Option.some.inj obeyed
      exact StringMap.contains_insert hevent unlocked ()
    · rw [hkept.unlocked fun unlocked heq ↦ hunlock ⟨unlocked, heq⟩]
      exact hevent
  | settle =>
    rcases life.settleDebt_cases with hsettle | ⟨_, _, hsettle⟩
    · rw [hsettle]
      exact .refl life
    · rw [hsettle]
      exact ⟨rfl, rfl, fun _ h ↦ h, fun _ h ↦ h⟩
  | choose choice =>
    exact ⟨rfl, rfl, fun _ h ↦ h, fun _ h ↦ StringMap.contains_insert h choice ()⟩
  | grow | wearStatuses | wearModifiers | note | stage | die | close =>
    exact ⟨rfl, rfl, fun _ h ↦ h, fun _ h ↦ h⟩

/-! ### The turn counter -/

/-- The turn counter goes on by the turns that a story lets pass. -/
theorem Story.turn {A G : Type} [AchievementSink A] [RandomSource G] {setting : Setting R}
    {told : Happenings} {n : Nat} (h : Story A G setting allowed told life next)
    (hlife : life.turn = min n maxTurn) : next.turn = min (n + told.turns) maxTurn := by
  induction h with
  | refl => exact hlife
  | tail _ beat ih =>
    rw [Happenings.turns_append, ← Nat.add_assoc]
    have hmid := ih hlife
    cases beat with
    | act hact => exact hact.turn.trans hmid
    | pass scene => rw [scene.turn_passTurn, hmid, Log.succUpTo_min]
    | stage | choose => exact hmid

end Life

/-! ### Deeds -/

/-- What may be done with a session in a run. -/
inductive Deed (R A G : Type) where
  | move (move : Move)
  /-- Directives are applied to the life in some catalog, with some sink and streams. -/
  | outcomes (catalog : Catalog R) (directives : List (Directive R)) (sink : A)
    (streams : Streams G)

namespace Session

variable {R A G : Type} [Scalar R] [AchievementSink A] [SeededSource G]

/-- The session after a deed. -/
def perform (session : Session R A G) : Deed R A G → Session R A G
  | .move m => (session.move m).2
  | .outcomes catalog directives sink streams =>
    let world : World R A G := ⟨session.life, sink, streams⟩
    { session with world := (world.onScene (Scene.applyAll catalog directives)).2 }

/-- The session after deeds. -/
def after (session : Session R A G) (deeds : List (Deed R A G)) : Session R A G :=
  deeds.foldl perform session

/-- How many turns a deed lets pass over an active run. -/
def turnsBy (session : Session R A G) : Deed R A G → Nat
  | .move m => session.turnsOf m
  | .outcomes .. => 0

/-- How many turns deeds let pass over an active run. -/
def turnsDuring : Session R A G → List (Deed R A G) → Nat
  | _, [] => 0
  | session, deed :: rest => session.turnsBy deed + (session.perform deed).turnsDuring rest

/-- What every change of a life keeps, whatever the catalog, deeds keep. -/
theorem after_keeps {P : Life R → Prop}
    (change : ∀ catalog life next, Life.Change catalog (fun _ ↦ True) life next → P life → P next)
    {session : Session R A G} (h : P session.life) (deeds : List (Deed R A G)) :
    P (session.after deeds).life := by
  induction deeds generalizing session with
  | nil => exact h
  | cons deed rest ih =>
    have hperformed : P (session.perform deed).life := by
      cases deed with
      | move m => exact (move_course session.only_true m).keeps (change _) h
      | outcomes catalog directives sink streams =>
        exact (Scene.applyAll_course (fun _ _ ↦ trivial)
          ⟨session.life, sink, streams.text⟩).keeps (change catalog) h
    exact ih hperformed

/-- The turn counter has counted the turns of the deeds, up to its largest number. -/
theorem turn_after {session : Session R A G} {n : Nat} (h : session.life.turn = min n Life.maxTurn)
    (deeds : List (Deed R A G)) :
    (session.after deeds).life.turn = min (n + session.turnsDuring deeds) Life.maxTurn := by
  induction deeds generalizing session n with
  | nil => exact h
  | cons deed rest ih =>
    have hperformed : (session.perform deed).life.turn =
        min (n + session.turnsBy deed) Life.maxTurn := by
      cases deed with
      | move m => exact (move_story session.only_true m).turn h
      | outcomes catalog directives sink streams =>
        exact (Scene.turn_applyAll directives ⟨session.life, sink, streams.text⟩).trans h
    rw [turnsDuring, ← Nat.add_assoc]
    exact ih hperformed

/-- **Collections keep their shape.** Whatever is done with a session after a run has begun, with
lists of directives applied between the moves: the life is in shape for the catalog, it retains what
it had before, the room for lines and the talents of the beginning among it, and its turn counter
stands at the number of the turns that passed, as long as there is such a number. No directive
changes the counter, and time that passes adds one to it. -/
theorem collections_keep_their_shape (session : Session R A G) (talents : List String)
    (earlier later : List (Deed R A G)) :
    let begun := session.reset talents
    let reached := begun.after (earlier ++ later)
    reached.life.Shapely session.setting.catalog ∧
      (begun.after earlier).life.Retains reached.life ∧
      reached.life.turn = min (begun.turnsDuring (earlier ++ later)) Life.maxTurn ∧
      (∀ (catalog : Catalog R) (directive : Directive R) (scene : Scene R A G),
        (scene.applyDirective catalog directive).2.life.turn = scene.life.turn) ∧
      ∀ (setting : Setting R) (world : World R A G),
        (world.advance setting).2.life.turn = world.life.nextTurn := by
  intro begun reached
  have hbegun : begun.life.Shapely session.setting.catalog :=
    Scene.begin_induction (fun _ _ _ _ ↦ trivial) (Life.shapely_atBirth _ _)
      (fun _ _ h ↦ ⟨h.inventory, h.tags, h.statuses, h.customStats, h.multipliers⟩)
      (fun _ _ hchange ↦ hchange.shapely) talents session.world.scene
  have hretains : (begun.after earlier).life.Retains reached.life := by
    rw [show reached = (begun.after earlier).after later from List.foldl_append]
    exact after_keeps (P := (begun.after earlier).life.Retains)
      (fun _ _ _ hchange h ↦ h.trans hchange.retains) (.refl _) later
  have hzero : begun.life.turn = min 0 Life.maxTurn :=
    session.world.scene.turn_begin session.setting.config.logCapacity talents
  have hturn := turn_after hzero (earlier ++ later)
  rw [Nat.zero_add] at hturn
  exact ⟨after_keeps (fun _ _ _ hchange ↦ hchange.shapely) hbegun _, hretains, hturn,
    fun _ directive scene ↦ scene.turn_applyDirective directive, fun _ world ↦ world.turn_advance⟩

end Session

end LifeStory
