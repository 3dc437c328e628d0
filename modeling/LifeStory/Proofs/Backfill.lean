import LifeStory.Game
import LifeStory.Random.Xoshiro
import LifeStory.Scalar.Float
import Mathlib.Data.List.Induction
import Mathlib.Data.List.Nodup

/-!
# Stats that packs have added since a save

A run begins with the custom stats of all packs, and of two definitions with one id the later
counts (`Catalog.get?_initialStats`). A life that is loaded keeps the custom stats that it has, and
is given those that it lacks. As it keeps also what it has just been given, of two definitions with
one id the earlier counts here (`Catalog.get?_customStats_backfill`).

So a life that was saved without custom stats is loaded with those of a new run exactly when the
first and the last definition with an id begin with the same value (`Setting.load_backfills`). This
is so whenever the packs define every id once (`CustomStat.first?_eq_last?`).
-/

namespace LifeStory

/-! ### Definitions with one id -/

namespace CustomStat

variable {R : Type} {stats : List (CustomStat R)} {id : String}

/-- The value that the first of the stats with an id begins with. -/
def first? (stats : List (CustomStat R)) (id : String) : Option R :=
  (stats.find? fun s ↦ s.id = id).map CustomStat.initial

/-- The value that the last of the stats with an id begins with. -/
def last? (stats : List (CustomStat R)) (id : String) : Option R := first? stats.reverse id

theorem first?_cons (s : CustomStat R) :
    first? (s :: stats) id = if s.id = id then some s.initial else first? stats id := by
  by_cases heq : s.id = id
  · rw [first?, List.find?_cons_of_pos (by simpa using heq), if_pos heq]
    rfl
  · rw [first?, List.find?_cons_of_neg (by simpa using heq), if_neg heq]
    rfl

theorem last?_concat (s : CustomStat R) :
    last? (stats ++ [s]) id = if s.id = id then some s.initial else last? stats id := by
  rw [last?, List.reverse_concat, first?_cons]
  rfl

/-- Where every id is defined once, a definition with an id is the one that is found. -/
theorem find?_eq_some_iff (h : (stats.map CustomStat.id).Nodup) {s : CustomStat R} :
    stats.find? (fun s ↦ s.id = id) = some s ↔ s ∈ stats ∧ s.id = id := by
  constructor
  · intro hfind
    exact ⟨List.mem_of_find?_eq_some hfind, by simpa using List.find?_some hfind⟩
  · rintro ⟨hs, hid⟩
    cases hfind : stats.find? fun s ↦ s.id = id with
    | none => exact absurd hid (by simpa using List.find?_eq_none.1 hfind s hs)
    | some t =>
      have htid : t.id = id := by simpa using List.find?_some hfind
      rw [List.inj_on_of_nodup_map h (List.mem_of_find?_eq_some hfind) hs (htid.trans hid.symm)]

/-- Where every id is defined once, the first definition is the last. -/
theorem first?_eq_last? (h : (stats.map CustomStat.id).Nodup) (id : String) :
    first? stats id = last? stats id := by
  have hreverse : (stats.reverse.map CustomStat.id).Nodup := by
    rw [List.map_reverse]
    exact List.nodup_reverse.2 h
  refine congrArg (Option.map CustomStat.initial) (Option.ext fun s ↦ ?_)
  rw [find?_eq_some_iff h, find?_eq_some_iff hreverse, List.mem_reverse]

end CustomStat

/-! ### The stats of a catalog -/

namespace Catalog

variable {R : Type} {catalog : Catalog R}

/-- What each pack adds to at the end, packs add to in order. -/
theorem foldl_addPack_eq {β : Type} {field : Catalog R → List β} {added : Pack R → List β}
    (h : ∀ catalog pack, field (addPack catalog pack) = field catalog ++ added pack)
    (packs : List (Pack R)) (catalog : Catalog R) :
    field (packs.foldl addPack catalog) = field catalog ++ packs.flatMap added := by
  induction packs generalizing catalog with
  | nil => exact (List.append_nil _).symm
  | cons pack rest ih => rw [List.foldl_cons, ih, h, List.flatMap_cons, List.append_assoc]

/-- The custom stats are those of the packs in order. -/
theorem customStats_assemble (base : BaseContent R) (packs : List (Pack R)) :
    (assemble base packs).customStats = packs.flatMap Pack.customStats :=
  foldl_addPack_eq (fun _ _ ↦ rfl) packs (ofBase base)

/-- The events are those of the base content, then those of the packs in order. -/
theorem events_assemble (base : BaseContent R) (packs : List (Pack R)) :
    (assemble base packs).events = base.events ++ packs.flatMap Pack.events :=
  foldl_addPack_eq (fun _ _ ↦ rfl) packs (ofBase base)

theorem get?_foldl_insert (stats : List (CustomStat R)) (id : String) :
    (stats.foldl (fun map s ↦ map.insert s.id s.initial) StringMap.empty).get? id =
      CustomStat.last? stats id := by
  induction stats using List.reverseRecOn with
  | nil => rfl
  | append_singleton rest s ih =>
    rw [List.foldl_concat, StringMap.get?_insert, CustomStat.last?_concat, ih]

/-- A run begins with the last definition of each custom stat. -/
theorem get?_initialStats (id : String) :
    catalog.initialStats.get? id = CustomStat.last? catalog.customStats id := by
  rw [initialStats, StringMap.ofList, List.foldl_map]
  exact get?_foldl_insert catalog.customStats id

/-- What one definition adds, if the stat is not there. -/
theorem get?_insert_if_lacking (map : StringMap R) (s : CustomStat R) (id : String) :
    (if map.contains s.id then map else map.insert s.id s.initial).get? id =
      (map.get? id).or (if s.id = id then some s.initial else none) := by
  by_cases heq : s.id = id
  · subst heq
    cases hget : map.get? s.id with
    | none => simp [StringMap.contains, hget]
    | some value => simp [StringMap.contains, hget]
  · rw [if_neg heq, Option.or_none]
    split
    · rfl
    · exact StringMap.get?_insert_of_ne map s.initial heq

theorem get?_foldl_insert_if_lacking (stats : List (CustomStat R)) (map : StringMap R)
    (id : String) :
    (stats.foldl (fun map s ↦
      if map.contains s.id then map else map.insert s.id s.initial) map).get? id =
      (map.get? id).or (CustomStat.first? stats id) := by
  induction stats generalizing map with
  | nil => simp [CustomStat.first?]
  | cons s rest ih =>
    rw [List.foldl_cons, ih, get?_insert_if_lacking, CustomStat.first?_cons, Option.or_assoc]
    split
    · rfl
    · rw [Option.none_or]

/-- A custom stat of a life that is loaded is the one that it had, else the first definition. -/
theorem get?_customStats_backfill (life : Life R) (id : String) :
    (catalog.backfill life).customStats.get? id =
      (life.customStats.get? id).or (CustomStat.first? catalog.customStats id) :=
  get?_foldl_insert_if_lacking catalog.customStats life.customStats id

/-- A life without custom stats is given those of a new run exactly when first and last
definitions agree. -/
theorem customStats_backfill_eq_iff {life : Life R} (h : life.customStats = .empty) :
    (catalog.backfill life).customStats = catalog.initialStats ↔
      ∀ id, CustomStat.first? catalog.customStats id = CustomStat.last? catalog.customStats id := by
  have hget : ∀ id, (catalog.backfill life).customStats.get? id =
      CustomStat.first? catalog.customStats id := fun id ↦ by
    rw [get?_customStats_backfill, h, StringMap.get?_empty, Option.none_or]
  constructor
  · intro heq id
    rw [← hget, heq, get?_initialStats]
  · intro hagree
    refine StringMap.ext_get? fun id ↦ ?_
    rw [hget, get?_initialStats, hagree]

end Catalog

/-! ### Loading -/

namespace Setting

variable {R G : Type} [Scalar R] [SeededSource G]

/-- A run that begins without talents has the stats that the catalog begins with. -/
theorem customStats_newLife (setting : Setting R) (seed : UInt64) :
    (setting.newLife G seed []).customStats = setting.catalog.initialStats := rfl

/-- **Loading adds the custom stats that a life lacks**, whatever the base content and the packs: a
life that a slot holds is given back with all of its other fields and with every custom stat that it
has. If it has none, it is given the custom stats that a new run without talents begins with,
exactly when for every id the first of the stats that the packs define begins with the same value
as the last. -/
theorem load_backfills (base : BaseContent R) (packs : List (Pack R)) (config : Config R)
    (switch : Option String) (seed : UInt64) {saves : StringMap (Life R)} {slot : String}
    {life : Life R} (h : saves.get? slot = some life) :
    let setting := Setting.ofContent base packs config switch
    let stats := packs.flatMap Pack.customStats
    ∃ loaded, setting.load? saves slot = some loaded ∧
      loaded = { life with customStats := loaded.customStats } ∧
      (∀ id value, life.customStats.get? id = some value →
        loaded.customStats.get? id = some value) ∧
      (life.customStats = .empty →
        (loaded.customStats = (setting.newLife G seed []).customStats ↔
          ∀ id, CustomStat.first? stats id = CustomStat.last? stats id)) := by
  intro setting stats
  have hstats : setting.catalog.customStats = stats := Catalog.customStats_assemble base packs
  refine ⟨setting.catalog.backfill life, by rw [load?, h, Option.map_some], rfl, ?_, ?_⟩
  · intro id value hvalue
    rw [Catalog.get?_customStats_backfill, hvalue, Option.some_or]
  · intro hempty
    rw [customStats_newLife, ← hstats]
    exact Catalog.customStats_backfill_eq_iff hempty

/-- A pack with nothing but a custom stat. -/
def statPack (id stat : String) (initial : Float) : Pack Float :=
  ⟨id, id, none, [], [], [], .empty, [⟨stat, stat, initial⟩], []⟩

/-- A slot that holds a life from before the packs. -/
def oldSave : StringMap (Life Float) := .ofList [("old", Life.fresh 50)]

/-- Packs with a stat each, laid over nothing. -/
def statSetting (packs : List (Pack Float)) : Setting Float :=
  .ofContent .empty packs .default none

/-- A garden and a sea define a stat each; an old life is loaded with both. -/
theorem old_life_is_given_garden_and_sea :
    let packs := [statPack "garden" "green_thumb" 3.0, statPack "sea" "salt" 2.0]
    oldSave.get? "old" = some (Life.fresh 50) ∧
      ∃ loaded, (statSetting packs).load? oldSave "old" = some loaded ∧
        loaded.customStats = ((statSetting packs).newLife Xoshiro 7 []).customStats := by
  intro packs
  have hheld : oldSave.get? "old" = some (Life.fresh 50) := rfl
  obtain ⟨loaded, hload, -, -, hagree⟩ :=
    load_backfills (G := Xoshiro) .empty packs .default none 7 hheld
  refine ⟨hheld, loaded, hload, (hagree rfl).2 ?_⟩
  exact CustomStat.first?_eq_last? (by decide)

/-- Two packs define luck. An old life is loaded with the luck of the earlier, and a new run begins
with the luck of the later. -/
theorem old_life_is_given_other_luck :
    let packs := [statPack "moon" "luck" 1.0, statPack "sun" "luck" 2.0]
    ∃ loaded, (statSetting packs).load? oldSave "old" = some loaded ∧
      loaded.customStats ≠ ((statSetting packs).newLife Xoshiro 7 []).customStats := by
  intro packs
  refine ⟨_, rfl, fun heq ↦ ?_⟩
  have hluck := congrArg (fun stats ↦ (stats.get? "luck").map Float.toBits) heq
  revert hluck
  decide +kernel

end Setting

end LifeStory
