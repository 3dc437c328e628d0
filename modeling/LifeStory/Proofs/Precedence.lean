import LifeStory.Proofs.Backfill

/-!
# The precedence of content

Packs are laid over the base content one after the other, and there are two rules for what counts
where an id is defined twice. Lists only grow at their end (`Catalog.foldl_addPack_eq`) and are
searched from their beginning, so the first definition of an event, a talent or an ending counts,
and no pack that comes later can replace it. Status effects are entered under their ids, over what
is there, so here the definition of the last pack counts (`Catalog.statusEffect?_foldl_addPack`).

`Catalog.Lays` says both of a catalog without speaking of how it is put together.
-/

namespace LifeStory

/-! ### Definitions that count -/

/-- The first of the items with an id. -/
def IsFirst {α : Type} (idOf : α → String) (id : String) (items : List α) (item : α) : Prop :=
  ∃ before after, items = before ++ item :: after ∧ idOf item = id ∧
    ∀ other ∈ before, idOf other ≠ id

/-- Searching a list from its beginning finds the first item with an id. -/
theorem find?_eq_some_iff_isFirst {α : Type} {idOf : α → String} {id : String} {items : List α}
    {item : α} :
    items.find? (fun a ↦ idOf a = id) = some item ↔ IsFirst idOf id items item := by
  rw [List.find?_eq_some_iff_append, IsFirst]
  simp only [decide_eq_true_eq, Bool.not_eq_true', decide_eq_false_iff_not]
  constructor
  · rintro ⟨hid, before, after, rfl, hbefore⟩
    exact ⟨before, after, rfl, hid, hbefore⟩
  · rintro ⟨before, after, rfl, hid, hbefore⟩
    exact ⟨hid, before, after, rfl, hbefore⟩

/-- The status effect that counts under an id: that of the last pack that defines it, and that of
the base content when no pack does. -/
inductive StatusEffect.Counts {R : Type} (base : BaseContent R) (packs : List (Pack R))
    (id : String) : StatusEffect R → Prop where
  | ofPack {earlier later : List (Pack R)} {pack : Pack R} {effect : StatusEffect R}
      (split : packs = earlier ++ pack :: later)
      (defined : pack.statusEffects.get? id = some effect)
      (last : ∀ other ∈ later, other.statusEffects.get? id = none) : Counts base packs id effect
  | ofBase {effect : StatusEffect R} (undefined : ∀ pack ∈ packs, pack.statusEffects.get? id = none)
      (defined : base.statusEffects.get? id = some effect) : Counts base packs id effect

/-! ### Packs -/

/-- The status effect under an id in the last of the packs that define one. -/
def Pack.lastEffect? {R : Type} (packs : List (Pack R)) (id : String) : Option (StatusEffect R) :=
  packs.reverse.findSome? fun pack ↦ pack.statusEffects.get? id

namespace Pack

variable {R : Type} {packs more : List (Pack R)} {id : String} {effect : StatusEffect R}

/-- The last effect with an id is sought in the later packs first. -/
theorem lastEffect?_append :
    lastEffect? (packs ++ more) id = (lastEffect? more id).or (lastEffect? packs id) := by
  rw [lastEffect?, List.reverse_append, List.findSome?_append]
  rfl

/-- There is no last effect exactly if no pack defines the id. -/
theorem lastEffect?_eq_none_iff :
    lastEffect? packs id = none ↔ ∀ pack ∈ packs, pack.statusEffects.get? id = none := by
  simp only [lastEffect?, List.findSome?_eq_none_iff, List.mem_reverse]

/-- The last effect is that of a pack after which no other defines the id. -/
theorem lastEffect?_eq_some_iff :
    lastEffect? packs id = some effect ↔ ∃ earlier pack later, packs = earlier ++ pack :: later ∧
      pack.statusEffects.get? id = some effect ∧
      ∀ other ∈ later, other.statusEffects.get? id = none := by
  rw [lastEffect?, List.findSome?_eq_some_iff]
  constructor
  · rintro ⟨later, pack, earlier, hsplit, hdefined, hlast⟩
    refine ⟨earlier.reverse, pack, later.reverse, ?_, hdefined, fun other hother ↦ ?_⟩
    · simpa using congrArg List.reverse hsplit
    · exact hlast other (List.mem_reverse.1 hother)
  · rintro ⟨earlier, pack, later, rfl, hdefined, hlast⟩
    refine ⟨later.reverse, pack, earlier.reverse, by simp, hdefined, fun other hother ↦ ?_⟩
    exact hlast other (List.mem_reverse.1 hother)

end Pack

namespace Catalog

variable {R : Type}

/-- A pack that defines a status effect replaces it, and any other leaves it. -/
theorem statusEffect?_addPack (catalog : Catalog R) (pack : Pack R) (id : String) :
    (catalog.addPack pack).statusEffect? id =
      (pack.statusEffects.get? id).or (catalog.statusEffect? id) :=
  StringMap.get?_union catalog.statusEffects pack.statusEffects id

/-- **The last pack that defines a status effect replaces it.** -/
theorem statusEffect?_foldl_addPack (packs : List (Pack R)) (catalog : Catalog R) (id : String) :
    (packs.foldl addPack catalog).statusEffect? id =
      (Pack.lastEffect? packs id).or (catalog.statusEffect? id) := by
  induction packs generalizing catalog with
  | nil => rfl
  | cons pack rest ih =>
    have hfirst : Pack.lastEffect? [pack] id = pack.statusEffects.get? id := by
      rw [Pack.lastEffect?, List.reverse_singleton, List.findSome?_singleton]
    rw [List.foldl_cons, ih, statusEffect?_addPack, ← List.singleton_append,
      Pack.lastEffect?_append, hfirst, Option.or_assoc]

theorem talents_assemble (base : BaseContent R) (packs : List (Pack R)) :
    (assemble base packs).talents = base.talents ++ packs.flatMap Pack.talents :=
  foldl_addPack_eq (fun _ _ ↦ rfl) packs (ofBase base)

theorem endings_assemble (base : BaseContent R) (packs : List (Pack R)) :
    (assemble base packs).endings = base.endings ++ packs.flatMap Pack.endings :=
  foldl_addPack_eq (fun _ _ ↦ rfl) packs (ofBase base)

theorem achievements_assemble (base : BaseContent R) (packs : List (Pack R)) :
    (assemble base packs).achievements = base.achievements ++ packs.flatMap Pack.achievements :=
  foldl_addPack_eq (fun _ _ ↦ rfl) packs (ofBase base)

/-! ### The two rules -/

/-- The base content with packs laid over it in order. -/
structure Lays (base : BaseContent R) (packs : List (Pack R)) (catalog : Catalog R) : Prop where
  events : catalog.events = base.events ++ packs.flatMap Pack.events
  talents : catalog.talents = base.talents ++ packs.flatMap Pack.talents
  endings : catalog.endings = base.endings ++ packs.flatMap Pack.endings
  achievements : catalog.achievements = base.achievements ++ packs.flatMap Pack.achievements
  customStats : catalog.customStats = packs.flatMap Pack.customStats
  event_iff : ∀ id event, catalog.event? id = some event ↔
    IsFirst Event.id id (base.events ++ packs.flatMap Pack.events) event
  talent_iff : ∀ id talent, catalog.talent? id = some talent ↔
    IsFirst Talent.id id (base.talents ++ packs.flatMap Pack.talents) talent
  ending_iff : ∀ id ending, catalog.ending? id = some ending ↔
    IsFirst Ending.id id (base.endings ++ packs.flatMap Pack.endings) ending
  effect_iff : ∀ id effect, catalog.statusEffect? id = some effect ↔
    StatusEffect.Counts base packs id effect

/-- A status effect is found exactly if it is the one that counts. -/
theorem statusEffect?_assemble_eq_some_iff {base : BaseContent R} {packs : List (Pack R)}
    {id : String} {effect : StatusEffect R} :
    (assemble base packs).statusEffect? id = some effect ↔
      StatusEffect.Counts base packs id effect := by
  rw [assemble, statusEffect?_foldl_addPack, Option.or_eq_some_iff, Pack.lastEffect?_eq_some_iff,
    Pack.lastEffect?_eq_none_iff]
  constructor
  · rintro (⟨earlier, pack, later, hsplit, hdefined, hlast⟩ | ⟨hundefined, hbase⟩)
    · exact .ofPack hsplit hdefined hlast
    · exact .ofBase hundefined hbase
  · rintro (⟨hsplit, hdefined, hlast⟩ | ⟨hundefined, hbase⟩)
    · exact .inl ⟨_, _, _, hsplit, hdefined, hlast⟩
    · exact .inr ⟨hundefined, hbase⟩

/-- **The catalog that is assembled** lays the packs over the base content in order. -/
theorem lays_assemble (base : BaseContent R) (packs : List (Pack R)) :
    Lays base packs (assemble base packs) where
  events := events_assemble base packs
  talents := talents_assemble base packs
  endings := endings_assemble base packs
  achievements := achievements_assemble base packs
  customStats := customStats_assemble base packs
  event_iff id event := by rw [event?, find?_eq_some_iff_isFirst, events_assemble]
  talent_iff id talent := by rw [talent?, find?_eq_some_iff_isFirst, talents_assemble]
  ending_iff id ending := by rw [ending?, find?_eq_some_iff_isFirst, endings_assemble]
  effect_iff _ _ := statusEffect?_assemble_eq_some_iff

/-- Further packs are laid over the catalog that is there. -/
theorem assemble_append (base : BaseContent R) (packs more : List (Pack R)) :
    assemble base (packs ++ more) = more.foldl addPack (assemble base packs) :=
  List.foldl_append

section Extension

variable {catalog : Catalog R} (more : List (Pack R)) {id : String}

/-- What is found in a list is found in it when more is added at its end. -/
theorem find?_foldl_addPack {β : Type} {field : Catalog R → List β} {added : Pack R → List β}
    (h : ∀ catalog pack, field (addPack catalog pack) = field catalog ++ added pack)
    {p : β → Bool} {item : β} (hfound : (field catalog).find? p = some item) :
    (field (more.foldl addPack catalog)).find? p = some item := by
  rw [foldl_addPack_eq h, List.find?_append, hfound, Option.some_or]

theorem event?_foldl_addPack {event : Event R} (h : catalog.event? id = some event) :
    (more.foldl addPack catalog).event? id = some event :=
  find?_foldl_addPack more (fun _ _ ↦ rfl) h

theorem talent?_foldl_addPack {talent : Talent R} (h : catalog.talent? id = some talent) :
    (more.foldl addPack catalog).talent? id = some talent :=
  find?_foldl_addPack more (fun _ _ ↦ rfl) h

theorem ending?_foldl_addPack {ending : Ending} (h : catalog.ending? id = some ending) :
    (more.foldl addPack catalog).ending? id = some ending :=
  find?_foldl_addPack more (fun _ _ ↦ rfl) h

/-- Packs that do not define a status effect leave it alone. -/
theorem statusEffect?_foldl_addPack_of_undefined
    (h : ∀ pack ∈ more, pack.statusEffects.get? id = none) :
    (more.foldl addPack catalog).statusEffect? id = catalog.statusEffect? id := by
  rw [statusEffect?_foldl_addPack, Pack.lastEffect?_eq_none_iff.2 h, Option.none_or]

end Extension

/-- **The precedence of content is fixed.** For all base content and packs:
* the lists of the catalog are those of the base content, then those of the packs in order; custom
  stats come from the packs alone;
* the first event, talent or ending with an id counts, and of status effects the one of the last
  pack that defines it, or else that of the base content;
* further packs do not change which event, talent or ending an id stands for, if it stood for one;
* nor do they change a status effect, unless one of them defines it. -/
theorem precedence_is_fixed (base : BaseContent R) (packs more : List (Pack R)) (id : String) :
    let catalog := assemble base packs
    let extended := assemble base (packs ++ more)
    Lays base packs catalog ∧
    (∀ event, catalog.event? id = some event → extended.event? id = some event) ∧
    (∀ talent, catalog.talent? id = some talent → extended.talent? id = some talent) ∧
    (∀ ending, catalog.ending? id = some ending → extended.ending? id = some ending) ∧
    (extended.statusEffect? id ≠ catalog.statusEffect? id →
      ∃ pack ∈ more, pack.statusEffects.get? id ≠ none) := by
  intro catalog extended
  have hextended : extended = more.foldl addPack catalog := assemble_append base packs more
  refine ⟨lays_assemble base packs, fun event hevent ↦ ?_, fun talent htalent ↦ ?_,
    fun ending hending ↦ ?_, fun hchanged ↦ ?_⟩
  · rw [hextended]
    exact event?_foldl_addPack more hevent
  · rw [hextended]
    exact talent?_foldl_addPack more htalent
  · rw [hextended]
    exact ending?_foldl_addPack more hending
  · refine Classical.byContradiction fun hnone ↦ hchanged ?_
    rw [hextended]
    refine statusEffect?_foldl_addPack_of_undefined more fun pack hpack ↦ ?_
    exact Classical.byContradiction fun hdefined ↦ hnone ⟨pack, hpack, hdefined⟩

/-- Something that happens at home. -/
def homeEvent (title : String) : Event Float :=
  ⟨"home", title, "", [], [], [], none, false, false⟩

/-- A home of its own, and a cold. -/
def homePack (id : String) : Pack Float where
  id := id
  name := id
  description := none
  events := [homeEvent id]
  talents := []
  endings := []
  statusEffects := .ofList [("cold", ⟨id, "", none, []⟩)]
  customStats := []
  achievements := []

/-- Winter and spring bring a home and a cold each. One goes on living in the home of the base
content, and has the cold of spring. -/
theorem spring_cold_is_caught_in_the_old_home :
    let base := { BaseContent.empty with events := [homeEvent "old"] }
    let winter := assemble base [homePack "winter"]
    let spring := assemble base ([homePack "winter"] ++ [homePack "spring"])
    winter.event? "home" = some (homeEvent "old") ∧
      spring.event? "home" = some (homeEvent "old") ∧
      spring.statusEffect? "cold" ≠ winter.statusEffect? "cold" ∧
      ∃ pack ∈ [homePack "spring"], pack.statusEffects.get? "cold" ≠ none := by
  intro base winter spring
  have hhome : winter.event? "home" = some (homeEvent "old") := rfl
  have hstays := (precedence_is_fixed base [homePack "winter"] [homePack "spring"] "home").2.1
  have hcold : spring.statusEffect? "cold" ≠ winter.statusEffect? "cold" := by
    intro heq
    have hname := congrArg (Option.map StatusEffect.name) heq
    revert hname
    decide +kernel
  have hchanges :=
    (precedence_is_fixed base [homePack "winter"] [homePack "spring"] "cold").2.2.2.2
  exact ⟨hhome, hstays _ hhome, hcold, hchanges hcold⟩

end Catalog

end LifeStory
