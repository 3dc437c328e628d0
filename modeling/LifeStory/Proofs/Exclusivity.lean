import LifeStory.Eligibility
import LifeStory.Proofs.Turns
import LifeStory.Random.Xoshiro
import LifeStory.Scalar.Float
import Mathlib.Data.List.Basic

/-!
# Tags that exclude each other

Two different tags exclude each other when some group contains both, whatever the order of groups
and of tags in them (`Exclusions.exclusive_ofGroups`); so the relation is symmetric.

A choice may be made only if each tag that it takes up without replacing others is compatible with
the tags that are held before. Its outcomes are applied in order, and what they do to tags depends
on nothing else (`Scene.mem_tags_applyAll`): a tag is held afterwards when a directive takes it up
and none after it gives it up, or when it was held and no directive gives it up. Hence a choice that
may be made brings no clash with what was held before. What its own outcomes take up may clash, for
this is not looked at before, so that compatible tags stay compatible exactly when the outcomes
leave compatible tags to a life that held none.
-/

namespace LifeStory

/-! ### The declared relation -/

namespace Exclusions

variable {table : Exclusions} {group others : List String} {a b tag : String}

theorem exclusive_extend :
    (table.extend tag others).exclusive a b = true ↔
      a = tag ∧ b ∈ others ∨ table.exclusive a b = true := by
  by_cases heq : tag = a
  · subst heq
    rw [exclusive, extend, StringMap.get?_insert_self]
    simp only [true_and]
    rw [StringSet.contains_foldl_add_iff, exclusive]
    cases table.get? tag with
    | some set => rfl
    | none => rfl
  · have hne : a ≠ tag := fun h ↦ heq h.symm
    rw [exclusive, extend, StringMap.get?_insert_of_ne table _ heq, exclusive]
    simp [hne]

/-- Tags that are extended one after the other, each with others of its own. -/
theorem exclusive_foldl_extend {tags : List String} {others : String → List String} :
    (tags.foldl (fun table tag ↦ table.extend tag (others tag)) table).exclusive a b = true ↔
      (a ∈ tags ∧ b ∈ others a) ∨ table.exclusive a b = true := by
  induction tags generalizing table with
  | nil => simp
  | cons tag rest ih =>
    rw [List.foldl_cons, ih, exclusive_extend, List.mem_cons]
    grind

theorem exclusive_addGroup :
    (table.addGroup group).exclusive a b = true ↔
      (a ∈ group ∧ b ∈ group ∧ b ≠ a) ∨ table.exclusive a b = true := by
  rw [addGroup, exclusive_foldl_extend, List.mem_filter, decide_eq_true_iff]

/-- Groups that are added one after the other, to a table in which nothing or something is declared
already. -/
theorem exclusive_foldl_addGroup {groups : List (List String)} :
    (groups.foldl addGroup table).exclusive a b = true ↔
      (∃ group ∈ groups, a ∈ group ∧ b ∈ group ∧ b ≠ a) ∨ table.exclusive a b = true := by
  induction groups generalizing table with
  | nil => simp
  | cons group rest ih =>
    rw [List.foldl_cons, ih, exclusive_addGroup, List.exists_mem_cons_iff, or_assoc,
      or_left_comm]

/-- **Two tags exclude each other when they differ and some group contains both.** -/
theorem exclusive_ofGroups {groups : List (List String)} :
    (ofGroups groups).exclusive a b = true ↔ a ≠ b ∧ ∃ group ∈ groups, a ∈ group ∧ b ∈ group := by
  have hempty : ¬ exclusive StringMap.empty a b = true := Bool.false_ne_true
  rw [ofGroups, exclusive_foldl_addGroup, or_iff_left hempty]
  constructor
  · rintro ⟨group, hgroup, ha, hb, hne⟩
    exact ⟨hne.symm, group, hgroup, ha, hb⟩
  · rintro ⟨hne, group, hgroup, ha, hb⟩
    exact ⟨group, hgroup, ha, hb, hne.symm⟩

theorem exclusive_ofGroups_comm (groups : List (List String)) (a b : String) :
    (ofGroups groups).exclusive a b = (ofGroups groups).exclusive b a := by
  rw [Bool.eq_iff_iff, exclusive_ofGroups, exclusive_ofGroups]
  simp only [ne_comm, and_comm]

/-- No two of the tags exclude each other. -/
def Compatible (table : Exclusions) (tags : List String) : Prop :=
  ∀ a ∈ tags, ∀ b ∈ tags, table.exclusive a b = false

instance (table : Exclusions) (tags : List String) : Decidable (table.Compatible tags) :=
  inferInstanceAs (Decidable (∀ a ∈ tags, ∀ b ∈ tags, table.exclusive a b = false))

end Exclusions

theorem Catalog.exclusions_assemble {R : Type} (base : BaseContent R) (packs : List (Pack R)) :
    (Catalog.assemble base packs).exclusions = .ofGroups base.tags.conflicts := by
  have hfold : ∀ (packs : List (Pack R)) (catalog : Catalog R),
      (packs.foldl addPack catalog).exclusions = catalog.exclusions := by
    intro packs
    induction packs with
    | nil => exact fun _ ↦ rfl
    | cons pack rest ih => exact fun catalog ↦ ih (catalog.addPack pack)
  exact hfold packs (ofBase base)

/-! ### What directives do to tags -/

namespace Directive

variable {R : Type}

/-- The tag that a directive takes up. -/
def takesUp? : Directive R → Option String
  | addTag tag _ => some tag
  | _ => none

/-- Whether a tag that is held stays when a directive is applied. -/
def spares (exclusions : Exclusions) (held : String) : Directive R → Bool
  | addTag tag true => !exclusions.exclusive tag held
  | removeTag tag => held ≠ tag
  | _ => true

/-- The tags among which a tag is after a directive was applied to the given ones: those that it
takes up or spares. -/
def Leaves (exclusions : Exclusions) (held : String) (tags : List String)
    (directive : Directive R) : Prop :=
  directive.takesUp? = some held ∨ held ∈ tags ∧ directive.spares exclusions held = true

/-- A directive that is not about tags leaves those that there are. -/
theorem leaves_of_neutral {directive : Directive R} {exclusions : Exclusions} {held : String}
    {tags : List String} (htakes : directive.takesUp? = none)
    (hspares : directive.spares exclusions held = true) :
    held ∈ tags ↔ directive.Leaves exclusions held tags := by
  rw [Leaves, htakes, hspares]
  simp

/-- A directive of the list takes the tag up, and none after it gives it up. -/
def TakenUp (exclusions : Exclusions) (tag : String) : List (Directive R) → Prop
  | [] => False
  | directive :: rest =>
    (directive.takesUp? = some tag ∧ ∀ later ∈ rest, later.spares exclusions tag = true) ∨
      TakenUp exclusions tag rest

/-- What is taken up by a list is taken up by one of its directives. -/
theorem TakenUp.exists_addTag {exclusions : Exclusions} {tag : String}
    {outcomes : List (Directive R)} (h : TakenUp exclusions tag outcomes) :
    ∃ replace, addTag tag replace ∈ outcomes := by
  induction outcomes with
  | nil => cases h
  | cons directive rest ih =>
    rcases h with ⟨htakes, -⟩ | hrest
    · cases directive with
      | addTag other replace =>
        obtain rfl := Option.some.inj htakes
        exact ⟨replace, List.mem_cons_self⟩
      | _ => cases htakes
    · obtain ⟨replace, hmem⟩ := ih hrest
      exact ⟨replace, List.mem_cons_of_mem _ hmem⟩

end Directive

namespace Life

variable {R : Type} [Scalar R] {catalog : Catalog R} {life next : Life R} {held : String}
  {directive : Directive R}

omit [Scalar R] in
theorem mem_tags_addTag (life : Life R) (exclusions : Exclusions) (tag : String)
    (replace : Bool) :
    held ∈ (life.addTag exclusions tag replace).tags ↔
      (Directive.addTag (R := R) tag replace).Leaves exclusions held life.tags := by
  have hput : ∀ kept : List String,
      held ∈ (if tag ∈ kept then kept else kept ++ [tag]) ↔ tag = held ∨ held ∈ kept := by
    intro kept
    split <;> grind
  rw [addTag, hput]
  cases replace with
  | true => simp [Directive.Leaves, Directive.takesUp?, Directive.spares]
  | false => simp [Directive.Leaves, Directive.takesUp?, Directive.spares]

theorem mem_tags_of_obey? (h : life.obey? catalog directive = some next) :
    held ∈ next.tags ↔ directive.Leaves catalog.exclusions held life.tags := by
  cases obeys_of_obey? h with
  | addTag => exact life.mem_tags_addTag catalog.exclusions _ _
  | removeTag => simp [Directive.Leaves, Directive.takesUp?, Directive.spares]
  -- No other directive has a hand in the tags.
  | _ => exact Directive.leaves_of_neutral rfl rfl

/-- A directive that cannot be obeyed would take up nothing, and give up nothing that is held. -/
theorem mem_tags_of_disobeyed (h : life.obey? catalog directive = none) :
    held ∈ life.tags ↔ directive.Leaves catalog.exclusions held life.tags := by
  cases directive with
  | addTag tag replace => cases h
  | removeTag tag =>
    rw [obey?, removeTag?] at h
    split at h
    · cases h
    · next hnot =>
      have hne : held ∈ life.tags → held ≠ tag := by
        rintro hheld rfl
        exact hnot (List.contains_iff_mem.2 hheld)
      simpa [Directive.Leaves, Directive.takesUp?, Directive.spares] using hne
  | _ => exact Directive.leaves_of_neutral rfl rfl

end Life

namespace Scene

variable {R A G : Type} [Scalar R] [AchievementSink A] [RandomSource G] {catalog : Catalog R}
  {held : String}

/-- **The tags after a directive** are those that it leaves. -/
theorem mem_tags_applyDirective (directive : Directive R) (scene : Scene R A G) :
    held ∈ (scene.applyDirective catalog directive).2.life.tags ↔
      directive.Leaves catalog.exclusions held scene.life.tags := by
  rcases scene.applyDirective_cases catalog directive with
    ⟨ending, rfl, happly⟩ | ⟨id, rfl, happly⟩ | happly <;> rw [happly]
  · rcases scene.triggerEnding_cases catalog ending with hsame | ⟨-, title, text, _, htrigger⟩
    · rw [hsame]
      exact Directive.leaves_of_neutral rfl rfl
    · rw [htrigger]
      exact Directive.leaves_of_neutral rfl rfl
  · exact Directive.leaves_of_neutral rfl rfl
  · cases hobey : scene.life.obey? catalog directive with
    | none => exact Life.mem_tags_of_disobeyed hobey
    | some next => exact Life.mem_tags_of_obey? hobey

/-- **The tags after a list of directives**: those that it takes up and does not give up again, and
those that were held and that each directive spares. -/
theorem mem_tags_applyAll (outcomes : List (Directive R)) (scene : Scene R A G) :
    held ∈ (scene.applyAll catalog outcomes).2.life.tags ↔
      Directive.TakenUp catalog.exclusions held outcomes ∨ held ∈ scene.life.tags ∧
        ∀ directive ∈ outcomes, directive.spares catalog.exclusions held = true := by
  have hfrom : ∀ (tally : Tally) (scene : Scene R A G),
      held ∈ (scene.applyFrom catalog outcomes tally).2.life.tags ↔
        Directive.TakenUp catalog.exclusions held outcomes ∨ held ∈ scene.life.tags ∧
          ∀ directive ∈ outcomes, directive.spares catalog.exclusions held = true := by
    induction outcomes with
    | nil => simp [applyFrom, Directive.TakenUp]
    | cons directive rest ih =>
      intro tally scene
      rw [applyFrom, ih, mem_tags_applyDirective, Directive.Leaves, Directive.TakenUp,
        List.forall_mem_cons]
      grind
  exact hfrom .zero scene

/-- The scene with a life that holds no tags. -/
def untagged (scene : Scene R A G) : Scene R A G :=
  scene.mapLife fun life ↦ { life with tags := [] }

end Scene

namespace Catalog

variable {R A G : Type} [Scalar R] [AchievementSink A] [RandomSource G]

/-- What a choice that may be made takes up is compatible with the tags that are held and stay. -/
theorem exclusive_of_isAvailable {catalog : Catalog R} {life : Life R} {choice : Choice R}
    {outcomes : List (Directive R)} {tag held : String}
    (havailable : catalog.isAvailable life choice = true) (hmay : choice.MayComeTo outcomes)
    (htag : Directive.TakenUp catalog.exclusions tag outcomes) (hheld : held ∈ life.tags)
    (hspared : ∀ directive ∈ outcomes, directive.spares catalog.exclusions held = true) :
    catalog.exclusions.exclusive tag held = false := by
  obtain ⟨replace, hmem⟩ := htag.exists_addTag
  cases replace with
  | true =>
    have hspares := hspared _ hmem
    rwa [Directive.spares, Bool.not_eq_true'] at hspares
  | false =>
    -- The tag was looked at before the choice was made.
    have hgate : catalog.introducesConflict choice life.tags = false := by
      rw [isAvailable, Bool.and_eq_true, Bool.not_eq_true'] at havailable
      exact havailable.2
    have hclash : catalog.exclusions.clashes tag life.tags = false := by
      rw [introducesConflict, List.any_eq_false] at hgate
      exact Bool.eq_false_iff.2 (hgate _ (hmay.subset hmem))
    rw [Exclusions.clashes, List.any_eq_false] at hclash
    exact Bool.eq_false_iff.2 (hclash held hheld)

/-- **A choice that may be made brings no clash with the tags that are held.** When a life holds
compatible tags and may make a choice, then after any list of outcomes that the choice may come to,
as the one that it is resolved to is, the tags are compatible again, exactly if the list leaves
compatible tags to a life that held none. -/
theorem available_choices_clash_with_nothing_held (base : BaseContent R) (packs : List (Pack R))
    (scene : Scene R A G) (choice : Choice R) :
    let catalog := Catalog.assemble base packs
    catalog.exclusions.Compatible scene.life.tags →
      catalog.isAvailable scene.life choice = true →
        (∀ source : Counted G, choice.MayComeTo (choice.resolve source).1.outcomes) ∧
        ∀ outcomes, choice.MayComeTo outcomes →
          (catalog.exclusions.Compatible (scene.applyAll catalog outcomes).2.life.tags ↔
            catalog.exclusions.Compatible
              (scene.untagged.applyAll catalog outcomes).2.life.tags) := by
  intro catalog hheld havailable
  refine ⟨choice.mayComeTo_resolve, fun outcomes hmay ↦ ⟨fun hafter a ha b hb ↦ ?_,
    fun hown a ha b hb ↦ ?_⟩⟩
  -- What the list leaves to a life without tags it leaves to every life.
  · have hkept : ∀ tag, tag ∈ (scene.untagged.applyAll catalog outcomes).2.life.tags →
        tag ∈ (scene.applyAll catalog outcomes).2.life.tags := by
      intro tag htag
      rw [Scene.mem_tags_applyAll] at htag ⊢
      rcases htag with htaken | ⟨hnone, -⟩
      · exact .inl htaken
      · cases hnone
    exact hafter a (hkept a ha) b (hkept b hb)
  · have hcomm : catalog.exclusions.exclusive a b = catalog.exclusions.exclusive b a := by
      rw [show catalog.exclusions = _ from exclusions_assemble base packs]
      exact Exclusions.exclusive_ofGroups_comm _ a b
    have hleft : ∀ tag, Directive.TakenUp catalog.exclusions tag outcomes →
        tag ∈ (scene.untagged.applyAll catalog outcomes).2.life.tags := fun tag htaken ↦
      (Scene.mem_tags_applyAll outcomes scene.untagged).2 (.inl htaken)
    rw [Scene.mem_tags_applyAll] at ha hb
    rcases ha with hatook | ⟨haheld, haspared⟩ <;> rcases hb with hbtook | ⟨hbheld, hbspared⟩
    · exact hown a (hleft a hatook) b (hleft b hbtook)
    · exact exclusive_of_isAvailable havailable hmay hatook hbheld hbspared
    · rw [hcomm]
      exact exclusive_of_isAvailable havailable hmay hbtook haheld haspared
    · exact hheld a haheld b hbheld

/-- Content without events in which nobody is a believer and a skeptic, or online and offline. -/
def creeds : BaseContent Float :=
  { BaseContent.empty with
    tags := ⟨[["believer", "skeptic"], ["online", "offline"]], [], .empty⟩ }

/-- A life that begins with the given tags. -/
def creedScene (tags : List String) : Scene Float Ledger Xoshiro :=
  ⟨{ Life.fresh 50 with tags := tags }, ⟨.empty, []⟩, Streams.streamOf 7 .text⟩

/-- A choice that has the given outcomes. -/
def creedChoice (outcomes : List (Directive Float)) : Choice Float :=
  { Choice.plain none "Change" with outcomes := outcomes }

/-- A believer may turn into a skeptic who is online, and holds compatible tags then. -/
theorem believer_becomes_a_skeptic :
    let outcomes := [.addTag "skeptic" true, .addTag "online" false]
    (assemble creeds []).isAvailable (creedScene ["believer"]).life (creedChoice outcomes) = true ∧
      (assemble creeds []).exclusions.Compatible
        ((creedScene ["believer"]).applyAll (assemble creeds []) outcomes).2.life.tags := by
  intro outcomes
  have havailable : (assemble creeds []).isAvailable (creedScene ["believer"]).life
      (creedChoice outcomes) = true := by
    decide +kernel
  obtain ⟨-, hclash⟩ := available_choices_clash_with_nothing_held creeds []
    (creedScene ["believer"]) (creedChoice outcomes) (by decide +kernel) havailable
  exact ⟨havailable, (hclash outcomes (.inl ⟨rfl, rfl⟩)).2 (by decide +kernel)⟩

/-- A choice that makes a believer and a skeptic of who is neither may be made, and the tags clash
then. -/
theorem wavering_leaves_a_clash :
    let outcomes := [.addTag "believer" false, .addTag "skeptic" false]
    (assemble creeds []).exclusions.Compatible (creedScene []).life.tags ∧
      (assemble creeds []).isAvailable (creedScene []).life (creedChoice outcomes) = true ∧
      (creedChoice outcomes).MayComeTo outcomes ∧
      ¬ (assemble creeds []).exclusions.Compatible
        ((creedScene []).applyAll (assemble creeds []) outcomes).2.life.tags := by
  intro outcomes
  exact ⟨by decide +kernel, by decide +kernel, .inl ⟨rfl, rfl⟩, by decide +kernel⟩

end Catalog

end LifeStory
