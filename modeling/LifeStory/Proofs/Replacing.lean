import LifeStory.Proofs.DeclaredExclusions

/-!
# Tags that take the place of others

A directive that takes up a tag and replaces others is the only one that may take up a tag that is
excluded by one that is held. It looks only at what the new tag excludes, and drops that; what is
left is what was held before, in its order, and then the new tag if it was not held
(`Scene.tags_replace`). That is enough because the declared relation is symmetric, so that nothing
that is left excludes the new tag, and because no tag excludes itself, so that the new tag is not
dropped with the others.

Hence compatible tags stay compatible, and they do so along every list of directives in which only
replacing ones take up tags (`Scene.compatible_applyAll`). The tags that a choice takes up without
replacing others are those that have to be looked at before it is made.
-/

namespace LifeStory

instance (groups : List (List String)) (a b : String) : Decidable (Declared groups a b) :=
  inferInstanceAs (Decidable (_ ∧ _))

theorem Declared.irrefl (groups : List (List String)) (a : String) : ¬ Declared groups a a :=
  fun h ↦ h.1 rfl

/-- The tags of a list that a tag does not exclude, in their order. -/
def spared (groups : List (List String)) (tag : String) (held : List String) : List String :=
  held.filter fun other ↦ ¬ Declared groups tag other

section Spared

variable {groups : List (List String)} {tag other : String} {held : List String}

theorem mem_spared :
    other ∈ spared groups tag held ↔ other ∈ held ∧ ¬ Declared groups tag other := by
  rw [spared, List.mem_filter, decide_eq_true_iff]

/-- A tag does not exclude itself, and is spared as often as it is held. -/
theorem count_spared_self : (spared groups tag held).count tag = held.count tag :=
  List.count_filter (decide_eq_true (Declared.irrefl groups tag))

theorem mem_spared_self : tag ∈ spared groups tag held ↔ tag ∈ held := by
  rw [mem_spared, and_iff_left (Declared.irrefl groups tag)]

end Spared

/-! ### Tags that are declared to exclude each other -/

/-- No two of the tags are declared to exclude each other. -/
def Compatible (groups : List (List String)) (tags : List String) : Prop :=
  ∀ a ∈ tags, ∀ b ∈ tags, ¬ Declared groups a b

instance (groups : List (List String)) (tags : List String) : Decidable (Compatible groups tags) :=
  inferInstanceAs (Decidable (∀ a ∈ tags, ∀ b ∈ tags, ¬ Declared groups a b))

namespace Scene

variable {R A G : Type} [Scalar R] [AchievementSink A] [RandomSource G] {base : BaseContent R}
  {packs : List (Pack R)}

/-- **What is held after a tag has replaced others**: what it spares, and the tag itself. -/
theorem tags_replace (scene : Scene R A G) (tag : String) :
    (scene.applyDirective (.assemble base packs) (.addTag tag true)).2.life.tags =
      spared base.tags.conflicts tag scene.life.tags ++
        if tag ∈ scene.life.tags then [] else [tag] := by
  have hkept : (scene.life.tags.filter fun held ↦
      !(Catalog.assemble base packs).exclusions.exclusive tag held) =
        spared base.tags.conflicts tag scene.life.tags := by
    refine List.filter_congr fun other _ ↦ ?_
    rw [Bool.eq_iff_iff, Bool.not_eq_true', Bool.eq_false_iff, ne_eq, Catalog.exclusive_assemble,
      decide_eq_true_iff]
  show (if tag ∈ _ then _ else _ ++ [tag]) = _
  rw [if_pos rfl, hkept]
  by_cases htag : tag ∈ scene.life.tags
  · rw [if_pos (mem_spared_self.2 htag), if_pos htag, List.append_nil]
  · rw [if_neg (mt mem_spared_self.1 htag), if_neg htag]

/-- What a directive leaves of compatible tags is compatible, unless it takes up a tag without
replacing others. -/
theorem compatible_applyDirective {directive : Directive R}
    (hreplaces : ∀ tag, directive ≠ .addTag tag false) {scene : Scene R A G}
    (h : Compatible base.tags.conflicts scene.life.tags) :
    Compatible base.tags.conflicts
      (scene.applyDirective (.assemble base packs) directive).2.life.tags := by
  have hnew : ∀ tag held, directive.takesUp? = some tag →
      directive.spares (Catalog.assemble base packs).exclusions held = true →
        ¬ Declared base.tags.conflicts tag held := by
    intro tag held htakes hspares
    cases directive with
    | addTag other replace =>
      obtain rfl := Option.some.inj htakes
      cases replace with
      | false => exact absurd rfl (hreplaces other)
      | true =>
        rw [Directive.spares, Bool.not_eq_true', Bool.eq_false_iff] at hspares
        rwa [ne_eq, Catalog.exclusive_assemble] at hspares
    | _ => cases htakes
  intro a ha b hb
  rw [mem_tags_applyDirective, Directive.Leaves] at ha hb
  rcases ha with hatook | ⟨haheld, haspared⟩ <;> rcases hb with hbtook | ⟨hbheld, hbspared⟩
  · obtain rfl := Option.some.inj (hatook.symm.trans hbtook)
    exact Declared.irrefl _ a
  · exact hnew a b hatook hbspared
  · exact fun hdeclared ↦ hnew b a hbtook haspared hdeclared.symm
  · exact h a haheld b hbheld

/-- **Compatible tags stay compatible along directives that take up tags only to replace
others.** -/
theorem compatible_applyAll {outcomes : List (Directive R)}
    (hreplace : ∀ tag, .addTag tag false ∉ outcomes) (scene : Scene R A G)
    (h : Compatible base.tags.conflicts scene.life.tags) :
    Compatible base.tags.conflicts
      (scene.applyAll (.assemble base packs) outcomes).2.life.tags := by
  have hfrom : ∀ (tally : Tally) (scene : Scene R A G),
      Compatible base.tags.conflicts scene.life.tags →
        Compatible base.tags.conflicts
          (scene.applyFrom (.assemble base packs) outcomes tally).2.life.tags := by
    induction outcomes with
    | nil => exact fun _ _ h ↦ h
    | cons directive rest ih =>
      intro tally scene h
      have hfirst : ∀ tag, directive ≠ .addTag tag false := fun tag heq ↦
        hreplace tag (heq ▸ List.mem_cons_self)
      rw [applyFrom]
      exact ih (fun tag hmem ↦ hreplace tag (List.mem_cons_of_mem _ hmem)) _ _
        (compatible_applyDirective hfirst h)
  exact hfrom .zero scene h

end Scene

/-! ### Exclusivity -/

namespace Catalog

/-- **A tag that replaces others restores exclusivity.** For all groups, and whatever tags are held,
after a directive has taken up a tag and replaced others
* the tag is held, as often as it was, or once if it was not;
* no tag that is held is declared to exclude it, nor does it exclude one;
* the tags that it does not exclude come first, all of them and in the order in which they were
  held;
* no two tags exclude each other if no two of them did before. -/
theorem replacing_restores_exclusivity {R A G : Type} [Scalar R] [AchievementSink A]
    [RandomSource G] (base : BaseContent R) (packs : List (Pack R)) (scene : Scene R A G)
    (tag : String) :
    let groups := base.tags.conflicts
    let held := scene.life.tags
    let after := (scene.applyDirective (assemble base packs) (.addTag tag true)).2.life.tags
    (tag ∈ after ∧ after.count tag = max (held.count tag) 1) ∧
      (∀ other ∈ after, ¬ Declared groups tag other ∧ ¬ Declared groups other tag) ∧
      (held.filter fun other ↦ ¬ Declared groups tag other) <+: after ∧
      (Compatible groups held → Compatible groups after) := by
  intro groups held after
  have hafter : after = spared groups tag held ++ if tag ∈ held then [] else [tag] :=
    scene.tags_replace tag
  have hmem : ∀ other, other ∈ after ↔ other ∈ spared groups tag held ∨ other = tag := by
    intro other
    rw [hafter, List.mem_append]
    split
    next hheld =>
      rw [or_iff_left List.not_mem_nil, iff_self_or]
      rintro rfl
      exact mem_spared_self.2 hheld
    next => rw [List.mem_singleton]
  have hspares : ∀ other ∈ after, ¬ Declared groups tag other := by
    intro other hother
    rcases (hmem other).1 hother with hspared | rfl
    · exact (mem_spared.1 hspared).2
    · exact Declared.irrefl groups other
  refine ⟨⟨(hmem tag).2 (.inr rfl), ?_⟩, fun other hother ↦
    ⟨hspares other hother, fun h ↦ hspares other hother h.symm⟩, ?_,
    Scene.compatible_applyDirective fun other heq ↦ by cases heq⟩
  · rw [hafter, List.count_append, count_spared_self]
    split
    next hheld =>
      have hpos := List.count_pos_iff.2 hheld
      rw [List.count_nil]
      omega
    next hnot =>
      rw [List.count_eq_zero.2 hnot, List.count_singleton_self]
      rfl
  · rw [hafter]
    exact List.prefix_append _ _

/-- A believer who is online turns into a skeptic, and stays online. -/
theorem skeptic_replaces_believer :
    let held := ["believer", "online"]
    let scene := creedScene held
    let after := (scene.applyDirective (assemble creeds []) (.addTag "skeptic" true)).2.life.tags
    Compatible creeds.tags.conflicts held ∧ after = ["online", "skeptic"] ∧
      Compatible creeds.tags.conflicts after := by
  intro held scene after
  have hheld : Compatible creeds.tags.conflicts held := by decide
  obtain ⟨-, -, -, hkept⟩ := replacing_restores_exclusivity creeds [] scene "skeptic"
  exact ⟨hheld, by decide +kernel, hkept hheld⟩

end Catalog

end LifeStory
