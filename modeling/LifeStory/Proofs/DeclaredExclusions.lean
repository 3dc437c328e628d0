import LifeStory.Proofs.Exclusivity
import LifeStory.Proofs.Weightless
import LifeStory.Trial.Chronicle

/-!
# The declared exclusions and their users

The table of exclusions is the relation that the groups declare, and nothing else: it does not
depend on the order of the groups, nor on that of the tags in them (`Exclusions.ofGroups_congr`),
because a table is determined by the tags that it lists and the pairs that it relates
(`Exclusions.ext_exclusive`).

Two users ask the table. A choice is refused when something that it may come to takes up a tag that
excludes one that is held; every bucket counts there, whatever its weight, and so also one that is
never drawn. Clashes among held tags are looked for from the front to the back of the list, which
finds all of them since the relation is symmetric.
-/

namespace LifeStory

/-- Two tags are declared to exclude each other: they differ, and some group contains both. -/
def Declared (groups : List (List String)) (a b : String) : Prop :=
  a ≠ b ∧ ∃ group ∈ groups, a ∈ group ∧ b ∈ group

theorem Declared.symm {groups : List (List String)} {a b : String} (h : Declared groups a b) :
    Declared groups b a := by
  obtain ⟨hne, group, hgroup, ha, hb⟩ := h
  exact ⟨hne.symm, group, hgroup, hb, ha⟩

/-! ### The table -/

namespace Exclusions

variable {table other : Exclusions} {group others : List String} {groups : List (List String)}
  {a b tag : String}

theorem contains_extend :
    (table.extend tag others).contains a = true ↔ a = tag ∨ table.contains a = true :=
  StringMap.contains_insert_iff

theorem contains_foldl_extend {tags : List String} {others : String → List String} :
    (tags.foldl (fun table tag ↦ table.extend tag (others tag)) table).contains a = true ↔
      a ∈ tags ∨ table.contains a = true := by
  induction tags generalizing table with
  | nil => simp
  | cons tag rest ih =>
    rw [List.foldl_cons, ih, contains_extend, List.mem_cons, or_assoc, or_left_comm]

theorem contains_foldl_addGroup :
    (groups.foldl addGroup table).contains a = true ↔
      (∃ group ∈ groups, a ∈ group) ∨ table.contains a = true := by
  induction groups generalizing table with
  | nil => simp
  | cons group rest ih =>
    rw [List.foldl_cons, ih, addGroup, contains_foldl_extend, List.exists_mem_cons_iff, or_assoc,
      or_left_comm]

/-- The table lists the tags of the groups. -/
theorem contains_ofGroups :
    (ofGroups groups).contains a = true ↔ ∃ group ∈ groups, a ∈ group := by
  rw [ofGroups, contains_foldl_addGroup]
  exact or_iff_left Bool.false_ne_true

theorem exclusive_of_get? {set : StringSet} (h : table.get? a = some set) :
    table.exclusive a b = set.contains b := by
  rw [exclusive, h]

/-- A set is determined by what it contains. -/
theorem ext_contains {s t : StringSet} (h : ∀ name, s.contains name = t.contains name) : s = t := by
  refine StringMap.ext_get? fun name ↦ ?_
  have hname := h name
  rw [StringMap.contains, StringMap.contains] at hname
  cases hs : s.get? name <;> cases ht : t.get? name <;> simp [hs, ht] at hname ⊢

/-- **A table is determined by the tags that it lists and the pairs that it relates.** -/
theorem ext_exclusive (hlist : ∀ a, table.contains a = other.contains a)
    (hrelate : ∀ a b, table.exclusive a b = other.exclusive a b) : table = other := by
  refine StringMap.ext_get? fun a ↦ ?_
  have hlisted := hlist a
  rw [StringMap.contains, StringMap.contains] at hlisted
  cases hs : table.get? a with
  | none =>
    rw [hs] at hlisted
    exact (Option.isSome_eq_false_iff.1 hlisted.symm |> Option.isNone_iff_eq_none.1).symm
  | some set =>
    rw [hs] at hlisted
    obtain ⟨set', ht⟩ := Option.isSome_iff_exists.1 hlisted.symm
    rw [ht]
    refine congrArg some (ext_contains fun b ↦ ?_)
    rw [← exclusive_of_get? hs, ← exclusive_of_get? ht]
    exact hrelate a b

/-- The groups of one list are those of another, in some order and each in some order. -/
def Reordered (groups others : List (List String)) : Prop :=
  ∃ between, groups.Perm between ∧ List.Forall₂ List.Perm between others

/-- What is asked of a group in whatever order some group of a list satisfies whatever the order of
the list is. -/
theorem Reordered.exists_mem_iff {groups others : List (List String)} (h : Reordered groups others)
    {P : List String → Prop} (hperm : ∀ {g k : List String}, g.Perm k → (P g ↔ P k)) :
    (∃ group ∈ groups, P group) ↔ ∃ group ∈ others, P group := by
  obtain ⟨between, hgroups, hothers⟩ := h
  simp only [hgroups.mem_iff]
  clear hgroups
  induction hothers with
  | nil => rfl
  | cons hpair _ ih => rw [List.exists_mem_cons_iff, List.exists_mem_cons_iff, hperm hpair, ih]

/-- **The table does not depend on the order of the groups and of the tags in them.** -/
theorem ofGroups_congr {groups others : List (List String)} (h : Reordered groups others) :
    ofGroups groups = ofGroups others := by
  refine ext_exclusive (fun a ↦ ?_) fun a b ↦ ?_
  · rw [Bool.eq_iff_iff, contains_ofGroups, contains_ofGroups]
    exact h.exists_mem_iff fun hperm ↦ hperm.mem_iff
  · rw [Bool.eq_iff_iff, exclusive_ofGroups, exclusive_ofGroups]
    exact and_congr_right fun _ ↦ h.exists_mem_iff fun hperm ↦
      and_congr hperm.mem_iff hperm.mem_iff

end Exclusions

/-! ### Refused choices -/

namespace Catalog

variable {R : Type} {base : BaseContent R} {packs : List (Pack R)}

/-- The outcomes take up a tag, without replacing others, that is declared to exclude one of those
that are held. -/
def TakesUpExcluded (groups : List (List String)) (held : List String)
    (outcomes : List (Directive R)) : Prop :=
  ∃ tag, .addTag tag false ∈ outcomes ∧ ∃ other ∈ held, Declared groups tag other

theorem exclusive_assemble {a b : String} :
    (assemble base packs).exclusions.exclusive a b = true ↔ Declared base.tags.conflicts a b := by
  rw [exclusions_assemble]
  exact Exclusions.exclusive_ofGroups

theorem clashes_assemble {tag : String} {held : List String} :
    (assemble base packs).exclusions.clashes tag held = true ↔
      ∃ other ∈ held, Declared base.tags.conflicts tag other := by
  simp only [Exclusions.clashes, List.any_eq_true, exclusive_assemble]

/-- The choice is refused for what is among all its outcomes. -/
theorem introducesConflict_iff_allOutcomes {choice : Choice R} {held : List String} :
    (assemble base packs).introducesConflict choice held = true ↔
      TakesUpExcluded base.tags.conflicts held choice.allOutcomes := by
  rw [introducesConflict, List.any_eq_true, TakesUpExcluded]
  constructor
  · rintro ⟨directive, hmem, htakes⟩
    split at htakes
    next tag => exact ⟨tag, hmem, clashes_assemble.1 htakes⟩
    next => cases htakes
  · rintro ⟨tag, hmem, hother⟩
    exact ⟨_, hmem, clashes_assemble.2 hother⟩

/-- What is among all outcomes of a choice is in a list that the choice may come to. -/
theorem takesUpExcluded_allOutcomes [Scalar R] {groups : List (List String)} {choice : Choice R}
    {held : List String} :
    TakesUpExcluded groups held choice.allOutcomes ↔
      ∃ outcomes, choice.MayComeTo outcomes ∧ TakesUpExcluded groups held outcomes := by
  constructor
  · rintro ⟨tag, hmem, hother⟩
    rw [Choice.allOutcomes] at hmem
    split at hmem
    next hempty => exact ⟨_, .inl ⟨List.isEmpty_iff.1 hempty, rfl⟩, tag, hmem, hother⟩
    next =>
      obtain ⟨bucket, hbucket, hdirective⟩ := List.mem_flatMap.1 hmem
      exact ⟨_, .inr ⟨bucket, hbucket, rfl⟩, tag, hdirective, hother⟩
  · rintro ⟨outcomes, hmay, tag, hmem, hother⟩
    exact ⟨tag, hmay.subset hmem, hother⟩

end Catalog

/-! ### Clashes among held tags -/

namespace Trial

/-- The search from the front to the back finds no pair exactly if no tag excludes a later one. -/
theorem excludingPairs_eq_nil_iff {table : Exclusions} {tags : List String} :
    excludingPairs table tags = [] ↔ tags.Pairwise fun a b ↦ ¬ table.exclusive a b = true := by
  induction tags with
  | nil => simp [excludingPairs]
  | cons tag rest ih =>
    rw [excludingPairs, List.append_eq_nil_iff, List.map_eq_nil_iff, List.filter_eq_nil_iff,
      List.pairwise_cons, ih]

/-- No clashes are found exactly if no two positions have tags that are declared to exclude each
other. -/
theorem tagClashes_eq_nil_iff {R : Type} {base : BaseContent R} {packs : List (Pack R)}
    {life : Life R} :
    tagClashes (Catalog.assemble base packs) life = [] ↔
      ∀ (i j : Nat) (a b : String), i ≠ j → life.tags[i]? = some a → life.tags[j]? = some b →
        ¬ Declared base.tags.conflicts a b := by
  rw [tagClashes, List.map_eq_nil_iff, excludingPairs_eq_nil_iff, List.pairwise_iff_getElem]
  simp only [Catalog.exclusive_assemble]
  constructor
  · intro h i j a b hne ha hb hdeclared
    obtain ⟨hi, rfl⟩ := List.getElem?_eq_some_iff.1 ha
    obtain ⟨hj, rfl⟩ := List.getElem?_eq_some_iff.1 hb
    rcases Nat.lt_or_gt_of_ne hne with hlt | hgt
    · exact h i j hi hj hlt hdeclared
    · exact h j i hj hi hgt hdeclared.symm
  · intro h i j hi hj hlt
    exact h i j _ _ (Nat.ne_of_lt hlt) (List.getElem?_eq_getElem hi) (List.getElem?_eq_getElem hj)

end Trial

/-! ### The table and its users -/

namespace Catalog

/-- **Exclusions are as declared, and asked for as declared.** For all groups, whatever repeats in
them, and all content:
* two tags exclude each other exactly if they differ and some group contains both; so they do it
  mutually, no tag excludes itself, and the order of groups and of tags in a group is of no account;
* a choice is refused exactly if some list of outcomes that it may come to, its own when it has no
  buckets and else that of any bucket, whatever its weight, takes up a tag, without replacing
  others, that excludes one that is held; so it is refused if what it is resolved to would do that;
* no clash among held tags is found exactly if no two positions of the list have tags that exclude
  each other. -/
theorem exclusions_are_as_declared {R G : Type} [Scalar R] [RandomSource G] :
    (∀ groups a b, (Exclusions.ofGroups groups).exclusive a b = true ↔ Declared groups a b) ∧
    (∀ groups a b, (Exclusions.ofGroups groups).exclusive a b =
      (Exclusions.ofGroups groups).exclusive b a) ∧
    (∀ groups a, (Exclusions.ofGroups groups).exclusive a a = false) ∧
    (∀ groups others, Exclusions.Reordered groups others →
      Exclusions.ofGroups groups = Exclusions.ofGroups others) ∧
    (∀ (base : BaseContent R) packs (choice : Choice R) held,
      ((assemble base packs).introducesConflict choice held = true ↔
        ∃ outcomes, choice.MayComeTo outcomes ∧
          TakesUpExcluded base.tags.conflicts held outcomes) ∧
      ∀ source : Counted G,
        TakesUpExcluded base.tags.conflicts held (choice.resolve source).1.outcomes →
          (assemble base packs).introducesConflict choice held = true) ∧
    ∀ (base : BaseContent R) packs (life : Life R),
      Trial.tagClashes (assemble base packs) life = [] ↔
        ∀ (i j : Nat) (a b : String), i ≠ j → life.tags[i]? = some a → life.tags[j]? = some b →
          ¬ Declared base.tags.conflicts a b := by
  refine ⟨fun _ _ _ ↦ Exclusions.exclusive_ofGroups, Exclusions.exclusive_ofGroups_comm,
    fun groups a ↦ ?_, fun _ _ ↦ Exclusions.ofGroups_congr, fun base packs choice held ↦ ?_,
    fun _ _ _ ↦ Trial.tagClashes_eq_nil_iff⟩
  · refine Bool.eq_false_iff.2 fun h ↦ ?_
    exact (Exclusions.exclusive_ofGroups.1 h).1 rfl
  · rw [introducesConflict_iff_allOutcomes, takesUpExcluded_allOutcomes]
    exact ⟨Iff.rfl, fun source htakes ↦ ⟨_, choice.mayComeTo_resolve source, htakes⟩⟩

/-- A choice of which the second bucket makes a skeptic, with a weight below zero. -/
def doubt : Choice Float :=
  { Choice.plain none "Doubt" with
    results := [⟨some 1.0, [], none⟩, ⟨some (-1.0), [.addTag "skeptic" false], none⟩,
      ⟨some 1.0, [], none⟩] }

/-- To whom is online and a believer to doubt is refused, and a believer who is a skeptic as well
is found out; it makes no difference in which order the creeds are declared. -/
theorem believers_may_not_doubt :
    (assemble creeds []).introducesConflict doubt ["online", "believer"] = true ∧
      Trial.tagClashes (assemble creeds []) (creedScene ["believer", "online", "skeptic"]).life ≠
        [] ∧
      Exclusions.ofGroups [["believer", "skeptic"], ["online", "offline"]] =
        Exclusions.ofGroups [["offline", "online"], ["skeptic", "believer"]] := by
  obtain ⟨-, -, -, hreordered, hchoice, hclashes⟩ :=
    exclusions_are_as_declared (R := Float) (G := Xoshiro)
  have hdeclared : Declared creeds.tags.conflicts "skeptic" "believer" :=
    ⟨by decide, ["believer", "skeptic"], by simp [creeds], by decide, by decide⟩
  refine ⟨(hchoice creeds [] doubt _).1.2 ?_, fun hnone ↦ ?_, hreordered _ _ ?_⟩
  · exact ⟨_, .inr ⟨⟨some (-1.0), [.addTag "skeptic" false], none⟩, by simp [doubt], rfl⟩,
      "skeptic", by simp, "believer", by simp, hdeclared⟩
  · exact (hclashes creeds [] _).1 hnone 2 0 "skeptic" "believer" (by decide) rfl rfl hdeclared
  · exact ⟨[["online", "offline"], ["believer", "skeptic"]], .swap _ _ _,
      .cons (.swap _ _ _) (.cons (.swap _ _ _) .nil)⟩

/-- No walk along the buckets of doubt strays, for the first and the last one have weight. -/
theorem not_strays_doubt (roll : Float) : ¬ Draw.Strays doubt.bucketWeights roll := by
  rintro (⟨-, first, hfirst, hweightless⟩ | ⟨-, last, hlast, hweightless⟩)
  · obtain rfl := Option.some.inj hfirst
    exact hweightless (by decide +kernel)
  · obtain rfl := Option.some.inj hlast
    exact hweightless (by decide +kernel)

/-- To doubt is refused to a believer for what never comes of it: whatever is drawn, it comes to
one of the buckets that do nothing. -/
theorem doubt_is_refused_for_nothing :
    (assemble creeds []).introducesConflict doubt ["believer"] = true ∧
      ∀ (G : Type) [RandomSource G] (source : Counted G),
        (doubt.resolve source).1.outcomes = [] := by
  refine ⟨by decide +kernel, fun G _ source ↦ ?_⟩
  have hplain : ∃ bucket ∈ doubt.results, ¬ bucket.Negative :=
    ⟨⟨some 1.0, [], none⟩, by simp [doubt], by decide +kernel⟩
  have hresults : doubt.results ≠ [] := List.cons_ne_nil _ _
  obtain ⟨position, bucket, hposition, hget, hstrays⟩ := Choice.resolve_negative_iff hplain source
  obtain ⟨drawn, bucket', trace, hget', hresolve, -⟩ := Choice.resolve_of_buckets hresults source
  rw [hresolve] at hposition ⊢
  obtain rfl : drawn = position := Option.some.inj hposition
  obtain rfl : bucket = bucket' := Option.some.inj (hget.symm.trans hget')
  have hsound : ¬ bucket.Negative := mt hstrays.2 (not_strays_doubt _)
  have hmem : bucket ∈ doubt.results := List.mem_of_getElem? hget
  simp only [doubt, List.mem_cons, List.not_mem_nil, or_false] at hmem
  rcases hmem with rfl | rfl | rfl
  · rfl
  · exact absurd (by decide +kernel) hsound
  · rfl

end Catalog

end LifeStory
