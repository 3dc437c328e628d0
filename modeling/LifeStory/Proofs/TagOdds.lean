import LifeStory.Proofs.EventModifiers
import LifeStory.Proofs.Skipping
import Mathlib.Algebra.BigOperators.Group.List.Basic
import Mathlib.Tactic.Ring

/-!
# The odds of tags

Directives multiply the modifiers of tags, and the weight of an event has the modifier of each of
its tags as a factor, once for each time that the event carries the tag. A modifier of zero is the
exception: it counts as none (`Life.effectiveOdds`). So in exact arithmetic a directive multiplies
the weight by its multiplier once for each occurrence (`Event.product_multiplyTagOdds`), as long as
neither the modifier nor the multiplier is zero; and a zero takes the modifier out of the weight
instead of taking the event out of the draw (`Event.weighted_multiplyTagOdds_of_zero`).

The modifiers themselves are multiplied without exception (`Life.oddsOf_multiplyAllTagOdds`), and in
any order (`Life.multiplyAllTagOdds_eq_of_perm`).
-/

namespace LifeStory

/-! ### Modifiers -/

/-- All multipliers for a tag in a list of changes, multiplied. -/
def multiplierFor (changes : List (String × ℚ)) (tag : String) : ℚ :=
  ((changes.filter fun c ↦ c.1 = tag).map Prod.snd).prod

theorem multiplierFor_cons (change : String × ℚ) (rest : List (String × ℚ)) (tag : String) :
    multiplierFor (change :: rest) tag =
      (if change.1 = tag then change.2 else 1) * multiplierFor rest tag := by
  rw [multiplierFor, List.filter_cons]
  by_cases htag : change.1 = tag
  · simp [htag, multiplierFor]
  · simp [htag, multiplierFor]

namespace Life

/-- The modifier of a tag, one when there is none. -/
def oddsOf (life : Life ℚ) (tag : String) : ℚ := (life.tagOdds.get? tag).getD 1

/-- What the modifier of a tag counts for in a weight: one that is zero counts as none. -/
def effectiveOdds (life : Life ℚ) (tag : String) : ℚ :=
  if life.oddsOf tag = 0 then 1 else life.oddsOf tag

/-- Multiplies the modifiers of tags, one after the other. -/
def multiplyAllTagOdds (life : Life ℚ) (changes : List (String × ℚ)) : Life ℚ :=
  changes.foldl (fun life c ↦ life.multiplyTagOdds c.1 c.2) life

variable {life : Life ℚ} {tag other : String} {multiplier : ℚ}

/-- The odds of a tag are multiplied, and those of the other tags are kept. -/
theorem oddsOf_multiplyTagOdds :
    (life.multiplyTagOdds tag multiplier).oddsOf other =
      life.oddsOf other * if tag = other then multiplier else 1 := by
  have hone : (1.0 : ℚ) = 1 := by decide +kernel
  rw [oddsOf, multiplyTagOdds, StringMap.get?_insert, hone]
  by_cases heq : tag = other
  · rw [if_pos heq, if_pos heq, heq]
    rfl
  · rw [if_neg heq, if_neg heq, mul_one]
    rfl

theorem effectiveOdds_of_ne_zero (h : life.oddsOf tag ≠ 0) :
    life.effectiveOdds tag = life.oddsOf tag :=
  if_neg h

theorem effectiveOdds_multiplyTagOdds_of_ne (h : tag ≠ other) :
    (life.multiplyTagOdds tag multiplier).effectiveOdds other = life.effectiveOdds other := by
  rw [effectiveOdds, oddsOf_multiplyTagOdds, if_neg h, mul_one, effectiveOdds]

/-- Where neither is zero the odds that count are multiplied. -/
theorem effectiveOdds_multiplyTagOdds_self (hodds : life.oddsOf tag ≠ 0)
    (hmultiplier : multiplier ≠ 0) :
    (life.multiplyTagOdds tag multiplier).effectiveOdds tag =
      life.effectiveOdds tag * multiplier := by
  have hafter : (life.multiplyTagOdds tag multiplier).oddsOf tag =
      life.oddsOf tag * multiplier := by
    rw [oddsOf_multiplyTagOdds, if_pos rfl]
  have hnonzero : (life.multiplyTagOdds tag multiplier).oddsOf tag ≠ 0 := by
    rw [hafter]
    exact mul_ne_zero hodds hmultiplier
  rw [effectiveOdds_of_ne_zero hnonzero, hafter, effectiveOdds_of_ne_zero hodds]

/-- **Modifiers are multiplied without exception**, also by zero and where they are zero. -/
theorem oddsOf_multiplyAllTagOdds (changes : List (String × ℚ)) :
    (life.multiplyAllTagOdds changes).oddsOf tag =
      life.oddsOf tag * multiplierFor changes tag := by
  induction changes generalizing life with
  | nil => exact (mul_one _).symm
  | cons change rest ih =>
    have hrest : life.multiplyAllTagOdds (change :: rest) =
        (life.multiplyTagOdds change.1 change.2).multiplyAllTagOdds rest := rfl
    rw [hrest, ih, oddsOf_multiplyTagOdds, multiplierFor_cons, mul_assoc]

theorem multiplyTagOdds_comm (life : Life ℚ) (first second : String) (m n : ℚ) :
    (life.multiplyTagOdds first m).multiplyTagOdds second n =
      (life.multiplyTagOdds second n).multiplyTagOdds first m := by
  have hodds : ((life.multiplyTagOdds first m).multiplyTagOdds second n).tagOdds =
      ((life.multiplyTagOdds second n).multiplyTagOdds first m).tagOdds := by
    refine StringMap.ext_get? fun key ↦ ?_
    simp only [multiplyTagOdds, StringMap.get?_insert]
    by_cases hsame : first = second
    · subst hsame
      by_cases hkey : first = key
      · simp only [if_pos hkey, if_pos, Option.getD_some, mul_right_comm]
      · simp only [if_neg hkey]
    · by_cases hfirst : first = key
      · subst hfirst
        simp only [if_pos, if_neg hsame, if_neg (Ne.symm hsame)]
      · simp only [if_neg hfirst, if_neg hsame]
  exact congrArg (fun odds ↦ { life with tagOdds := odds }) hodds

/-- **Modifiers are multiplied in any order.** -/
theorem multiplyAllTagOdds_eq_of_perm {changes reordered : List (String × ℚ)}
    (h : changes.Perm reordered) :
    life.multiplyAllTagOdds reordered = life.multiplyAllTagOdds changes :=
  h.symm.foldl_eq' (fun c _ d _ life ↦ life.multiplyTagOdds_comm c.1 d.1 c.2 d.2) life

end Life

/-! ### Weights -/

/-- The weight of a candidate before it is kept from being negative: its base times its factors. -/
def Weighted.product (candidate : Weighted ℚ) : ℚ :=
  candidate.base * (candidate.factors.map Factor.value).prod

theorem foldl_mul_value (factors : List (Factor ℚ)) (start : ℚ) :
    factors.foldl (fun weight f ↦ weight * f.value) start =
      start * (factors.map Factor.value).prod := by
  induction factors generalizing start with
  | nil => exact (mul_one start).symm
  | cons f rest ih => rw [List.foldl_cons, ih, List.map_cons, List.prod_cons, mul_assoc]

/-- A product changes by a power of what one of its factors changes by. -/
theorem prod_map_eq_mul_pow {before after : String → ℚ} {tag : String} {multiplier : ℚ}
    (htag : after tag = before tag * multiplier)
    (hother : ∀ other, tag ≠ other → after other = before other) (tags : List String) :
    (tags.map after).prod = (tags.map before).prod * multiplier ^ tags.count tag := by
  induction tags with
  | nil => simp
  | cons first rest ih =>
    rw [List.map_cons, List.prod_cons, ih, List.map_cons, List.prod_cons]
    by_cases hfirst : tag = first
    · rw [← hfirst, htag, List.count_cons_self]
      ring
    · rw [hother first hfirst, List.count_cons_of_ne (Ne.symm hfirst)]
      ring

namespace Event

variable {event : Event ℚ} {life : Life ℚ} {tag : String} {multiplier : ℚ}

/-- In exact arithmetic a weight is the product of the base and the factors, or zero when that is
negative. -/
theorem weight_weighted (event : Event ℚ) (life : Life ℚ) :
    (event.weighted life).weight = max (event.weighted life).product 0 := by
  have hweight : (event.weighted life).weight = Scalar.max ((event.weighted life).factors.foldl
      (fun weight f ↦ weight * f.value) (event.weighted life).base) 0.0 := rfl
  rw [hweight, foldl_mul_value, Scalar.zero_eq_zero, ← Weighted.product, Scalar.max]
  by_cases hpositive : 0 < (event.weighted life).product
  · rw [if_pos (.inl hpositive), max_eq_left hpositive.le]
  · rw [if_neg (by simpa [Scalar.isNaN] using hpositive), max_eq_right (not_lt.1 hpositive)]

/-- A tag is a factor on a weight by what its modifier counts for. -/
theorem value_tagFactor? (life : Life ℚ) (tag : String) :
    ((tagFactor? life tag).map Factor.value).getD 1 = life.effectiveOdds tag := by
  rw [tagFactor?, Life.effectiveOdds, Life.oddsOf]
  cases life.tagOdds.get? tag with
  | none => rfl
  | some odds =>
    by_cases hzero : odds = 0
    · simp [Option.filter, hzero, Scalar.zero_eq_zero]
    · simp [Option.filter, hzero, Scalar.zero_eq_zero]

/-- A modifier of zero is no factor. -/
theorem tagFactor?_of_zero (h : life.oddsOf tag = 0) : tagFactor? life tag = none := by
  rw [tagFactor?]
  rw [Life.oddsOf] at h
  cases hodds : life.tagOdds.get? tag with
  | none => rfl
  | some odds =>
    have hzero : odds = 0 := by rwa [hodds] at h
    simp [Option.filter, hzero, Scalar.zero_eq_zero]

/-- The factors of the tags of an event multiply to the odds that count of all its tags. -/
theorem prod_tagFactors (life : Life ℚ) (tags : List String) :
    ((tags.filterMap (tagFactor? life)).map Factor.value).prod =
      (tags.map life.effectiveOdds).prod := by
  induction tags with
  | nil => rfl
  | cons tag rest ih =>
    rw [List.filterMap_cons, List.map_cons, List.prod_cons, ← ih, ← value_tagFactor?]
    cases tagFactor? life tag with
    | none => exact (one_mul _).symm
    | some f => rfl

/-- A weight is the base times what the modifiers of the tags count for, and times the modifiers of
the event. -/
theorem product_weighted (event : Event ℚ) (life : Life ℚ) :
    (event.weighted life).product = (event.weighted life).base *
      ((event.tags.map life.effectiveOdds).prod *
        ((event.modifierFactors life.eventModifiers).map Factor.value).prod) := by
  rw [Weighted.product, weighted_eq, ← prod_tagFactors, ← List.prod_append, ← List.map_append]
  rfl

/-- A life has a hand in a weight by the factors of the tags and by its modifiers of events. -/
theorem weighted_eq_of_tagFactor?_eq {before after : Life ℚ}
    (htags : ∀ tag ∈ event.tags, tagFactor? after tag = tagFactor? before tag)
    (hmodifiers : after.eventModifiers = before.eventModifiers) :
    event.weighted after = event.weighted before := by
  rw [weighted_eq, weighted_eq, hmodifiers, List.filterMap_congr htags]

theorem weighted_multiplyTagOdds_of_not_mem (h : tag ∉ event.tags) :
    event.weighted (life.multiplyTagOdds tag multiplier) = event.weighted life := by
  refine weighted_eq_of_tagFactor?_eq (fun other hother ↦ ?_) rfl
  have hne : tag ≠ other := fun heq ↦ h (heq ▸ hother)
  rw [tagFactor?, Life.multiplyTagOdds, StringMap.get?_insert_of_ne _ _ hne, tagFactor?]

/-- **A multiplier is a factor on a weight once for each time that the event carries the tag**, when
neither it nor the modifier is zero. -/
theorem product_multiplyTagOdds (hodds : life.oddsOf tag ≠ 0) (hmultiplier : multiplier ≠ 0) :
    (event.weighted (life.multiplyTagOdds tag multiplier)).product =
      (event.weighted life).product * multiplier ^ event.tags.count tag := by
  have htags := prod_map_eq_mul_pow
    (Life.effectiveOdds_multiplyTagOdds_self hodds hmultiplier)
    (fun _ hne ↦ Life.effectiveOdds_multiplyTagOdds_of_ne hne) event.tags
  rw [product_weighted, htags, product_weighted]
  -- The base and the modifiers of the event are none of the directive's business.
  show (event.weighted life).base * (_ * ((event.modifierFactors life.eventModifiers).map
    Factor.value).prod) = _
  ring

/-- **A zero takes the modifier out of the weight**, whether it is the modifier or the
multiplier. -/
theorem weighted_multiplyTagOdds_of_zero (h : life.oddsOf tag = 0 ∨ multiplier = 0) :
    event.weighted (life.multiplyTagOdds tag multiplier) =
      event.weighted { life with tagOdds := life.tagOdds.erase tag } := by
  refine weighted_eq_of_tagFactor?_eq (fun other _ ↦ ?_) rfl
  by_cases heq : tag = other
  · subst heq
    have hzero : (life.multiplyTagOdds tag multiplier).oddsOf tag = 0 := by
      rw [Life.oddsOf_multiplyTagOdds, if_pos rfl]
      exact mul_eq_zero.2 h
    rw [tagFactor?_of_zero hzero, tagFactor?, StringMap.get?_erase_self]
    rfl
  · rw [tagFactor?, Life.multiplyTagOdds, StringMap.get?_insert_of_ne _ _ heq, tagFactor?,
      StringMap.get?_erase_of_ne _ heq]

/-- **Multipliers compound in weights**, where none of those for tags of the event is zero. -/
theorem product_multiplyAllTagOdds {changes : List (String × ℚ)}
    (h : ∀ c ∈ changes, c.1 ∈ event.tags → life.oddsOf c.1 ≠ 0 ∧ c.2 ≠ 0) :
    (event.weighted (life.multiplyAllTagOdds changes)).product =
      (event.weighted life).product * (changes.map fun c ↦ c.2 ^ event.tags.count c.1).prod := by
  induction changes generalizing life with
  | nil => exact (mul_one _).symm
  | cons change rest ih =>
    have hrest : life.multiplyAllTagOdds (change :: rest) =
        (life.multiplyTagOdds change.1 change.2).multiplyAllTagOdds rest := rfl
    have hfirst : (event.weighted (life.multiplyTagOdds change.1 change.2)).product =
        (event.weighted life).product * change.2 ^ event.tags.count change.1 := by
      by_cases hcarried : change.1 ∈ event.tags
      · have hnonzero := h change List.mem_cons_self hcarried
        exact product_multiplyTagOdds hnonzero.1 hnonzero.2
      · rw [weighted_multiplyTagOdds_of_not_mem hcarried, List.count_eq_zero.2 hcarried, pow_zero,
          mul_one]
    rw [hrest, ih, hfirst, List.map_cons, List.prod_cons, mul_assoc]
    intro c hc hcarried
    have hnonzero := h c (List.mem_cons_of_mem _ hc) hcarried
    refine ⟨?_, hnonzero.2⟩
    rw [Life.oddsOf_multiplyTagOdds]
    by_cases heq : change.1 = c.1
    · have hmultiplier := (h change List.mem_cons_self (heq ▸ hcarried)).2
      rw [if_pos heq]
      exact mul_ne_zero hnonzero.1 hmultiplier
    · rw [if_neg heq, mul_one]
      exact hnonzero.1

end Event

/-! ### Directives -/

/-- The directives that multiply the modifiers of tags. -/
def oddsChanges (changes : List (String × ℚ)) : List (Directive ℚ) :=
  changes.map fun c ↦ .modifyTagProbability c.1 c.2

namespace Scene

variable {A G : Type} [AchievementSink A] [RandomSource G]

/-- Directives for the odds of tags do nothing but multiply modifiers. -/
theorem applyAll_oddsChanges (catalog : Catalog ℚ) (scene : Scene ℚ A G)
    (changes : List (String × ℚ)) :
    (scene.applyAll catalog (oddsChanges changes)).2 =
      { scene with life := scene.life.multiplyAllTagOdds changes } := by
  induction changes generalizing scene with
  | nil => rfl
  | cons change rest ih =>
    rw [oddsChanges, List.map_cons, ← oddsChanges, applyAll_cons_snd, ih]
    rfl

/-- **The odds of tags compound.** Whatever the scene and the event:
* the weight of the event is its product, the base times all factors, or zero when that is negative;
* a directive for the odds of a tag leaves the weight as it is when the event does not carry the
  tag; else it multiplies the product by its multiplier, once for each time that the tag is carried,
  if neither the modifier of the tag nor the multiplier is zero; and if one of them is, the weight
  becomes that without a modifier for the tag;
* a list of them multiplies each modifier by all multipliers for its tag, and the product by those
  for tags of the event, if these and the modifiers that they are for are not zero; and in any other
  order it leaves the same scene. -/
theorem tag_odds_compound (catalog : Catalog ℚ) (scene : Scene ℚ A G) (event : Event ℚ) :
    (event.weighted scene.life).weight = max (event.weighted scene.life).product 0 ∧
    (∀ tag multiplier,
      let after := (scene.applyDirective catalog (.modifyTagProbability tag multiplier)).2
      (tag ∉ event.tags → event.weighted after.life = event.weighted scene.life) ∧
      (scene.life.oddsOf tag ≠ 0 → multiplier ≠ 0 →
        (event.weighted after.life).product =
          (event.weighted scene.life).product * multiplier ^ event.tags.count tag) ∧
      (scene.life.oddsOf tag = 0 ∨ multiplier = 0 →
        event.weighted after.life =
          event.weighted { scene.life with tagOdds := scene.life.tagOdds.erase tag })) ∧
    ∀ changes : List (String × ℚ),
      let after := (scene.applyAll catalog (oddsChanges changes)).2
      (∀ tag, after.life.oddsOf tag = scene.life.oddsOf tag * multiplierFor changes tag) ∧
      ((∀ c ∈ changes, c.1 ∈ event.tags → scene.life.oddsOf c.1 ≠ 0 ∧ c.2 ≠ 0) →
        (event.weighted after.life).product = (event.weighted scene.life).product *
          (changes.map fun c ↦ c.2 ^ event.tags.count c.1).prod) ∧
      ∀ reordered, changes.Perm reordered →
        (scene.applyAll catalog (oddsChanges reordered)).2 = after := by
  refine ⟨event.weight_weighted scene.life, fun tag multiplier ↦ ⟨?_, ?_, ?_⟩, fun changes ↦ ?_⟩
  · exact Event.weighted_multiplyTagOdds_of_not_mem
  · exact Event.product_multiplyTagOdds
  · exact Event.weighted_multiplyTagOdds_of_zero
  · rw [applyAll_oddsChanges]
    refine ⟨fun tag ↦ Life.oddsOf_multiplyAllTagOdds changes, Event.product_multiplyAllTagOdds,
      fun reordered hperm ↦ ?_⟩
    rw [applyAll_oddsChanges, Life.multiplyAllTagOdds_eq_of_perm hperm]

/-- A party that is a social occasion in two ways. -/
def party : Event ℚ :=
  ⟨"party", "", "", [], [], ["social", "night", "social"], none, false, false⟩

/-- Trebling the odds of what is social makes a party nine times as likely, and what happens at
night is no exception to it. -/
theorem party_counts_twice :
    let scene : Scene ℚ Ledger Stepper := ⟨Life.fresh 50, ⟨.empty, []⟩, .fresh ⟨0, 0⟩⟩
    let changes : List (String × ℚ) := [("social", 3), ("night", 2)]
    let after := (scene.applyAll (.ofBase .empty) (oddsChanges changes)).2
    (party.weighted scene.life).product = 1 ∧ (party.weighted after.life).product = 18 := by
  intro scene changes after
  have hbefore : (party.weighted scene.life).product = 1 := by decide +kernel
  have hnonzero : ∀ c ∈ changes, c.1 ∈ party.tags → scene.life.oddsOf c.1 ≠ 0 ∧ c.2 ≠ 0 := by
    decide +kernel
  have hafter := ((tag_odds_compound (.ofBase .empty) scene party).2.2 changes).2.1 hnonzero
  refine ⟨hbefore, hafter.trans ?_⟩
  rw [hbefore]
  decide +kernel

/-- Multiplied by zero, the odds of what is social are as if nothing was said about them, and the
party has a chance as before. -/
theorem zero_leaves_the_party :
    let scene : Scene ℚ Ledger Stepper := ⟨Life.fresh 50, ⟨.empty, []⟩, .fresh ⟨0, 0⟩⟩
    let after := (scene.applyDirective (.ofBase .empty) (.modifyTagProbability "social" 0)).2
    (party.weighted after.life).product = 1 ∧
      (party.weighted after.life).product ≠
        (party.weighted scene.life).product * 0 ^ party.tags.count "social" := by
  decide +kernel

end Scene
end LifeStory
