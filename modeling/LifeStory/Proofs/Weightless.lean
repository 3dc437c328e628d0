import LifeStory.Proofs.Shares
import LifeStory.Proofs.Signs
import LifeStory.Random.Stepper

/-!
# Candidates without weight

A weight of zero is meant to keep a candidate from winning a draw, and negative weights count as
zero. The walk of a draw keeps to that unless it strays (`Draw.Strays`), in one of two ways: a roll
that is not above zero ends at the first candidate, whatever its weight, and a roll that the weights
do not use up ends at the last. A weight of zero that is taken off leaves the roll on its side of
zero, so the walk does not end there for any other reason; the induction follows the walk.

In exact arithmetic the sum of the weights uses up every roll, and the smallest draw is the only one
that rolls zero (`Draw.strays_iff`). With rounding other draws may stray as well: a small roll may
be rounded to zero, and a sum that is too large for the format is infinite, as is the roll.
-/

namespace LifeStory

namespace Draw

section Walk

variable {R : Type} [Scalar R]

/-- The weights use up a roll: when they are taken off it one by one, there comes a point at which
nothing of it is left. -/
def UsesUp : List R → R → Prop
  | [], _ => False
  | weight :: more, roll => roll - weight ≤ 0.0 ∨ UsesUp more (roll - weight)

/-- The walk ends at a candidate without weight: the first one, with a roll that is not above zero,
or the last one, with a roll that is not used up. -/
def Strays (weights : List R) (roll : R) : Prop :=
  roll ≤ 0.0 ∧ (∃ first ∈ weights.head?, ¬ 0.0 < first) ∨
    ¬ UsesUp weights roll ∧ ∃ last ∈ weights.getLast?, ¬ 0.0 < last

instance decidableUsesUp : (weights : List R) → (roll : R) → Decidable (UsesUp weights roll)
  | [], _ => .isFalse id
  | weight :: more, roll =>
    have := decidableUsesUp more (roll - weight)
    inferInstanceAs (Decidable (roll - weight ≤ 0.0 ∨ UsesUp more (roll - weight)))

instance (weights : List R) (roll : R) : Decidable (Strays weights roll) :=
  inferInstanceAs (Decidable (_ ∨ _))

variable {weights more : List R} {weight roll : R} {position : Nat}

theorem pickByRoll_of_used (hmore : more ≠ []) (h : roll - weight ≤ 0.0) :
    pickByRoll (weight :: more) roll = some 0 := by
  rw [pickByRoll]
  · exact if_pos h
  · exact hmore

theorem pickByRoll_of_left (hmore : more ≠ []) (h : ¬ roll - weight ≤ 0.0) :
    pickByRoll (weight :: more) roll = (pickByRoll more (roll - weight)).map (· + 1) := by
  rw [pickByRoll]
  · exact if_neg h
  · exact hmore

variable [LawfulScalar R]

/-- A weight of zero leaves of a roll what there was. -/
theorem used_iff_of_weightless (hnonneg : 0.0 ≤ weight) (hweightless : ¬ 0.0 < weight) :
    roll - weight ≤ 0.0 ↔ roll ≤ 0.0 := by
  refine LawfulScalar.sub_le_zero_iff hnonneg (Decidable.not_not.1 fun hnot ↦ hweightless ?_)
  exact (LawfulScalar.pos_iff weight).2 ⟨hnonneg, hnot⟩

theorem strays_singleton (hnonneg : 0.0 ≤ weight) : Strays [weight] roll ↔ ¬ 0.0 < weight := by
  constructor
  · rintro (⟨-, first, hfirst, hweightless⟩ | ⟨-, last, hlast, hweightless⟩)
    · obtain rfl : weight = first := Option.some.inj hfirst
      exact hweightless
    · obtain rfl : weight = last := Option.some.inj hlast
      exact hweightless
  · intro hweightless
    by_cases hroll : roll ≤ 0.0
    · exact .inl ⟨hroll, weight, rfl, hweightless⟩
    · refine .inr ⟨fun hused ↦ hroll ?_, weight, rfl, hweightless⟩
      exact (used_iff_of_weightless hnonneg hweightless).1 (hused.resolve_right id)

/-- A walk that ends at once strays if there is no weight. -/
theorem strays_of_used (hnonneg : 0.0 ≤ weight) (h : roll - weight ≤ 0.0) :
    Strays (weight :: more) roll ↔ ¬ 0.0 < weight := by
  have hused : UsesUp (weight :: more) roll := .inl h
  rw [Strays, or_iff_left fun hleft ↦ hleft.1 hused]
  constructor
  · rintro ⟨-, first, hfirst, hweightless⟩
    obtain rfl : weight = first := Option.some.inj hfirst
    exact hweightless
  · exact fun hweightless ↦
      ⟨(used_iff_of_weightless hnonneg hweightless).1 h, weight, rfl, hweightless⟩

/-- A walk that goes on strays if it does from there. -/
theorem strays_of_left (hmore : more ≠ []) (hnonneg : 0.0 ≤ weight) (h : ¬ roll - weight ≤ 0.0) :
    Strays (weight :: more) roll ↔ Strays more (roll - weight) := by
  have hfirst : ¬ (roll ≤ 0.0 ∧ ∃ first ∈ (weight :: more).head?, ¬ 0.0 < first) := by
    rintro ⟨hroll, first, hfirst, hweightless⟩
    obtain rfl := Option.some.inj hfirst
    exact h ((used_iff_of_weightless hnonneg hweightless).2 hroll)
  rw [Strays, Strays, or_iff_right hfirst, or_iff_right fun hnext ↦ h hnext.1, UsesUp,
    or_iff_right h, List.getLast?_cons_of_ne_nil hmore]

/-- **A walk ends at a candidate without weight exactly if it strays.** -/
theorem strays_iff_weightless (hnonneg : ∀ w ∈ weights, 0.0 ≤ w)
    (hpick : pickByRoll weights roll = some position) (hget : weights[position]? = some weight) :
    Strays weights roll ↔ ¬ 0.0 < weight := by
  induction weights generalizing roll position with
  | nil => cases hpick
  | cons first more ih =>
    obtain ⟨hfirst, hrest⟩ := List.forall_mem_cons.1 hnonneg
    rcases eq_or_ne more [] with rfl | hmore
    · obtain rfl := Option.some.inj hpick
      obtain rfl := Option.some.inj hget
      exact strays_singleton hfirst
    by_cases hused : roll - first ≤ 0.0
    · rw [pickByRoll_of_used hmore hused] at hpick
      obtain rfl := Option.some.inj hpick
      obtain rfl := Option.some.inj hget
      exact strays_of_used hfirst hused
    · rw [pickByRoll_of_left hmore hused] at hpick
      obtain ⟨further, hfurther, rfl⟩ := Option.map_eq_some_iff.1 hpick
      rw [strays_of_left hmore hfirst hused]
      exact ih hrest hfurther hget

/-! ### Draws -/

variable {G : Type} [RandomSource G]

/-- The roll of a draw. -/
def rollOf (weights : List R) (source : Counted G) : R := (source.unit R).1 * Scalar.sum weights

/-- A draw by weights with a positive sum takes one of them, and one without weight exactly if the
walk strays. -/
theorem byWeight_weightless_iff (hnonneg : ∀ w ∈ weights, 0.0 ≤ w)
    (htotal : 0.0 < Scalar.sum weights) (source : Counted G) :
    ∃ position weight, (byWeight weights source).1 = some (position, rollOf weights source) ∧
      weights[position]? = some weight ∧
      (Strays weights (rollOf weights source) ↔ ¬ 0.0 < weight) := by
  obtain ⟨position, hpick⟩ :=
    exists_pickByRoll (Scalar.ne_nil_of_sum_pos htotal) (rollOf weights source)
  have hget := List.getElem?_eq_getElem (pickByRoll_lt hpick)
  refine ⟨position, _, ?_, hget, strays_iff_weightless hnonneg hpick hget⟩
  rw [byWeight, if_neg (Scalar.positive_iff.2 htotal)]
  exact congrArg (Option.map (·, rollOf weights source)) hpick

end Walk

end Draw

section Candidates

variable {R G : Type} [Scalar R] [LawfulScalar R] [RandomSource G]

/-- The draw of a candidate, where no weight is negative and one is above zero. -/
theorem Trace.draw_weightless_iff (name : String) {among : List (Weighted R)}
    (hnonneg : ∀ w ∈ among.map Weighted.weight, 0.0 ≤ w)
    (hpos : ∃ w ∈ among.map Weighted.weight, 0.0 < w) (source : Counted G) :
    ∃ position candidate, ((ofCandidates name among).draw source).1 = some position ∧
      among[position]? = some candidate ∧
      (Draw.Strays (among.map Weighted.weight)
        (Draw.rollOf (among.map Weighted.weight) source) ↔ ¬ 0.0 < candidate.weight) := by
  obtain ⟨position, weight, hdraw, hget, hweightless⟩ :=
    Draw.byWeight_weightless_iff hnonneg (Scalar.sum_pos hnonneg hpos) source
  rw [List.getElem?_map] at hget
  obtain ⟨candidate, hcandidate, rfl⟩ := Option.map_eq_some_iff.1 hget
  refine ⟨position, candidate, ?_, hcandidate, hweightless⟩
  exact congrArg Prod.fst (draw_of_some (Prod.ext hdraw rfl))

/-- The bucket was authored with a weight below zero. -/
def Bucket.Negative {R : Type} [Scalar R] (bucket : Bucket R) : Prop :=
  ∃ weight ∈ bucket.weight, weight < 0.0

instance {R : Type} [Scalar R] (bucket : Bucket R) : Decidable bucket.Negative :=
  inferInstanceAs (Decidable (∃ weight ∈ bucket.weight, weight < 0.0))

/-- A bucket has weight in the draw, unless it was authored with one below zero. -/
theorem Bucket.drawWeight_pos_iff {bucket : Bucket R} :
    0.0 < bucket.drawWeight ↔ ¬ bucket.Negative := by
  rw [drawWeight, Scalar.zero_lt_max_iff, Negative]
  cases bucket.weight with
  | none => exact iff_of_true LawfulScalar.one_pos nofun
  | some weight =>
    simp only [Option.mem_def, Option.some.injEq, exists_eq_left', Option.bind_some]
    rw [Scalar.nonzero?]
    split
    next h =>
      -- A weight of zero counts as one, and so does one that is undefined.
      refine iff_of_true LawfulScalar.one_pos fun hnegative ↦ ?_
      obtain ⟨hnonpos, hnot⟩ := (LawfulScalar.neg_iff weight).1 hnegative
      rcases h with hzero | hnan
      · exact hnot ((LawfulScalar.beq_zero_iff weight).1 hzero).1
      · exact ((LawfulScalar.isNaN_iff weight).1 hnan).2 hnonpos
    next h =>
      rw [LawfulScalar.beq_zero_iff, LawfulScalar.isNaN_iff] at h
      rw [Option.getD_some, LawfulScalar.pos_iff, LawfulScalar.neg_iff]
      tauto

theorem Bucket.drawWeight_nonneg (bucket : Bucket R) : 0.0 ≤ bucket.drawWeight :=
  Scalar.zero_le_max _

/-- The weights of the buckets of a choice. -/
def Choice.bucketWeights {R : Type} [Scalar R] (choice : Choice R) : List R :=
  choice.results.map Bucket.drawWeight

/-- The weights of the events that may take place. -/
def Catalog.eventWeights {R : Type} [Scalar R] (catalog : Catalog R) (showTests : Bool)
    (life : Life R) : List R :=
  (catalog.eligible showTests life).map fun e ↦ (e.weighted life).weight

omit [LawfulScalar R] in
theorem Bucket.map_weight_weightedAll (buckets : List (Bucket R)) :
    (weightedAll buckets).map Weighted.weight = buckets.map drawWeight := by
  refine List.ext_getElem? fun position ↦ ?_
  rw [weightedAll, List.getElem?_map, List.getElem?_mapIdx, List.getElem?_map, Option.map_map]
  rfl

/-- The draw of a bucket, where one was not authored with a weight below zero. -/
theorem Choice.resolve_negative_iff {choice : Choice R}
    (h : ∃ bucket ∈ choice.results, ¬ bucket.Negative) (source : Counted G) :
    ∃ position bucket, (choice.resolve source).1.bucket = some position ∧
      choice.results[position]? = some bucket ∧
      (Draw.Strays choice.bucketWeights (Draw.rollOf choice.bucketWeights source) ↔
        bucket.Negative) := by
  obtain ⟨sound, hsound, hpositive⟩ := h
  have hweights := Bucket.map_weight_weightedAll choice.results
  have hnonneg : ∀ w ∈ choice.results.map Bucket.drawWeight, 0.0 ≤ w :=
    List.forall_mem_map.2 fun bucket _ ↦ bucket.drawWeight_nonneg
  have hpos : ∃ w ∈ choice.results.map Bucket.drawWeight, 0.0 < w :=
    ⟨_, List.mem_map_of_mem hsound, Bucket.drawWeight_pos_iff.2 hpositive⟩
  rw [← hweights] at hnonneg hpos
  obtain ⟨position, candidate, hdraw, hget, hstrays⟩ :=
    Trace.draw_weightless_iff "results" hnonneg hpos source
  rw [Bucket.weightedAll, List.getElem?_mapIdx] at hget
  obtain ⟨bucket, hbucket, rfl⟩ := Option.map_eq_some_iff.1 hget
  refine ⟨position, bucket, ?_, hbucket, ?_⟩
  · rw [resolve_eq (List.ne_nil_of_mem hsound), drawBucket, hdraw]
    rfl
  · rw [bucketWeights, ← hweights, hstrays, Bucket.drawWeight_pos_iff, not_not]

/-- The draw of an event, where one has weight. -/
theorem Catalog.drawEvent_weightless_iff {catalog : Catalog R} {showTests : Bool} {life : Life R}
    (h : ∃ event ∈ catalog.eligible showTests life, 0.0 < (event.weighted life).weight)
    (source : Counted G) :
    ∃ event ∈ catalog.eligible showTests life,
      (catalog.drawEvent showTests life source).1 = some event ∧
      (Draw.Strays (catalog.eventWeights showTests life)
        (Draw.rollOf (catalog.eventWeights showTests life) source) ↔
          ¬ 0.0 < (event.weighted life).weight) := by
  obtain ⟨likely, hlikely, hpositive⟩ := h
  have hweights : ((catalog.eligible showTests life).map (·.weighted life)).map Weighted.weight =
      catalog.eventWeights showTests life := List.map_map
  have hnonneg : ∀ w ∈ catalog.eventWeights showTests life, 0.0 ≤ w :=
    List.forall_mem_map.2 fun event _ ↦ Scalar.zero_le_max _
  have hpos : ∃ w ∈ catalog.eventWeights showTests life, 0.0 < w :=
    ⟨_, List.mem_map_of_mem hlikely, hpositive⟩
  rw [← hweights] at hnonneg hpos
  obtain ⟨position, candidate, hdraw, hget, hstrays⟩ :=
    Trace.draw_weightless_iff "events" hnonneg hpos source
  rw [List.getElem?_map] at hget
  obtain ⟨event, hevent, rfl⟩ := Option.map_eq_some_iff.1 hget
  refine ⟨event, List.mem_of_getElem? hevent, ?_, ?_⟩
  · rw [drawEvent]
    exact (congrArg (Option.bind · _) hdraw).trans hevent
  · rw [← hweights]
    exact hstrays

end Candidates

/-! ### Exact arithmetic -/

namespace Draw

variable {G : Type} [RandomSource G] {weights : List ℚ}

/-- A roll that is not above the sum of the weights is used up by them. -/
theorem usesUp_of_le_sum {roll : ℚ} (hne : weights ≠ []) (h : roll ≤ Scalar.sum weights) :
    UsesUp weights roll := by
  induction weights generalizing roll with
  | nil => exact absurd rfl hne
  | cons weight more ih =>
    rw [Scalar.sum_eq_sum, List.sum_cons, ← Scalar.sum_eq_sum] at h
    rcases eq_or_ne more [] with rfl | hmore
    · refine .inl ?_
      rw [Scalar.zero_eq_zero, sub_nonpos]
      exact h.trans_eq (add_zero weight)
    · exact .inr (ih hmore (sub_le_iff_le_add'.2 h))

/-- What is drawn as a fraction is not negative, and less than one. -/
theorem unit_mem_Ico (source : Counted G) : (source.unit ℚ).1 ∈ Set.Ico 0 1 := by
  have hword : (source.next64.1 >>> 11).toNat < 2 ^ 53 := by
    have hlt := source.next64.1.toNat_lt
    rw [UInt64.toNat_shiftRight]
    show source.next64.1.toNat >>> 11 < 2 ^ 53
    rw [Nat.shiftRight_eq_div_pow]
    omega
  show ((source.next64.1 >>> 11).toNat : ℚ) / 2 ^ 53 ∈ _
  refine ⟨by positivity, ?_⟩
  rw [div_lt_one (by positivity)]
  exact_mod_cast hword

/-- In exact arithmetic only the smallest draw strays, and only to a first candidate without
weight. -/
theorem strays_iff (hnonneg : ∀ w ∈ weights, 0 ≤ w) (htotal : 0 < Scalar.sum weights)
    (source : Counted G) :
    Strays weights (rollOf weights source) ↔
      (source.unit ℚ).1 = 0 ∧ weights.head? = some 0 := by
  obtain ⟨hunit, hless⟩ := unit_mem_Ico source
  have hroll : rollOf weights source ≤ Scalar.sum weights :=
    mul_le_of_le_one_left htotal.le hless.le
  have hused : UsesUp weights (rollOf weights source) := by
    refine usesUp_of_le_sum ?_ hroll
    rintro rfl
    exact lt_irrefl _ htotal
  have hsmallest : rollOf weights source ≤ 0.0 ↔ (source.unit ℚ).1 = 0 := by
    rw [Scalar.zero_eq_zero, rollOf]
    constructor
    · exact fun hle ↦ le_antisymm (nonpos_of_mul_nonpos_left hle htotal) hunit
    · intro hzero
      rw [hzero, zero_mul]
  rw [Strays, or_iff_left fun hleft ↦ hleft.1 hused, hsmallest]
  refine and_congr_right fun _ ↦ ?_
  cases weights with
  | nil => exact iff_of_false nofun nofun
  | cons first more =>
    rw [Scalar.zero_eq_zero, List.head?_cons, Option.some.injEq]
    simp only [Option.mem_def, Option.some.injEq, exists_eq_left', not_lt]
    exact (hnonneg first List.mem_cons_self).ge_iff_eq'

/-- **Candidates without weight win only where the walk strays.** For quantities that keep the laws
about zero, those of double precision among them, and for every source:
* by weights that are not negative and have a positive sum something is drawn, and it has no weight
  exactly if the walk strays with the roll;
* a choice of which some bucket was not authored with a weight below zero comes to a bucket, and it
  was authored with one exactly if the walk along the buckets strays;
* where some event that may take place has weight, one of them is drawn, and it has no weight
  exactly if the walk along the events strays;
* in exact arithmetic the walk strays exactly if the smallest fraction is drawn and the first
  candidate has no weight. -/
theorem weightless_candidates_win_only_astray {R : Type} [Scalar R] [LawfulScalar R] :
    (∀ (weights : List R) (source : Counted G), (∀ w ∈ weights, 0.0 ≤ w) →
      0.0 < Scalar.sum weights →
      ∃ position weight, (byWeight weights source).1 = some (position, rollOf weights source) ∧
        weights[position]? = some weight ∧
        (Strays weights (rollOf weights source) ↔ ¬ 0.0 < weight)) ∧
    (∀ (choice : Choice R) (source : Counted G), (∃ bucket ∈ choice.results, ¬ bucket.Negative) →
      ∃ position bucket, (choice.resolve source).1.bucket = some position ∧
        choice.results[position]? = some bucket ∧
        (Strays choice.bucketWeights (rollOf choice.bucketWeights source) ↔ bucket.Negative)) ∧
    (∀ (catalog : Catalog R) (showTests : Bool) (life : Life R) (source : Counted G),
      (∃ event ∈ catalog.eligible showTests life, 0.0 < (event.weighted life).weight) →
      ∃ event ∈ catalog.eligible showTests life,
        (catalog.drawEvent showTests life source).1 = some event ∧
        (Strays (catalog.eventWeights showTests life)
          (rollOf (catalog.eventWeights showTests life) source) ↔
            ¬ 0.0 < (event.weighted life).weight)) ∧
    ∀ (weights : List ℚ) (source : Counted G), (∀ w ∈ weights, 0 ≤ w) → 0 < Scalar.sum weights →
      (Strays weights (rollOf weights source) ↔
        (source.unit ℚ).1 = 0 ∧ weights.head? = some 0) :=
  ⟨fun _ source hnonneg htotal ↦ byWeight_weightless_iff hnonneg htotal source,
    fun _ source h ↦ Choice.resolve_negative_iff h source,
    fun _ _ _ source h ↦ Catalog.drawEvent_weightless_iff h source,
    fun _ source hnonneg htotal ↦ strays_iff hnonneg htotal source⟩

/-- A bucket that was authored with a weight below zero, and one that was not. -/
def lost : Bucket Float := ⟨some (-1.0), [], some "Lost"⟩

/-- A way out that alone has a weight. -/
def won : Bucket Float := ⟨some 1.0, [], some "Won"⟩

/-- A choice that can be lost or won, where losing has no weight. -/
def wager : Choice Float := { Choice.plain (some "bet") "Bet" with results := [lost, won] }

/-- An event that a life may be sheltered from. -/
def storm : Event Float := ⟨"storm", "Storm", "", [], [], [], none, false, false⟩

/-- Storms and calms. -/
def weather : Catalog Float :=
  { Catalog.ofBase .empty with
    events := [storm, ⟨"calm", "Calm", "", [], [], [], none, false, false⟩] }

/-- A life in which a storm has no weight. -/
def sheltered : Life Float := { Life.fresh 50 with eventModifiers := [⟨"storm", 0.0, 3⟩] }

/-- Half a roll wins the wager, and brings no storm. -/
theorem half_a_roll_wins_the_wager :
    let half : Counted Stepper := .fresh ⟨0x8000000000000000, 0⟩
    (∃ position weight, (byWeight [0.0, 1.0] half).1 = some (position, rollOf [0.0, 1.0] half) ∧
      ([0.0, 1.0] : List Float)[position]? = some weight ∧ 0.0 < weight) ∧
    (∃ position bucket, (wager.resolve half).1.bucket = some position ∧
      wager.results[position]? = some bucket ∧ ¬ bucket.Negative) ∧
    (∃ event ∈ weather.eligible false sheltered,
      (weather.drawEvent false sheltered half).1 = some event ∧
        0.0 < (event.weighted sheltered).weight) ∧
    ¬ Strays ([0, 1] : List ℚ) (rollOf [0, 1] half) := by
  intro half
  obtain ⟨hweights, hbuckets, hevents, hexact⟩ :=
    weightless_candidates_win_only_astray (R := Float) (G := Stepper)
  refine ⟨?_, ?_, ?_, ?_⟩
  · obtain ⟨position, weight, hdraw, hget, hstrays⟩ :=
      hweights [0.0, 1.0] half (by decide +kernel) (by decide +kernel)
    refine ⟨position, weight, hdraw, hget, not_not.1 fun hweightless ↦ ?_⟩
    exact absurd (hstrays.2 hweightless) (by decide +kernel)
  · obtain ⟨position, bucket, hbucket, hget, hstrays⟩ :=
      hbuckets wager half ⟨won, by simp [wager], by decide +kernel⟩
    refine ⟨position, bucket, hbucket, hget, fun hnegative ↦ ?_⟩
    exact absurd (hstrays.2 hnegative) (by decide +kernel)
  · obtain ⟨event, hevent, hdraw, hstrays⟩ :=
      hevents weather false sheltered half (by decide +kernel)
    refine ⟨event, hevent, hdraw, not_not.1 fun hweightless ↦ ?_⟩
    exact absurd (hstrays.2 hweightless) (by decide +kernel)
  · rw [hexact [0, 1] half (by decide) (by decide +kernel)]
    exact fun h ↦ absurd h.1 (by decide +kernel)

/-- The smallest roll loses the wager and brings a storm: what has no weight wins, though something
else has weight. -/
theorem smallest_roll_loses_the_wager :
    let smallest : Counted Stepper := .fresh ⟨0, 0⟩
    ((byWeight ([0.0, 1.0] : List Float) smallest).1.map Prod.fst = some 0 ∧
      0.0 < Scalar.sum ([0.0, 1.0] : List Float)) ∧
    ((wager.resolve smallest).1.bucket = some 0 ∧ lost.Negative ∧ ¬ won.Negative) ∧
    ((weather.drawEvent false sheltered smallest).1.map Event.id = some "storm" ∧
      ¬ 0.0 < (storm.weighted sheltered).weight ∧
      ∃ event ∈ weather.eligible false sheltered, 0.0 < (event.weighted sheltered).weight) := by
  decide +kernel

end Draw

end LifeStory
