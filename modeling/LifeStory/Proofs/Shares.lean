import LifeStory.Proofs.Draws
import LifeStory.Scalar.Rational
import Mathlib

/-!
# Draws in proportion to the weights

In exact arithmetic the walk of a weighted draw is fair. The weights, laid end to end, divide the
rolls above zero and up to their sum: each position gets the rolls that are above the weights before
it (`Draw.before`) and not above those with its own (`Draw.pickByRoll_eq_some_iff`). So the rolls
that lead to a position fill an interval that is as long as its weight, and the intervals cover all
rolls without overlapping.

The walk takes weight after weight off the roll, so the induction is on the weights with the roll
that is left. That it falls back on the last position makes no difference: up to their sum the roll
is used up by then.
-/

namespace LifeStory

/-- In exact arithmetic the order of the summands is of no account. -/
theorem Scalar.sum_eq_sum (xs : List ℚ) : Scalar.sum xs = xs.sum := by
  have hfrom : ∀ start : ℚ, xs.foldl (· + ·) start = start + xs.sum := by
    induction xs with
    | nil => exact fun start ↦ (add_zero start).symm
    | cons x rest ih =>
      intro start
      rw [List.foldl_cons, ih, List.sum_cons, add_assoc]
  exact (hfrom 0).trans (zero_add xs.sum)

namespace Draw

/-- The weights before a position, together. -/
def before (weights : List ℚ) (position : Nat) : ℚ := Scalar.sum (weights.take position)

variable {weights : List ℚ} {weight roll : ℚ} {position : Nat}

@[simp] theorem before_zero (weights : List ℚ) : before weights 0 = 0 := rfl

@[simp] theorem before_length (weights : List ℚ) :
    before weights weights.length = Scalar.sum weights := by
  rw [before, List.take_length]

theorem before_cons_succ (weight : ℚ) (weights : List ℚ) (position : Nat) :
    before (weight :: weights) (position + 1) = weight + before weights position := by
  simp only [before, Scalar.sum_eq_sum, List.take_succ_cons, List.sum_cons]

/-- The weights before the next position are those before the position, and its own. -/
theorem before_succ (h : position < weights.length) :
    before weights (position + 1) = before weights position + weights[position] := by
  simp only [before, Scalar.sum_eq_sum, List.take_succ_eq_append_getElem h, List.sum_append,
    List.sum_singleton]

/-- What comes before a position is no more than what comes before a later one. -/
theorem before_mono (h : ∀ w ∈ weights, 0 ≤ w) : Monotone (before weights) := by
  refine monotone_nat_of_le_succ fun position ↦ ?_
  rcases Nat.lt_or_ge position weights.length with hlt | hge
  · rw [before_succ hlt]
    exact le_add_of_nonneg_right (h _ (List.getElem_mem hlt))
  · rw [before, before, List.take_of_length_le hge, List.take_of_length_le (Nat.le_succ_of_le hge)]

/-! ### The walk -/

/-- The first weight takes the roll if it is not smaller, and else is taken off it. -/
theorem pickByRoll_cons {more : List ℚ} (hmore : more ≠ []) :
    pickByRoll (weight :: more) roll =
      if roll ≤ weight then some 0 else (pickByRoll more (roll - weight)).map (· + 1) := by
  rw [pickByRoll]
  · rw [Scalar.zero_eq_zero]
    simp only [sub_nonpos]
  · exact hmore

theorem before_nonneg (h : ∀ w ∈ weights, 0 ≤ w) (position : Nat) : 0 ≤ before weights position :=
  before_mono h (Nat.zero_le position)

/-- **The walk leads to the position whose weights the roll falls into.** -/
theorem pickByRoll_eq_some_iff (h : ∀ w ∈ weights, 0 ≤ w) (hpositive : 0 < roll)
    (hwithin : roll ≤ Scalar.sum weights) :
    pickByRoll weights roll = some position ↔
      position < weights.length ∧ before weights position < roll ∧
        roll ≤ before weights (position + 1) := by
  induction weights generalizing roll position with
  | nil => exact absurd hwithin (not_le.2 hpositive)
  | cons weight more ih =>
    obtain ⟨hweight, hmore⟩ := List.forall_mem_cons.1 h
    rw [Scalar.sum_eq_sum, List.sum_cons, ← Scalar.sum_eq_sum] at hwithin
    rw [before_cons_succ, List.length_cons]
    by_cases hused : roll ≤ weight
    -- The first weight takes the roll, and those after it do not get any.
    · have hfirst : pickByRoll (weight :: more) roll = some 0 := by
        rcases eq_or_ne more [] with rfl | hne
        · rfl
        · rw [pickByRoll_cons hne, if_pos hused]
      rw [hfirst]
      cases position with
      | zero => simpa using ⟨hpositive, hused⟩
      | succ further =>
        refine iff_of_false nofun fun ⟨_, hbefore, _⟩ ↦ ?_
        rw [before_cons_succ] at hbefore
        linarith [before_nonneg hmore further]
    -- What is left of the roll goes to the others.
    · have hne : more ≠ [] := by
        rintro rfl
        rw [Scalar.sum_eq_sum, List.sum_nil, add_zero] at hwithin
        exact hused hwithin
      rw [pickByRoll_cons hne, if_neg hused]
      cases position with
      | zero =>
        refine iff_of_false ?_ fun ⟨_, _, hreached⟩ ↦ hused ?_
        · simp
        · rwa [before_zero, add_zero] at hreached
      | succ further =>
        have hleft : 0 < roll - weight := sub_pos.2 (not_le.1 hused)
        have hrest : roll - weight ≤ Scalar.sum more := sub_le_iff_le_add'.2 hwithin
        rw [before_cons_succ, Option.map_eq_some_iff]
        simp only [Nat.add_right_cancel_iff, exists_eq_right, ih hmore hleft hrest,
          Nat.succ_lt_succ_iff, lt_sub_iff_add_lt', sub_le_iff_le_add']

/-! ### The shares of the positions -/

/-- The rolls that lead to a position. -/
def share (weights : List ℚ) (position : Nat) : Set ℚ :=
  {roll | 0 < roll ∧ roll ≤ Scalar.sum weights ∧ pickByRoll weights roll = some position}

theorem before_le_sum (h : ∀ w ∈ weights, 0 ≤ w) (position : Nat) :
    before weights position ≤ Scalar.sum weights := by
  rcases Nat.le_total position weights.length with hle | hge
  · exact (before_mono h hle).trans_eq (before_length weights)
  · rw [before, List.take_of_length_le hge]

/-- **A share is an interval**, from the weights before the position to those with its own. -/
theorem share_eq_Ioc (h : ∀ w ∈ weights, 0 ≤ w) (hposition : position < weights.length) :
    share weights position = Set.Ioc (before weights position) (before weights (position + 1)) := by
  ext roll
  constructor
  · rintro ⟨hpositive, hwithin, hpick⟩
    exact ((pickByRoll_eq_some_iff h hpositive hwithin).1 hpick).2
  · rintro ⟨hbefore, hreached⟩
    have hpositive := (before_nonneg h position).trans_lt hbefore
    have hwithin := hreached.trans (before_le_sum h (position + 1))
    exact ⟨hpositive, hwithin,
      (pickByRoll_eq_some_iff h hpositive hwithin).2 ⟨hposition, hbefore, hreached⟩⟩

/-- A larger roll leads no less far. -/
theorem pickByRoll_mono (h : ∀ w ∈ weights, 0 ≤ w) {other : ℚ} {further : Nat}
    (hroll : roll ∈ share weights position) (hother : other ∈ share weights further)
    (hle : roll ≤ other) : position ≤ further := by
  obtain ⟨hpositive, hwithin, hpick⟩ := hroll
  obtain ⟨hpositive', hwithin', hpick'⟩ := hother
  obtain ⟨-, hbefore, -⟩ := (pickByRoll_eq_some_iff h hpositive hwithin).1 hpick
  obtain ⟨-, -, hreached⟩ := (pickByRoll_eq_some_iff h hpositive' hwithin').1 hpick'
  by_contra hlt
  have hmono := before_mono h (Nat.succ_le_of_lt (Nat.lt_of_not_le hlt))
  exact absurd (hbefore.trans_le (hle.trans (hreached.trans hmono))) (lt_irrefl _)

/-- **Weighted draws are proportional.** In exact arithmetic, where no weight is negative and their
sum is positive:
* a roll above zero and up to the sum leads to the one position whose interval it is in, that is the
  rolls above the weights before the position and not above those with its own;
* the rolls that lead to a position fill that interval, which is as long as the weight is;
* the intervals do not overlap, and cover all rolls above zero and up to the sum;
* a larger roll leads no less far. -/
theorem draws_are_proportional (h : ∀ w ∈ weights, 0 ≤ w) (htotal : 0 < Scalar.sum weights) :
    (∀ roll, 0 < roll → roll ≤ Scalar.sum weights →
      ∃ position, pickByRoll weights roll = some position ∧
        ∀ other, other < weights.length ∧ before weights other < roll ∧
          roll ≤ before weights (other + 1) ↔ other = position) ∧
    (∀ (position : Nat) (hposition : position < weights.length),
      share weights position =
        Set.Ioc (before weights position) (before weights (position + 1)) ∧
      before weights (position + 1) - before weights position = weights[position]) ∧
    Pairwise (fun a b ↦ Disjoint (share weights a) (share weights b)) ∧
    (⋃ position, share weights position) = Set.Ioc 0 (Scalar.sum weights) ∧
    ∀ roll other, 0 < roll → roll ≤ other → other ≤ Scalar.sum weights →
      ∃ position further, pickByRoll weights roll = some position ∧
        pickByRoll weights other = some further ∧ position ≤ further := by
  have hne : weights ≠ [] := by
    rintro rfl
    exact lt_irrefl _ htotal
  refine ⟨fun roll hpositive hwithin ↦ ?_, fun position hposition ↦ ⟨share_eq_Ioc h hposition, ?_⟩,
    fun a b hab ↦ ?_, ?_, fun roll other hpositive hle hwithin ↦ ?_⟩
  · obtain ⟨position, hpick⟩ := exists_pickByRoll hne roll
    refine ⟨position, hpick, fun other ↦ ?_⟩
    rw [← pickByRoll_eq_some_iff h hpositive hwithin, hpick, Option.some.injEq, eq_comm]
  · rw [before_succ hposition, add_sub_cancel_left]
  · refine Set.disjoint_left.2 fun roll ha hb ↦ hab ?_
    exact Option.some.inj (ha.2.2.symm.trans hb.2.2)
  · ext roll
    constructor
    · intro hmem
      obtain ⟨position, hpositive, hwithin, -⟩ := Set.mem_iUnion.1 hmem
      exact ⟨hpositive, hwithin⟩
    · rintro ⟨hpositive, hwithin⟩
      obtain ⟨position, hpick⟩ := exists_pickByRoll hne roll
      exact Set.mem_iUnion.2 ⟨position, hpositive, hwithin, hpick⟩
  · obtain ⟨position, hpick⟩ := exists_pickByRoll hne roll
    obtain ⟨further, hfurther⟩ := exists_pickByRoll hne other
    exact ⟨position, further, hpick, hfurther,
      pickByRoll_mono h ⟨hpositive, hle.trans hwithin, hpick⟩
        ⟨hpositive.trans_le hle, hwithin, hfurther⟩ hle⟩

/-- Of the weights one, zero and three, the second gets no roll, and the third those above one and
up to four. -/
theorem third_weight_gets_three_quarters :
    share [1, 0, 3] 1 = ∅ ∧ share [1, 0, 3] 2 = Set.Ioc 1 4 := by
  have hweights : ∀ w ∈ ([1, 0, 3] : List ℚ), 0 ≤ w := by decide
  have htotal : 0 < Scalar.sum ([1, 0, 3] : List ℚ) := by decide +kernel
  obtain ⟨-, hshares, -⟩ := draws_are_proportional hweights htotal
  have hone : before [1, 0, 3] 1 = 1 := by decide +kernel
  have htwo : before [1, 0, 3] 2 = 1 := by decide +kernel
  have hthree : before [1, 0, 3] 3 = 4 := by decide +kernel
  rw [(hshares 1 (by decide)).1, (hshares 2 (by decide)).1, hone, htwo, hthree]
  exact ⟨Set.Ioc_self 1, rfl⟩

end Draw

end LifeStory
