import LifeStory.Proofs.Draws
import LifeStory.Proofs.FiniteNumbers
import LifeStory.Scalar.Float
import LifeStory.Scalar.Rational
import Mathlib

/-!
# The sides of zero

Few laws of arithmetic survive rounding. Those that do say on which side of zero a quantity is: what
is compared with zero is above it, below it, equal to it or undefined; quantities that are not
negative have a sum that is not negative, and that is above zero if one of them is; and to take off
zero moves nothing to the other side. These are the laws of `LawfulScalar`, which exact arithmetic
and double precision share.

For double precision they come down to the format. A number is on the side of zero that its sign
tells (`Double.side`), and to pack a number leaves it there, provided that its mantissa is not zero
after it is rounded (`Double.side_pack`). A sum is rounded at an exponent that is no smaller than
those of its summands, so that nothing of it is lost at the low end of the format
(`Double.side_round`).
-/

namespace LifeStory

/-- Laws about zero that hold of quantities also where they are rounded. -/
class LawfulScalar (R : Type) [Scalar R] : Prop where
  isNaN_iff (x : R) : Scalar.isNaN x = true ↔ ¬ (0.0 : R) ≤ x ∧ ¬ x ≤ 0.0
  pos_iff (x : R) : 0.0 < x ↔ 0.0 ≤ x ∧ ¬ x ≤ 0.0
  neg_iff (x : R) : x < 0.0 ↔ x ≤ 0.0 ∧ ¬ 0.0 ≤ x
  beq_zero_iff (x : R) : (x == 0.0) = true ↔ 0.0 ≤ x ∧ x ≤ 0.0
  zero_nonneg : (0.0 : R) ≤ 0.0
  one_pos : (0.0 : R) < 1.0
  nothing_nonneg : (0.0 : R) ≤ Scalar.nothing
  nothing_nonpos : Scalar.nothing ≤ (0.0 : R)
  add_nonneg {x y : R} : 0.0 ≤ x → 0.0 ≤ y → 0.0 ≤ x + y
  add_pos {x y : R} : 0.0 ≤ x → 0.0 ≤ y → 0.0 < x ∨ 0.0 < y → 0.0 < x + y
  /-- To take off zero moves nothing to the other side. -/
  sub_le_zero_iff {x w : R} : 0.0 ≤ w → w ≤ 0.0 → (x - w ≤ 0.0 ↔ x ≤ 0.0)

/-- What is above one is above zero. -/
class LawfulUnit (R : Type) [Scalar R] : Prop extends LawfulScalar R where
  pos_of_one_lt {x : R} : 1.0 < x → 0.0 < x

/-! ### Double precision -/

namespace Double

open Float.Model Float.Model.UnpackedFloat

/-- The side of zero that a sign stands for. -/
def sideOf : Sign → Ordering
  | .positive => .gt
  | .negative => .lt

/-- How a number compares with zero. -/
def side : UnpackedFloat → Option Ordering
  | .notANumber => none
  | .zero _ => some .eq
  | .infinity sign => some (sideOf sign)
  | .finite sign _ _ _ => some (sideOf sign)

section Comparison

/-- To compare a number with zero gives its side. -/
theorem compare_zero (u : UnpackedFloat) : u.compare (.zero .positive) = side u := by
  rcases u with (_ | _) | _ | _ | ⟨_ | _, _⟩ <;> rfl

/-- To compare zero with a number gives its side, the other way round. -/
theorem zero_compare (u : UnpackedFloat) :
    UnpackedFloat.compare (.zero .positive) u = (side u).map Ordering.swap := by
  rcases u with (_ | _) | _ | _ | ⟨_ | _, _⟩ <;> rfl

variable {x : Float}

/-- What is not above zero is zero or below it; what is undefined is neither. -/
theorem le_zero_iff :
    x ≤ (0.0 : Float) ↔ side x.toModel.unpack = some .eq ∨ side x.toModel.unpack = some .lt := by
  refine decide_eq_true_iff.trans ?_
  show (x.toModel.unpack.compare (.zero .positive)).any Ordering.isLE = true ↔ _
  rw [compare_zero]
  rcases side x.toModel.unpack with _ | _ | _ | _ <;> decide

/-- What is not below zero is zero or above it. -/
theorem zero_le_iff :
    (0.0 : Float) ≤ x ↔ side x.toModel.unpack = some .eq ∨ side x.toModel.unpack = some .gt := by
  refine decide_eq_true_iff.trans ?_
  show (UnpackedFloat.compare (.zero .positive) x.toModel.unpack).any Ordering.isLE = true ↔ _
  rw [zero_compare]
  rcases side x.toModel.unpack with _ | _ | _ | _ <;> decide

/-- What is less than zero is on the side below it. -/
theorem lt_zero_iff : x < (0.0 : Float) ↔ side x.toModel.unpack = some .lt := by
  refine decide_eq_true_iff.trans ?_
  show (x.toModel.unpack.compare (.zero .positive) == some .lt) = true ↔ _
  rw [compare_zero, beq_iff_eq]

/-- What is more than zero is on the side above it. -/
theorem zero_lt_iff : (0.0 : Float) < x ↔ side x.toModel.unpack = some .gt := by
  refine decide_eq_true_iff.trans ?_
  show (UnpackedFloat.compare (.zero .positive) x.toModel.unpack == some .lt) = true ↔ _
  rw [zero_compare]
  rcases side x.toModel.unpack with _ | _ | _ | _ <;> decide

/-- What equals zero is zero with either sign. -/
theorem beq_zero_iff : (x == (0.0 : Float)) = true ↔ side x.toModel.unpack = some .eq := by
  show (x.toModel.unpack.compare (.zero .positive) == some .eq) = true ↔ _
  rw [compare_zero, beq_iff_eq]

/-- What is above a number that is above zero is above zero. -/
theorem side_of_compare_lt {u v : UnpackedFloat} (hu : side u = some .gt)
    (h : u.compare v = some .lt) : side v = some .gt := by
  rcases u with (_ | _) | _ | _ | ⟨_ | _, _⟩ <;> cases hu <;>
    rcases v with (_ | _) | _ | _ | ⟨_ | _, _⟩ <;> first | rfl | cases h

/-- What is not a number is on no side of zero. -/
theorem isNaN_iff : x.isNaN = true ↔ side x.toModel.unpack = none := by
  show UnpackedFloat.isNaN x.toModel.unpack = true ↔ _
  rcases x.toModel.unpack with _ | _ | _ | _ <;> simp [side]

end Comparison

/-! ### Packing -/

/-- The mantissa and the exponent of a number are such that it can be packed without loss. -/
def Packs : UnpackedFloat → Prop
  | .finite _ mantissa exponent _ => mantissa < 2 ^ 53 ∧ -1074 ≤ exponent
  | _ => True

/-- What is read from a packed number: its sign, unless its other parts tell more. -/
theorem side_unpack_packComponents {spec : Format} (sign : Sign)
    (exponent : BitVec spec.exponentBits) (mantissa : BitVec spec.mantissaBitsWithoutImplicit) :
    side (UnpackedFloat.unpack spec (packComponents spec sign exponent mantissa)) =
      if exponent = -1#_ then if mantissa = 0#_ then some (sideOf sign) else none
      else if exponent = 0#_ ∧ mantissa = 0#_ then some .eq else some (sideOf sign) := by
  rw [UnpackedFloat.unpack]
  simp only [unpackExponent_packComponents, unpackMantissa_packComponents,
    unpackSign_packComponents, Sign.ofBitVec_toBitVec]
  by_cases hones : exponent = -1#_
  · simp only [hones, if_true]
    split <;> rfl
  · simp only [hones, if_false]
    by_cases hzero : exponent = 0#_
    · simp only [hzero, if_true, true_and]
      split <;> rfl
    · simp only [hzero, if_false, false_and]
      rfl

/-- An infinity is on the side of its sign. -/
theorem side_unpack_packedInfinity {spec : Format} (sign : Sign) :
    side (UnpackedFloat.unpack spec (packedInfinity spec sign)) = some (sideOf sign) := by
  rw [packedInfinity, side_unpack_packComponents, if_pos rfl]
  exact if_pos rfl

/-- What is read from the bits of a number can be packed again without loss. -/
theorem packs_unpackBits (bits : BitVec Format.binary64.numBits) :
    Packs (UnpackedFloat.unpack Format.binary64 bits) := by
  have hmantissa : (unpackMantissa bits).toNat < 2 ^ 52 := (unpackMantissa bits).isLt
  rw [UnpackedFloat.unpack]
  by_cases hones : unpackExponent bits = -1#_
  · rw [if_pos hones]
    split <;> trivial
  · rw [if_neg hones]
    by_cases hzero : unpackExponent bits = 0#_
    · rw [if_pos hzero]
      split
      · trivial
      · refine ⟨Nat.lt_trans hmantissa (by decide), ?_⟩
        show -1074 ≤ ((unpackExponent bits).toNat : Int) - (1023 + 52) + 1
        omega
    · rw [if_neg hzero]
      have hpos : (unpackExponent bits).toNat ≠ 0 := fun h ↦ hzero (BitVec.eq_of_toNat_eq h)
      refine ⟨(1#1 ++ unpackMantissa bits).isLt, ?_⟩
      show -1074 ≤ ((unpackExponent bits).toNat : Int) - (1023 + 52)
      omega

theorem packs_unpack (m : Float.Model) : Packs m.unpack := packs_unpackBits m.toBits.toBitVec

/-- **Packing leaves a number on its side of zero.** -/
theorem side_pack {u : UnpackedFloat} (h : Packs u) : side (pack u).unpack = side u := by
  show side (UnpackedFloat.unpack Format.binary64 (UnpackedFloat.pack Format.binary64 u)) = side u
  cases u with
  | notANumber => rw [UnpackedFloat.pack, unpack_packedNaN]
  | infinity sign => exact side_unpack_packedInfinity sign
  | zero sign =>
    rw [UnpackedFloat.pack, unpack_packedZero]
  | finite sign mantissa exponent hpos =>
    obtain ⟨hmantissa, hexponent⟩ := h
    -- The exponent as it is packed, which has eleven bits.
    obtain ⟨biased, hbiased⟩ : ∃ biased, biased = (exponent + Format.binary64.exponentBias +
      Format.binary64.mantissaBitsWithoutImplicit).toNat := ⟨_, rfl⟩
    have hroom : 1 ≤ biased := by
      have hsum : biased = (exponent + 1023 + 52).toNat := hbiased
      omega
    delta UnpackedFloat.pack
    dsimp only
    rw [← hbiased]
    by_cases hlarge : 2 ^ Format.binary64.exponentBits ≤ biased + 1
    · rw [if_pos hlarge]
      exact side_unpack_packedInfinity sign
    have hbound : biased < 2047 := Nat.lt_of_succ_lt_succ (Nat.lt_of_not_le hlarge)
    rw [if_neg hlarge]
    by_cases hfull : mantissa.log2 + 1 = Format.binary64.mantissaBits
    · have hones : BitVec.ofNat Format.binary64.exponentBits biased ≠ -1#_ := by
        intro heq
        have hnat : biased % 2048 = 2047 := congrArg BitVec.toNat heq
        omega
      have hzero : BitVec.ofNat Format.binary64.exponentBits biased ≠ 0#_ := by
        intro heq
        have hnat : biased % 2048 = 0 := congrArg BitVec.toNat heq
        omega
      rw [if_pos hfull, side_unpack_packComponents, if_neg hones, if_neg fun h ↦ hzero h.1]
      rfl
    · have hsmall : mantissa < 2 ^ 52 := by
        refine (Nat.log2_lt (Nat.ne_of_gt hpos)).1 ?_
        have hlog : mantissa.log2 < 53 := (Nat.log2_lt (Nat.ne_of_gt hpos)).2 hmantissa
        exact Nat.lt_of_le_of_ne (Nat.le_of_lt_succ hlog) fun h ↦ hfull (congrArg (· + 1) h)
      have hzero : BitVec.ofNat Format.binary64.mantissaBitsWithoutImplicit mantissa ≠ 0#_ := by
        intro heq
        have hnat : mantissa % 2 ^ 52 = 0 := congrArg BitVec.toNat heq
        rw [Nat.mod_eq_of_lt hsmall] at hnat
        exact Nat.ne_of_gt hpos hnat
      rw [if_neg hfull, side_unpack_packComponents, if_neg (by decide), if_neg fun h ↦ hzero h.2]
      rfl

/-! ### Rounding -/

/-- To shift right one by one divides the mantissa by a power of two. -/
theorem mantissa_repeat (count : Nat) (em : ExtendedMantissa) :
    (count.repeat ExtendedMantissa.shiftRightOne em).mantissa = em.mantissa / 2 ^ count := by
  induction count with
  | zero => exact (Nat.div_one _).symm
  | succ count ih =>
    show (count.repeat ExtendedMantissa.shiftRightOne em).mantissa / 2 = _
    rw [ih, Nat.div_div_eq_div_mul, Nat.pow_succ]

/-- Rounding does not take anything off the mantissa. -/
theorem le_roundedMantissa (em : ExtendedMantissa) : em.mantissa ≤ em.roundedMantissa := by
  obtain ⟨mantissa, roundBit, stickyBit⟩ := em
  cases roundBit <;> cases stickyBit <;>
    simp only [ExtendedMantissa.roundedMantissa, ExtendedMantissa.accuracy,
      Accuracy.roundToNearestEven] <;> omega

/-- Shifting leaves something of a mantissa, and makes it small enough to be packed. -/
theorem shiftToTargetExponent_bounds {mantissa : Nat} {exponent : Int} (accuracy : Accuracy)
    (hpos : 0 < mantissa) (hexponent : -1074 ≤ exponent) :
    let shifted := shiftToTargetExponent Format.binary64 mantissa exponent accuracy
    0 < shifted.1.mantissa ∧ shifted.1.mantissa < 2 ^ 53 ∧ -1074 ≤ shifted.2 := by
  have hcount : (Format.binary64.targetExponent (totalExponent mantissa exponent) -
      exponent).toNat = mantissa.log2 - 52 := by
    show (max ((mantissa.log2 : Int) + 1 + exponent - 53) (-1074) - exponent).toNat = _
    omega
  have hshifted : (shiftToTargetExponent Format.binary64 mantissa exponent accuracy).1.mantissa =
      mantissa / 2 ^ (mantissa.log2 - 52) := by
    refine (mantissa_repeat _ _).trans ?_
    rw [hcount]
    rcases accuracy with _ | _ | _ | _ <;> rfl
  have hne : mantissa ≠ 0 := Nat.ne_of_gt hpos
  refine ⟨?_, ?_, ?_⟩
  · rw [hshifted]
    refine Nat.div_pos ?_ (Nat.two_pow_pos _)
    exact Nat.le_trans (Nat.pow_le_pow_right (by decide) (Nat.sub_le _ _)) (Nat.log2_self_le hne)
  · rw [hshifted]
    refine Nat.div_lt_of_lt_mul ?_
    rw [← Nat.pow_add]
    exact (Nat.log2_lt hne).1 (by omega)
  · show -1074 ≤ exponent + ((Format.binary64.targetExponent (totalExponent mantissa exponent) -
      exponent).toNat : Int)
    omega

/-- **Rounding keeps a number on its side of zero** where the exponent is not too small. -/
theorem side_roundWithAccuracy (sign : Sign) {mantissa : Nat} {exponent : Int}
    (hpos : 0 < mantissa) (hexponent : -1074 ≤ exponent) :
    let rounded := roundWithAccuracy Format.binary64 sign mantissa exponent .exact
    side rounded = some (sideOf sign) ∧ Packs rounded := by
  have hfirst := shiftToTargetExponent_bounds .exact hpos hexponent
  rw [roundWithAccuracy]
  generalize shiftToTargetExponent Format.binary64 mantissa exponent .exact = first at hfirst ⊢
  obtain ⟨em, shifted⟩ := first
  obtain ⟨hem, -, hshifted⟩ := hfirst
  dsimp only at hem hshifted ⊢
  obtain ⟨hleft, hsmall, hlow⟩ :=
    shiftToTargetExponent_bounds .exact (Nat.lt_of_lt_of_le hem (le_roundedMantissa em)) hshifted
  rw [dif_neg (Nat.ne_of_gt hleft)]
  exact ⟨rfl, hsmall, hlow⟩

/-- **Rounding keeps the side**, where the exponent is not below the least one of the format. -/
theorem side_round (sign : Sign) {mantissa : Nat} {exponent : Int} (hpos : 0 < mantissa)
    (hexponent : -1074 ≤ exponent) :
    let rounded := UnpackedFloat.round Format.binary64 sign mantissa exponent
    side rounded = some (sideOf sign) ∧ Packs rounded := by
  refine side_roundWithAccuracy sign ?_ ?_
  · show 0 < mantissa <<< _
    rw [Nat.shiftLeft_eq]
    exact Nat.mul_pos hpos (Nat.two_pow_pos _)
  · show -1074 ≤ exponent -
      ((exponent - max ((mantissa.log2 : Int) + 1 + exponent - 53) (-1074)).toNat : Int)
    omega

/-! ### Arithmetic -/

/-- The numbers that are not negative. -/
inductive Nonneg : UnpackedFloat → Prop
  | zero (sign : Sign) : Nonneg (.zero sign)
  | infinity : Nonneg (.infinity .positive)
  | finite (mantissa : Nat) (exponent : Int) (h : 0 < mantissa) :
    Nonneg (.finite .positive mantissa exponent h)

theorem nonneg_iff {u : UnpackedFloat} :
    Nonneg u ↔ side u = some .eq ∨ side u = some .gt := by
  constructor
  · rintro (_ | _ | _)
    · exact .inl rfl
    · exact .inr rfl
    · exact .inr rfl
  · intro h
    cases u with
    | notANumber => simp [side] at h
    | zero sign => exact .zero sign
    | infinity sign =>
      cases sign with
      | positive => exact .infinity
      | negative => simp [side, sideOf] at h
    | finite sign mantissa exponent hpos =>
      cases sign with
      | positive => exact .finite mantissa exponent hpos
      | negative => simp [side, sideOf] at h

/-- To normalize what is positive gives a number above zero, and one that packs. -/
theorem side_normalize (mantissa : Nat) {exponent : Int} (hpos : 0 < mantissa)
    (hexponent : -1074 ≤ exponent) :
    let normalized := UnpackedFloat.normalize Format.binary64 mantissa exponent .positive
    side normalized = some .gt ∧ Packs normalized := by
  have hcompare : compare (mantissa : Int) 0 = .gt := Int.compare_eq_gt.2 (by omega)
  rw [UnpackedFloat.normalize, hcompare]
  exact side_round .positive hpos hexponent

/-- What is not negative adds up to what is not negative, and to something if there is anything. -/
theorem side_add {u v : UnpackedFloat} (hu : Packs u) (hv : Packs v) (hunonneg : Nonneg u)
    (hvnonneg : Nonneg v) :
    let sum := UnpackedFloat.add Format.binary64 u v
    side sum = (if side u = some .gt ∨ side v = some .gt then some .gt else some .eq) ∧
      Packs sum := by
  cases hunonneg with
  | zero sign =>
    cases hvnonneg with
    | zero other => cases sign <;> cases other <;> exact ⟨rfl, trivial⟩
    | infinity => exact ⟨rfl, trivial⟩
    | finite => exact ⟨rfl, hv⟩
  | infinity => cases hvnonneg <;> exact ⟨rfl, trivial⟩
  | finite mantissa exponent hpos =>
    cases hvnonneg with
    | zero => exact ⟨rfl, hu⟩
    | infinity => exact ⟨rfl, trivial⟩
    | finite other further hother =>
      -- Both are written with the smaller exponent, and their mantissas are added.
      have hmin : -1074 ≤ min exponent further := le_min hu.2 hv.2
      refine side_normalize (mantissa <<< (exponent - min exponent further).toNat +
        other <<< (further - min exponent further).toNat) ?_ hmin
      rw [Nat.shiftLeft_eq]
      exact Nat.add_pos_left (Nat.mul_pos hpos (Nat.two_pow_pos _)) _

/-- To take off zero leaves a number where it is. -/
theorem side_sub_zero {u : UnpackedFloat} (hu : Packs u) (sign : Sign) :
    let difference := UnpackedFloat.sub Format.binary64 u (.zero sign)
    side difference = side u ∧ Packs difference := by
  cases u with
  | zero other => cases sign <;> cases other <;> exact ⟨rfl, trivial⟩
  | _ => exact ⟨rfl, hu⟩

/-- What is neither above zero nor below it, but a number, is a zero with some sign. -/
theorem exists_zero_of_side {u : UnpackedFloat} (h : side u = some .eq) :
    ∃ sign, u = .zero sign := by
  cases u with
  | zero sign => exact ⟨sign, rfl⟩
  | notANumber => simp [side] at h
  | infinity sign => cases sign <;> simp [side, sideOf] at h
  | finite sign => cases sign <;> simp [side, sideOf] at h

variable {x y : Float}

/-- A number is on neither side exactly if it is not above zero and not below it. -/
theorem side_eq_iff : side x.toModel.unpack = some .eq ↔ (0.0 : Float) ≤ x ∧ x ≤ (0.0 : Float) := by
  rw [zero_le_iff, le_zero_iff]
  rcases side x.toModel.unpack with _ | _ | _ | _ <;> decide

/-- **A sum of what is not negative** is not negative, and it is above zero if one summand is. -/
theorem side_toModel_add (hx : (0.0 : Float) ≤ x) (hy : (0.0 : Float) ≤ y) :
    side (x + y).toModel.unpack =
      if (0.0 : Float) < x ∨ (0.0 : Float) < y then some .gt else some .eq := by
  obtain ⟨hside, hpacks⟩ := side_add (packs_unpack x.toModel) (packs_unpack y.toModel)
    (nonneg_iff.2 (zero_le_iff.1 hx)) (nonneg_iff.2 (zero_le_iff.1 hy))
  simp only [zero_lt_iff]
  exact (side_pack hpacks).trans hside

/-- To take off a zero leaves a number on its side. -/
theorem side_toModel_sub (hy : (0.0 : Float) ≤ y) (hy' : y ≤ (0.0 : Float)) :
    side (x - y).toModel.unpack = side x.toModel.unpack := by
  obtain ⟨sign, hsign⟩ := exists_zero_of_side (side_eq_iff.2 ⟨hy, hy'⟩)
  obtain ⟨hside, hpacks⟩ := side_sub_zero (packs_unpack x.toModel) sign
  rw [← hsign] at hside hpacks
  exact (side_pack hpacks).trans hside

end Double

section

open Double

instance : LawfulScalar Float where
  isNaN_iff x := by
    refine Double.isNaN_iff.trans ?_
    rw [zero_le_iff, le_zero_iff]
    rcases side x.toModel.unpack with _ | _ | _ | _ <;> decide
  pos_iff x := by
    rw [zero_lt_iff, zero_le_iff, le_zero_iff]
    rcases side x.toModel.unpack with _ | _ | _ | _ <;> decide
  neg_iff x := by
    rw [lt_zero_iff, zero_le_iff, le_zero_iff]
    rcases side x.toModel.unpack with _ | _ | _ | _ <;> decide
  beq_zero_iff x := Double.beq_zero_iff.trans side_eq_iff
  zero_nonneg := by decide +kernel
  one_pos := by decide +kernel
  nothing_nonneg := by decide +kernel
  nothing_nonpos := by decide +kernel
  add_nonneg hx hy := by
    rw [zero_le_iff, side_toModel_add hx hy]
    split
    · exact .inr rfl
    · exact .inl rfl
  add_pos hx hy hpos := by
    rw [zero_lt_iff, side_toModel_add hx hy, if_pos hpos]
  sub_le_zero_iff hnonneg hnonpos := by
    rw [le_zero_iff, le_zero_iff, side_toModel_sub hnonneg hnonpos]

instance : LawfulUnit Float where
  pos_of_one_lt {x} h := by
    have hlt : ((1.0 : Float).toModel.unpack.compare x.toModel.unpack == some .lt) = true :=
      decide_eq_true_iff.1 h
    have hone := zero_lt_iff.1 LawfulScalar.one_pos
    exact zero_lt_iff.2 (side_of_compare_lt hone (beq_iff_eq.1 hlt))

end

/-! ### Exact arithmetic -/

instance : LawfulScalar ℚ where
  isNaN_iff x := iff_of_false nofun fun h ↦ h.2 (le_of_not_ge h.1)
  pos_iff x := lt_iff_le_not_ge
  neg_iff x := lt_iff_le_not_ge
  beq_zero_iff x := by rw [beq_iff_eq, le_antisymm_iff, and_comm]
  zero_nonneg := le_refl _
  one_pos := by decide +kernel
  nothing_nonneg := by decide +kernel
  nothing_nonpos := by decide +kernel
  add_nonneg hx hy := by
    rw [Scalar.zero_eq_zero] at *
    exact add_nonneg hx hy
  add_pos hx hy hpos := by
    rw [Scalar.zero_eq_zero] at *
    rcases hpos with hpos | hpos
    · exact add_pos_of_pos_of_nonneg hpos hy
    · exact add_pos_of_nonneg_of_pos hx hpos
  sub_le_zero_iff hnonneg hnonpos := by
    rw [le_antisymm hnonpos hnonneg, Scalar.zero_eq_zero, sub_zero]

instance : LawfulUnit ℚ where
  pos_of_one_lt h := LawfulScalar.one_pos.trans h

/-! ### Sums and maxima -/

namespace Scalar

variable {R : Type} [Scalar R] [LawfulScalar R] {x : R} {xs : List R}

/-- What is above zero is not below it. -/
theorem nonneg_of_pos (h : 0.0 < x) : 0.0 ≤ x := ((LawfulScalar.pos_iff x).1 h).1

/-- A sum by which something can be drawn is above zero. -/
theorem positive_iff : Positive x ↔ 0.0 < x := by
  rw [Positive, LawfulScalar.isNaN_iff, LawfulScalar.pos_iff]
  tauto

/-- A sum that goes on from what is not negative is above zero if anything in it is. -/
theorem foldl_add_pos (h : ∀ w ∈ xs, 0.0 ≤ w) (hx : 0.0 ≤ x)
    (hpos : 0.0 < x ∨ ∃ w ∈ xs, 0.0 < w) : 0.0 < xs.foldl (· + ·) x := by
  induction xs generalizing x with
  | nil => simpa using hpos
  | cons w rest ih =>
    obtain ⟨hw, hrest⟩ := List.forall_mem_cons.1 h
    refine ih hrest (LawfulScalar.add_nonneg hx hw) ?_
    rcases hpos with hpos | ⟨v, hv, hpos⟩
    · exact .inl (LawfulScalar.add_pos hx hw (.inl hpos))
    · rcases List.mem_cons.1 hv with rfl | hv
      · exact .inl (LawfulScalar.add_pos hx hw (.inr hpos))
      · exact .inr ⟨v, hv, hpos⟩

/-- Where no weight is negative and one is above zero, their sum is. -/
theorem sum_pos (h : ∀ w ∈ xs, 0.0 ≤ w) (hpos : ∃ w ∈ xs, 0.0 < w) : 0.0 < sum xs :=
  foldl_add_pos h LawfulScalar.nothing_nonneg (.inr hpos)

theorem ne_nil_of_sum_pos (h : 0.0 < sum xs) : xs ≠ [] := by
  rintro rfl
  exact ((LawfulScalar.pos_iff _).1 h).2 LawfulScalar.nothing_nonpos

/-- What is cut off at zero is not negative. -/
theorem zero_le_max (x : R) : 0.0 ≤ max x 0.0 := by
  rw [max]
  split
  next h =>
    rcases h with h | h
    · exact nonneg_of_pos h
    · exact absurd (LawfulScalar.zero_nonneg) ((LawfulScalar.isNaN_iff _).1 h).1
  next => exact LawfulScalar.zero_nonneg

/-- What is cut off at zero is above it exactly if it was. -/
theorem zero_lt_max_iff : 0.0 < max x 0.0 ↔ 0.0 < x := by
  have hzero : (0.0 : R) ≤ 0.0 := LawfulScalar.zero_nonneg
  have hdefined : ¬ isNaN (0.0 : R) = true := fun h ↦ ((LawfulScalar.isNaN_iff _).1 h).1 hzero
  rw [max]
  split
  next h => exact iff_of_true (h.resolve_right hdefined) (h.resolve_right hdefined)
  next h =>
    refine iff_of_false (fun hpos ↦ ?_) fun hpos ↦ h (.inl hpos)
    exact ((LawfulScalar.pos_iff _).1 hpos).2 hzero

omit [LawfulScalar R] in
/-- What is raised to one is above zero. -/
theorem zero_lt_max_one [LawfulUnit R] (x : R) : 0.0 < max x 1.0 := by
  rw [max]
  split
  next h =>
    refine LawfulUnit.pos_of_one_lt (h.resolve_right fun hnan ↦ ?_)
    exact ((LawfulScalar.isNaN_iff _).1 hnan).1 (nonneg_of_pos LawfulScalar.one_pos)
  next => exact LawfulScalar.one_pos

end Scalar

end LifeStory
