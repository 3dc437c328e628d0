import LifeStory.Json.Record
import LifeStory.Proofs.KeyOrder
import Mathlib.Algebra.Group.Nat.Defs

/-!
# Whole numbers in double precision

A whole number of up to 64 bits, with or without a sign, is a finite number of double precision:
its exponent is far below the largest one that the format has room for
(`Double.isFinite_toFloat`). So every number that is read from a document can be written to one
(`Json.IsValue.isFinite_of_float?`).
-/

namespace LifeStory

namespace Double

open Float.Model Float.Model.UnpackedFloat

/-- The largest exponent of a finite number of double precision. -/
def maxExponent : Int := 971

/-- A number is finite, and its exponent is not too large to be packed. -/
def Fits : UnpackedFloat → Prop
  | .finite _ _ exponent _ => exponent ≤ maxExponent
  | .zero _ => True
  | _ => False

/-! ### Packing -/

/-- Only an exponent of ones stands for what is not finite. -/
theorem isFinite_unpack_iff (bits : BitVec Format.binary64.numBits) :
    (UnpackedFloat.unpack Format.binary64 bits).isFinite = true ↔ unpackExponent bits ≠ -1#_ := by
  delta UnpackedFloat.unpack
  dsimp only
  by_cases hones : unpackExponent bits = -1#_
  · rw [if_pos hones]
    by_cases hmantissa : unpackMantissa bits = 0#_
    · rw [if_pos hmantissa]
      exact iff_of_false nofun (not_not_intro hones)
    · rw [if_neg hmantissa]
      exact iff_of_false nofun (not_not_intro hones)
  · rw [if_neg hones]
    refine iff_of_true ?_ hones
    by_cases hzero : unpackExponent bits = 0#_
    · rw [if_pos hzero]
      by_cases hmantissa : unpackMantissa bits = 0#_
      · rw [dif_pos hmantissa]
        rfl
      · rw [dif_neg hmantissa]
        rfl
    · rw [if_neg hzero]
      rfl

/-- What is read from the bits of a finite number fits the format. -/
theorem fits_unpack {bits : BitVec Format.binary64.numBits}
    (h : (UnpackedFloat.unpack Format.binary64 bits).isFinite = true) :
    Fits (UnpackedFloat.unpack Format.binary64 bits) := by
  have hones : unpackExponent bits ≠ -1#_ := (isFinite_unpack_iff bits).1 h
  have hexponent : (unpackExponent bits).toNat ≤ 2046 := by
    have hlt : (unpackExponent bits).toNat < 2048 := (unpackExponent bits).isLt
    have hne : (unpackExponent bits).toNat ≠ 2047 := fun heq ↦ hones (BitVec.eq_of_toNat_eq heq)
    exact Nat.le_of_lt_succ (Nat.lt_of_le_of_ne (Nat.le_of_lt_succ hlt) hne)
  delta UnpackedFloat.unpack
  dsimp only
  rw [if_neg hones]
  by_cases hzero : unpackExponent bits = 0#_
  · rw [if_pos hzero]
    by_cases hmantissa : unpackMantissa bits = 0#_
    · rw [dif_pos hmantissa]
      trivial
    · rw [dif_neg hmantissa]
      show ((unpackExponent bits).toNat : Int) - (1023 + 52) + 1 ≤ 971
      rw [hzero]
      decide
  · rw [if_neg hzero]
    show ((unpackExponent bits).toNat : Int) - (1023 + 52) ≤ 971
    omega

/-- What fits the format is finite when it is packed. -/
theorem isFinite_pack {u : UnpackedFloat} (h : Fits u) : (pack u).unpack.isFinite = true := by
  refine (isFinite_unpack_iff (UnpackedFloat.pack Format.binary64 u)).2 ?_
  cases u with
  | notANumber => cases h
  | infinity => cases h
  | zero sign =>
    show unpackExponent (packComponents Format.binary64 sign 0 0) ≠ _
    rw [unpackExponent_packComponents]
    decide
  | finite sign mantissa exponent hpos =>
    have hexponent : exponent ≤ 971 := h
    -- The exponent as it is packed, which has eleven bits.
    obtain ⟨biased, hbiased⟩ : ∃ biased, biased = (exponent + Format.binary64.exponentBias +
      Format.binary64.mantissaBitsWithoutImplicit).toNat := ⟨_, rfl⟩
    have hroom : biased ≤ 2046 := by
      have hsum : biased = (exponent + 1023 + 52).toNat := hbiased
      omega
    delta UnpackedFloat.pack
    dsimp only
    rw [← hbiased, if_neg (Nat.not_le.2 (Nat.lt_succ_of_le (Nat.succ_le_succ hroom)))]
    split
    · rw [unpackExponent_packComponents]
      intro hones
      have hnat : biased % 2048 = 2047 := congrArg BitVec.toNat hones
      omega
    · rw [unpackExponent_packComponents]
      decide

/-- What is finite stays so with the other sign. -/
theorem isFinite_neg {x : Float} (h : x.isFinite = true) : (-x).isFinite = true := by
  have hfits : Fits x.toModel.unpack := fits_unpack h
  refine isFinite_pack ?_
  cases hx : x.toModel.unpack with
  | notANumber => exact (hx ▸ hfits : Fits .notANumber)
  | infinity sign => exact (hx ▸ hfits : Fits (.infinity sign))
  | zero sign => exact trivial
  | finite sign mantissa exponent hpos => exact (hx ▸ hfits : Fits (.finite _ _ _ hpos))

/-! ### Rounding -/

theorem mantissa_repeat_le (count : Nat) (em : ExtendedMantissa) :
    (count.repeat ExtendedMantissa.shiftRightOne em).mantissa ≤ em.mantissa := by
  induction count with
  | zero => exact Nat.le_refl _
  | succ count ih => exact Nat.le_trans (Nat.div_le_self _ 2) ih

theorem roundedMantissa_le (em : ExtendedMantissa) : em.roundedMantissa ≤ em.mantissa + 1 := by
  obtain ⟨mantissa, roundBit, stickyBit⟩ := em
  cases roundBit <;> cases stickyBit <;>
    simp only [ExtendedMantissa.roundedMantissa, ExtendedMantissa.accuracy,
      Accuracy.roundToNearestEven] <;> omega

theorem log2_le {n k : Nat} (h : n < 2 ^ (k + 1)) : n.log2 ≤ k := by
  by_cases hzero : n = 0
  · subst hzero
    exact Nat.zero_le k
  · exact Nat.le_of_lt_succ ((Nat.log2_lt hzero).2 h)

/-- Shifting makes no mantissa larger, and no exponent larger than the mantissa asks for. -/
theorem shiftToTargetExponent_le (mantissa : Nat) (exponent : Int) (accuracy : Accuracy)
    (limit : Int) (hlimit : 0 ≤ limit) (hexponent : exponent ≤ limit)
    (htotal : mantissa.log2 + 1 + exponent ≤ limit + 53) :
    (shiftToTargetExponent Format.binary64 mantissa exponent accuracy).1.mantissa ≤ mantissa ∧
      (shiftToTargetExponent Format.binary64 mantissa exponent accuracy).2 ≤ limit := by
  have htarget : Format.binary64.targetExponent (totalExponent mantissa exponent) ≤ limit := by
    show max (mantissa.log2 + 1 + exponent - 53) (-1074) ≤ limit
    omega
  constructor
  · refine Nat.le_trans (mantissa_repeat_le _ _) ?_
    rcases accuracy with _ | _ | _ | _ <;> exact Nat.le_refl _
  · show exponent + ((Format.binary64.targetExponent (totalExponent mantissa exponent) -
      exponent).toNat : Int) ≤ limit
    omega

/-- Rounding keeps small numbers small: the mantissa grows by one at most. -/
theorem fits_roundWithAccuracy {mantissa : Nat} {exponent : Int} (sign : Sign)
    (hmantissa : mantissa < 2 ^ 116) (hexponent : exponent ≤ 0) :
    Fits (roundWithAccuracy Format.binary64 sign mantissa exponent .exact) := by
  have hlog : mantissa.log2 ≤ 115 := log2_le hmantissa
  have hfirst := shiftToTargetExponent_le mantissa exponent .exact 64 (by decide) (by omega)
    (by omega)
  rw [roundWithAccuracy]
  generalize shiftToTargetExponent Format.binary64 mantissa exponent .exact = first at hfirst ⊢
  obtain ⟨em, shifted⟩ := first
  obtain ⟨hem, hshifted⟩ := hfirst
  dsimp only at hem hshifted ⊢
  have hrounded : em.roundedMantissa < 2 ^ 117 :=
    calc em.roundedMantissa ≤ em.mantissa + 1 := roundedMantissa_le em
      _ ≤ mantissa + 1 := Nat.succ_le_succ hem
      _ < 2 ^ 117 := by omega
  have hroundedLog : em.roundedMantissa.log2 ≤ 116 := log2_le hrounded
  have hsecond := (shiftToTargetExponent_le em.roundedMantissa shifted .exact 128 (by decide)
    (by omega) (by omega)).2
  by_cases hzero : (shiftToTargetExponent Format.binary64 em.roundedMantissa shifted
      .exact).1.mantissa = 0
  · rw [dif_pos hzero]
    trivial
  · rw [dif_neg hzero]
    exact Int.le_trans hsecond (by decide)

/-- A whole number of 64 bits fits the format when it is rounded. -/
theorem fits_round (sign : Sign) {n : Nat} (h : n < 2 ^ 64) :
    Fits (UnpackedFloat.round Format.binary64 sign n 0) := by
  -- The exponent is lowered by 52 at most.
  have hshift : (0 - Format.binary64.targetExponent (totalExponent n 0)).toNat ≤ 52 := by
    show (0 - max ((n.log2 : Int) + 1 + 0 - 53) (-1074)).toNat ≤ 52
    omega
  refine fits_roundWithAccuracy sign ?_ ?_
  · show n <<< (0 - Format.binary64.targetExponent (totalExponent n 0)).toNat < 2 ^ 116
    rw [Nat.shiftLeft_eq]
    calc n * 2 ^ (0 - Format.binary64.targetExponent (totalExponent n 0)).toNat
        ≤ n * 2 ^ 52 := Nat.mul_le_mul_left n (Nat.pow_le_pow_right (by decide) hshift)
      _ < 2 ^ 64 * 2 ^ 52 := Nat.mul_lt_mul_of_pos_right h (by decide)
      _ = 2 ^ 116 := by decide
  · show 0 - ((0 - Format.binary64.targetExponent (totalExponent n 0)).toNat : Int) ≤ 0
    omega

/-- **A whole number of 64 bits is finite** in double precision. -/
theorem isFinite_toFloat (n : UInt64) : n.toFloat.isFinite = true := by
  refine isFinite_pack (u := UnpackedFloat.normalize Format.binary64 n.toNat 0 .positive) ?_
  rw [UnpackedFloat.normalize]
  split
  · exact fits_round .negative (by omega)
  · trivial
  · exact fits_round .positive n.toNat_lt

end Double

/-- Every number that is read from a value is finite. -/
theorem Json.IsValue.isFinite_of_float? {j : Json} {x : Float} (h : j.IsValue)
    (hx : j.float? = some x) : x.isFinite = true := by
  cases h with
  | int n =>
    obtain rfl := Option.some.inj hx
    split
    · exact Double.isFinite_neg (Double.isFinite_toFloat _)
    · exact Double.isFinite_toFloat _
  | real hfinite => exact Option.some.inj hx ▸ hfinite
  | _ => cases hx

end LifeStory
