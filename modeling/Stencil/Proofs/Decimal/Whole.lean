import Mathlib
import Stencil.Data.Value

/-!
# Doubles of whole numbers

A double is equal to itself unless it is a NaN.  The double nearest to a whole number is none,
however large the number: at worst it is an infinity.

## Main results

* `Stencil.Decimal.isNaN_unpack_pack` — rounding a number to a double does not make it a NaN.
* `Stencil.Decimal.ofInt_beq_self` — the double of a whole number is equal to itself.
-/

set_option relaxedAutoImplicit false
set_option autoImplicit false

namespace Stencil.Decimal

open Float.Model (UnpackedFloat Format)
open Float.Model.UnpackedFloat (Sign pack unpack packComponents)

variable {format : Format} {a : UnpackedFloat}

/-- What is packed is a number, unless its exponent marks what is none. -/
lemma isNaN_packComponents (sign : Sign) {exponent : BitVec format.exponentBits}
    {mantissa : BitVec format.mantissaBitsWithoutImplicit} (h : exponent = -1#_ → mantissa = 0#_) :
    (unpack format (packComponents format sign exponent mantissa)).isNaN = false := by
  simp only [unpack, UnpackedFloat.unpackExponent_packComponents,
    UnpackedFloat.unpackMantissa_packComponents]
  split
  · next hexponent => simp [h hexponent, UnpackedFloat.isNaN]
  · split
    · split <;> rfl
    · rfl

/-- A double that is packed is no NaN if it was none before. -/
lemma isNaN_unpack_pack (h : a.isNaN = false) :
    (unpack Format.binary64 (pack Format.binary64 a)).isNaN = false := by
  fun_cases pack with
  | case1 => cases h
  | case2 | case3 | case4 => exact isNaN_packComponents _ fun _ => rfl
  | case5 s m e _ _ biased hbound =>
    refine isNaN_packComponents _ fun hones => absurd (congrArg BitVec.toNat hones) ?_
    rw [BitVec.toNat_ofNat, Nat.mod_eq_of_lt (by omega), BitVec.neg_one_eq_allOnes,
      BitVec.toNat_allOnes]
    omega
  | case6 => exact isNaN_packComponents _ (fun hones => absurd hones (by decide))

/-- What is rounded is a number. -/
lemma isNaN_roundWithAccuracy (sign : Sign) (mantissa : Nat) (exponent : Int)
    (accuracy : UnpackedFloat.Accuracy) :
    (UnpackedFloat.roundWithAccuracy format sign mantissa exponent accuracy).isNaN = false := by
  unfold UnpackedFloat.roundWithAccuracy
  dsimp only
  split <;> rfl

/-- So is a significand with an exponent. -/
lemma isNaN_normalize (mantissa exponent : Int) (sign : Sign) :
    (UnpackedFloat.normalize format mantissa exponent sign).isNaN = false := by
  unfold UnpackedFloat.normalize
  split
  · exact isNaN_roundWithAccuracy ..
  · rfl
  · exact isNaN_roundWithAccuracy ..

/-- A product with a factor that is neither zero nor infinite is a NaN only if the other one is. -/
lemma isNaN_mul (h : a.isNaN = false) (sign : Sign) (m : Nat) (e : Int) (hm : 0 < m) :
    (UnpackedFloat.mul format a (.finite sign m e hm)).isNaN = false := by
  cases a with
  | notANumber => cases h
  | infinity | zero => rfl
  | finite => exact isNaN_roundWithAccuracy ..

/-- So is a number with the other sign. -/
lemma isNaN_neg (h : a.isNaN = false) : a.neg.isNaN = false := by
  cases a with
  | notANumber => cases h
  | infinity | zero | finite => rfl

/-- The double of a natural number is no NaN.

**Proof sketch.** A natural number is made a double by one multiplication, or by rounding, neither
of which makes a NaN of finite numbers. -/
lemma isNaN_ofNat (n : Nat) : (Float.ofNat n).isNaN = false := by
  unfold Float.ofNat
  simp only [OfScientific.ofScientific, Float.ofScientific]
  split
  · -- a number of at most 53 bits is multiplied by one
    have hone : (Float.exactlyRepresentablePowersOfTen[0]).toModel.unpack =
        .finite .positive (2 ^ 52) (-52) (by decide) := rfl
    rw [if_neg Bool.false_ne_true]
    refine isNaN_unpack_pack ?_
    rw [hone]
    exact isNaN_mul (isNaN_unpack_pack (isNaN_normalize ..)) ..
  · refine isNaN_unpack_pack ?_
    rw [if_neg Bool.false_ne_true]
    unfold UnpackedFloat.ofScientific
    split_ifs
    · rfl
    · rfl
    · rfl
    · exact isNaN_mul rfl ..
    · next hnegative => exact absurd (Int.natCast_nonneg 0) hnegative

/-- **The double of a whole number is equal to itself.** -/
theorem ofInt_beq_self (n : Int) : (Float.ofInt n == Float.ofInt n) = true := by
  have hnan : (Float.ofInt n).isNaN = false := by
    cases n with
    | ofNat n => exact isNaN_ofNat n
    | negSucc n => exact isNaN_unpack_pack (isNaN_neg (isNaN_ofNat _))
  rw [Float.beq_self_iff]
  rwa [Float.isNaN_eq_decide_eq_nan, decide_eq_false_iff_not] at hnan

end Stencil.Decimal
