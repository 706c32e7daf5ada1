import Mathlib
import PromptTree.Numeral.Dyadic

/-!
# Packed numbers and their sides of zero

A number of 64 bits is computed with by taking it apart into a sign, a mantissa and an
exponent, rounding what comes out, and packing that again.  This module follows the one
thing through these steps that choices by weight depend on: on which side of zero a number
is.

* Packing keeps the side of what fits (`sideOf_unpack_pack`), and rounded numbers fit
  (`roundWithAccuracy_fits`), as do numbers that were packed before (`fits_unpack`).
* A positive number is not rounded to zero unless it was too small (`normalize_fits`).

That what is taken apart is packed as it was is a theorem of the library.

## Main Definitions

* `Side`, `sideOf` — the sides of zero.
* `Fits` — the bounds on mantissa and exponent that 64 bits put.
-/

namespace PromptTree.Numeral

open Float.Model Float.Model.UnpackedFloat

/-- Which side of zero a number is on.  What is no number is nowhere. -/
inductive Side where
  | below
  | zero
  | above
  | nowhere
  deriving DecidableEq

/-- The side of zero of the numbers with a sign. -/
def sideOfSign : Sign → Side
  | .negative => .below
  | .positive => .above

/-- The side of zero of a number that is taken apart. -/
def sideOf : UnpackedFloat → Side
  | .notANumber => .nowhere
  | .zero _ => .zero
  | .infinity sign => sideOfSign sign
  | .finite sign _ _ _ => sideOfSign sign

/-! ## Fields of the bits -/

section Bits

variable (b : BitVec Format.binary64.numBits)

theorem toNat_unpackMantissa : (unpackMantissa b).toNat = b.toNat % 2 ^ 52 := by
  simp [unpackMantissa, BitVec.extractLsb_toNat]

theorem toNat_unpackExponent : (unpackExponent b).toNat = b.toNat / 2 ^ 52 % 2 ^ 11 := by
  simp [unpackExponent, BitVec.extractLsb_toNat, Nat.shiftRight_eq_div_pow]

theorem toNat_unpackSign : (unpackSign b).toNat = b.toNat / 2 ^ 63 % 2 := by
  simp [unpackSign, BitVec.extractLsb_toNat, Nat.shiftRight_eq_div_pow]

end Bits

section Fields

variable {spec : Format}

theorem sideOf_unpack (b : BitVec spec.numBits) :
    sideOf (unpack spec b) =
      if unpackExponent b = -1#_ then
        if unpackMantissa b = 0#_ then sideOfSign (.ofBitVec (unpackSign b)) else .nowhere
      else if unpackExponent b = 0#_ ∧ unpackMantissa b = 0#_ then .zero
      else sideOfSign (.ofBitVec (unpackSign b)) := by
  unfold UnpackedFloat.unpack
  by_cases hmost : unpackExponent b = -1#_
  · simp only [if_pos hmost]
    split
    · rfl
    · rfl
  · simp only [if_neg hmost]
    by_cases hleast : unpackExponent b = 0#_
    · simp only [if_pos hleast]
      split
      · rename_i hmantissa
        rw [if_pos ⟨hleast, hmantissa⟩]
        rfl
      · rename_i hmantissa
        rw [if_neg fun h => hmantissa h.2]
        rfl
    · rw [if_neg hleast, if_neg fun h => hleast h.1]
      rfl

theorem sideOf_unpack_packComponents (sign : Sign) (exponent : BitVec spec.exponentBits)
    (mantissa : BitVec spec.mantissaBitsWithoutImplicit) :
    sideOf (unpack spec (packComponents spec sign exponent mantissa)) =
      if exponent = -1#_ then if mantissa = 0#_ then sideOfSign sign else .nowhere
      else if exponent = 0#_ ∧ mantissa = 0#_ then .zero
      else sideOfSign sign := by
  rw [sideOf_unpack, unpackExponent_packComponents, unpackMantissa_packComponents,
    unpackSign_packComponents, Sign.ofBitVec_toBitVec]

end Fields

/-! ## Packing -/

/-- The number has room in 64 bits, unless its exponent is too great. -/
def Fits : UnpackedFloat → Prop
  | .finite _ mantissa exponent _ => mantissa < 2 ^ 53 ∧ -1074 ≤ exponent
  | _ => True

/-- What is added to an exponent before it is packed. -/
theorem bias_eq : (Format.binary64.exponentBias : Int) +
    Format.binary64.mantissaBitsWithoutImplicit = 1075 := rfl

theorem pack_finite (sign : Sign) (m : Nat) (e : Int) (hm : 0 < m) :
    pack Format.binary64 (.finite sign m e hm) =
      if 2047 ≤ (e + 1075).toNat then packedInfinity Format.binary64 sign
      else if m.log2 = 52 then
        packComponents Format.binary64 sign (.ofNat 11 (e + 1075).toNat) (.ofNat 52 m)
      else packComponents Format.binary64 sign 0#11 (.ofNat 52 m) := by
  have hbiased : e + (Format.binary64.exponentBias : Int) +
      Format.binary64.mantissaBitsWithoutImplicit = e + 1075 := by
    rw [Int.add_assoc, bias_eq]
  have hmost : 2 ^ Format.binary64.exponentBits ≤ (e + 1075).toNat + 1 ↔
      2047 ≤ (e + 1075).toNat := Nat.succ_le_succ_iff
  have hbits : m.log2 + 1 = Format.binary64.mantissaBits ↔ m.log2 = 52 := Nat.succ_inj
  simp only [UnpackedFloat.pack, hbiased, hmost, hbits]

/-- A number that fits is on the same side of zero when it is packed. -/
theorem sideOf_unpack_pack {u : UnpackedFloat} (h : Fits u) :
    sideOf (unpack Format.binary64 (pack Format.binary64 u)) = sideOf u := by
  match u with
  | .notANumber | .zero .positive | .zero .negative | .infinity .positive | .infinity .negative =>
      decide
  | .finite sign m e hm =>
      obtain ⟨hmantissa, hexponent⟩ := h
      rw [pack_finite]
      by_cases hlarge : 2047 ≤ (e + 1075).toNat
      · rw [if_pos hlarge, packedInfinity, sideOf_unpack_packComponents, if_pos rfl]
        rfl
      · rw [if_neg hlarge]
        by_cases hnormal : m.log2 = 52
        · -- The exponent is neither the least nor the most.
          have hbiased : (BitVec.ofNat 11 (e + 1075).toNat).toNat = (e + 1075).toNat := by
            rw [BitVec.toNat_ofNat, Nat.mod_eq_of_lt (by omega)]
          rw [if_pos hnormal, sideOf_unpack_packComponents, if_neg, if_neg]
          · rfl
          · rintro ⟨hleast, -⟩
            rw [hleast] at hbiased
            change 0 = _ at hbiased
            omega
          · intro hmost
            rw [hmost] at hbiased
            change 2047 = _ at hbiased
            omega
        · -- The exponent is the least, but the mantissa is not zero.
          rw [if_neg hnormal, sideOf_unpack_packComponents, if_neg (by decide), if_neg]
          · rfl
          · rintro ⟨-, hzero⟩
            have hfraction := congrArg BitVec.toNat hzero
            have hlog : m.log2 < 53 := (Nat.log2_lt (Nat.ne_of_gt hm)).mpr hmantissa
            have hsmall : m < 2 ^ 52 := (Nat.log2_lt (Nat.ne_of_gt hm)).mp (by omega)
            rw [BitVec.toNat_ofNat, Nat.mod_eq_of_lt hsmall] at hfraction
            exact (Nat.ne_of_gt hm) hfraction

/-! ## Rounding -/

theorem mantissa_shiftRight (em : ExtendedMantissa) (n : Nat) :
    (em >>> n).mantissa = em.mantissa / 2 ^ n := by
  induction n with
  | zero => simp [HShiftRight.hShiftRight, Nat.repeat]
  | succ n ih =>
      change (em >>> n).mantissa / 2 = _
      rw [ih, Nat.div_div_eq_div_mul, Nat.pow_succ]

theorem le_roundedMantissa (em : ExtendedMantissa) : em.mantissa ≤ em.roundedMantissa := by
  unfold ExtendedMantissa.roundedMantissa
  generalize em.accuracy = accuracy
  match accuracy with
  | .exact | .inexact .lt => exact Nat.le_refl _
  | .inexact .eq | .inexact .gt => exact Nat.le_add_right _ _

/-- What is shifted fits, and does not vanish if it was not too small before. -/
theorem shift_fits (m : Nat) (e : Int) (accuracy : Accuracy) :
    (shiftToTargetExponent Format.binary64 m e accuracy).1.mantissa < 2 ^ 53 ∧
      -1074 ≤ (shiftToTargetExponent Format.binary64 m e accuracy).2 ∧
      (0 < m → -1074 ≤ e →
        0 < (shiftToTargetExponent Format.binary64 m e accuracy).1.mantissa) := by
  have hmantissa : ∀ shift,
      (ExtendedMantissa.ofMantissaAndAccuracy m accuracy >>> shift).mantissa = m / 2 ^ shift := by
    intro shift
    rw [mantissa_shiftRight]
    match accuracy with
    | .exact | .inexact .lt | .inexact .eq | .inexact .gt => rfl
  have htarget : Format.binary64.targetExponent (totalExponent m e) =
      max ((m.log2 : Int) + 1 + e - 53) (-1074) := rfl
  simp only [shiftToTargetExponent, shiftToExponent, hmantissa, htarget]
  generalize hshift : (max ((m.log2 : Int) + 1 + e - 53) (-1074) - e).toNat = shift
  have hbig : m < 2 ^ (m.log2 + 1) := Nat.lt_log2_self
  refine ⟨?_, by omega, fun hpos he => ?_⟩
  · rw [Nat.div_lt_iff_lt_mul (Nat.two_pow_pos shift), ← Nat.pow_add]
    exact Nat.lt_of_lt_of_le hbig (Nat.pow_le_pow_right (by decide) (by omega))
  · -- Of a number with more bits than fit, the leading one stays.
    have hsmall : 2 ^ m.log2 ≤ m := Nat.log2_self_le (Nat.ne_of_gt hpos)
    refine Nat.div_pos (Nat.le_trans (Nat.pow_le_pow_right (by decide) ?_) hsmall)
      (Nat.two_pow_pos shift)
    omega

/-- A rounded number fits.  It is on the side of its sign or zero, and it is not zero if the
number was not too small. -/
theorem roundWithAccuracy_fits (sign : Sign) (m : Nat) (e : Int) (accuracy : Accuracy) :
    Fits (roundWithAccuracy Format.binary64 sign m e accuracy) ∧
      (sideOf (roundWithAccuracy Format.binary64 sign m e accuracy) = sideOfSign sign ∨
        sideOf (roundWithAccuracy Format.binary64 sign m e accuracy) = .zero ∧
          ¬ (0 < m ∧ -1074 ≤ e)) := by
  obtain ⟨-, hexponent, hpos⟩ := shift_fits m e accuracy
  unfold roundWithAccuracy
  generalize shiftToTargetExponent Format.binary64 m e accuracy = shifted at hexponent hpos
  obtain ⟨hfits, hexponent', hpos'⟩ := shift_fits shifted.1.roundedMantissa shifted.2 .exact
  have hrounded := le_roundedMantissa shifted.1
  simp only
  split
  · rename_i hzero
    refine ⟨trivial, .inr ⟨rfl, fun h => ?_⟩⟩
    have := hpos h.1 h.2
    have := hpos' (by omega) hexponent
    omega
  · exact ⟨⟨hfits, hexponent'⟩, .inl rfl⟩

/-- A rounded positive number fits, and is above zero if it was not too small. -/
theorem round_fits {m : Nat} {e : Int} (hm : 0 < m) (he : -1074 ≤ e) :
    Fits (round Format.binary64 .positive m e) ∧
      sideOf (round Format.binary64 .positive m e) = .above := by
  have htarget : Format.binary64.targetExponent (totalExponent m e) =
      max ((m.log2 : Int) + 1 + e - 53) (-1074) := rfl
  simp only [UnpackedFloat.round, decreaseExponent, htarget]
  generalize hshift : (e - max ((m.log2 : Int) + 1 + e - 53) (-1074)).toNat = shift
  have hm' : 0 < m <<< shift := by
    rw [Nat.shiftLeft_eq]
    exact Nat.mul_pos hm (Nat.two_pow_pos shift)
  obtain ⟨hfits, hside | ⟨-, hvanished⟩⟩ :=
    roundWithAccuracy_fits .positive (m <<< shift) (e - shift) .exact
  · exact ⟨hfits, hside⟩
  · exact absurd ⟨hm', by omega⟩ hvanished

theorem normalize_fits {n : Int} {e : Int} (hn : 0 < n) (he : -1074 ≤ e) (zeroSign : Sign) :
    Fits (UnpackedFloat.normalize Format.binary64 n e zeroSign) ∧
      sideOf (UnpackedFloat.normalize Format.binary64 n e zeroSign) = .above := by
  unfold UnpackedFloat.normalize
  rw [Int.compare_eq_gt.mpr hn]
  exact round_fits (by omega) he

/-! ## Unpacked numbers -/

theorem toNat_implicit (m : BitVec 52) : (1#1 ++ m).toNat = 2 ^ 52 + m.toNat := by
  rw [BitVec.toNat_append, ← Nat.shiftLeft_add_eq_or_of_lt m.isLt]
  rfl

/-- What is unpacked fits. -/
theorem fits_unpack (b : BitVec Format.binary64.numBits) : Fits (unpack Format.binary64 b) := by
  have hfraction : (unpackMantissa b).toNat < 2 ^ 52 := (unpackMantissa b).isLt
  unfold UnpackedFloat.unpack
  simp only
  rw [bias_eq]
  split
  · split
    · trivial
    · trivial
  · split
    · split
      · trivial
      · exact ⟨by omega, by omega⟩
    · rename_i hleast
      refine ⟨?_, ?_⟩
      · rw [toNat_implicit]
        omega
      · have : (unpackExponent b).toNat ≠ 0 := fun h => hleast (BitVec.eq_of_toNat_eq h)
        omega

end PromptTree.Numeral
