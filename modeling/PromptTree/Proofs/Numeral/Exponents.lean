import PromptTree.Proofs.Numeral.Sides

/-!
# Products that stay finite

Only a finite number has an integer part, so a draw can only be scaled to a size if the product
of both is finite.  It is: the exponent of a draw is at most that of one
(`exponent_of_le_one`), natural numbers of a thousand binary digits are far from the greatest
exponent (`exponent_ofNat`), and the exponent of a product is bounded by those of its factors
(`exponent_mul`).

The bounds are generous by a few binary digits, so that nothing has to be known about the
direction in which numbers are rounded.

## Main Definitions

* `ExponentAtMost` — finite numbers with a bounded exponent.
-/

namespace PromptTree.Numeral

open Float.Model Float.Model.UnpackedFloat

/-- The number is finite, and its exponent is at most a bound. -/
inductive ExponentAtMost (bound : Int) : UnpackedFloat → Prop where
  | zero (sign : Sign) : ExponentAtMost bound (.zero sign)
  | finite {sign : Sign} {m : Nat} {e : Int} {hm : 0 < m} (le : e ≤ bound) :
    ExponentAtMost bound (.finite sign m e hm)

theorem ExponentAtMost.mono {u : UnpackedFloat} {a b : Int} (h : ExponentAtMost a u)
    (hab : a ≤ b) : ExponentAtMost b u := by
  cases h with
  | zero sign => exact .zero sign
  | finite le => exact .finite (Int.le_trans le hab)

/-! ## Rounding -/

/-- The exponent after a mantissa is shifted to what fits. -/
theorem shift_exponent (m : Nat) (e : Int) (accuracy : Accuracy) :
    (shiftToTargetExponent Format.binary64 m e accuracy).2 =
      max e (max ((m.log2 : Int) + e - 52) (-1074)) := by
  have htarget : Format.binary64.targetExponent (totalExponent m e) =
      max ((m.log2 : Int) + 1 + e - 53) (-1074) := rfl
  simp only [shiftToTargetExponent, shiftToExponent, htarget]
  omega

theorem roundedMantissa_le (em : ExtendedMantissa) : em.roundedMantissa ≤ em.mantissa + 1 := by
  unfold ExtendedMantissa.roundedMantissa
  generalize em.accuracy = accuracy
  match accuracy with
  | .exact | .inexact .lt => exact Nat.le_succ _
  | .inexact .gt => exact Nat.le_refl _
  | .inexact .eq =>
      simp only [Accuracy.roundToNearestEven]
      omega

/-- Rounding adds at most one to the exponent that a mantissa asks for. -/
theorem exponent_roundWithAccuracy {m : Nat} {e bound : Int} (sign : Sign) (accuracy : Accuracy)
    (hbound : -1074 ≤ bound) (he : e ≤ bound) (hm : (m.log2 : Int) + e - 52 ≤ bound) :
    ExponentAtMost (bound + 1) (roundWithAccuracy Format.binary64 sign m e accuracy) := by
  have hfirst := shift_exponent m e accuracy
  obtain ⟨hmantissa, -, -⟩ := shift_fits m e accuracy
  unfold roundWithAccuracy
  generalize shiftToTargetExponent Format.binary64 m e accuracy = first at hfirst hmantissa
  have hrounded := roundedMantissa_le first.1
  have hlog : first.1.roundedMantissa.log2 < 54 := by
    rcases Nat.eq_zero_or_pos first.1.roundedMantissa with hzero | hpos
    · rw [hzero]
      decide
    · rw [Nat.log2_lt (Nat.ne_of_gt hpos)]
      omega
  have hsecond := shift_exponent first.1.roundedMantissa first.2 .exact
  simp only
  split
  · exact .zero sign
  · apply ExponentAtMost.finite
    omega

theorem shiftLeft_pos {m : Nat} (hm : 0 < m) (shift : Nat) : 0 < m <<< shift := by
  rw [Nat.shiftLeft_eq]
  exact Nat.mul_pos hm (Nat.two_pow_pos shift)

theorem log2_shiftLeft {m : Nat} (hm : 0 < m) (shift : Nat) :
    (m <<< shift).log2 = m.log2 + shift := by
  rw [Nat.log2_eq_iff (Nat.ne_of_gt (shiftLeft_pos hm shift)), Nat.shiftLeft_eq,
    Nat.add_right_comm, Nat.pow_add, Nat.pow_add]
  constructor
  · exact Nat.mul_le_mul_right _ (Nat.log2_self_le (Nat.ne_of_gt hm))
  · exact Nat.mul_lt_mul_of_pos_right Nat.lt_log2_self (Nat.two_pow_pos shift)

theorem exponent_normalize {n : Int} {e bound : Int} (hn : 0 < n) (zeroSign : Sign)
    (hbound : -1074 ≤ bound) (he : e ≤ bound) (hlog : (n.toNat.log2 : Int) + e - 52 ≤ bound) :
    ExponentAtMost (bound + 1) (UnpackedFloat.normalize Format.binary64 n e zeroSign) := by
  unfold UnpackedFloat.normalize
  rw [Int.compare_eq_gt.mpr hn]
  simp only [UnpackedFloat.round, decreaseExponent]
  generalize (e - Format.binary64.targetExponent (totalExponent n.toNat e)).toNat = shift
  apply exponent_roundWithAccuracy .positive .exact hbound
  · omega
  · rw [log2_shiftLeft (by omega)]
    omega

/-! ## Packing -/

/-- What is unpacked has the exponent that its bits say. -/
theorem exponent_unpack {bound : Int} (b : BitVec Format.binary64.numBits) (hleast : -1074 ≤ bound)
    (hmost : bound ≤ 971) (h : ((unpackExponent b).toNat : Int) ≤ bound + 1075) :
    ExponentAtMost bound (unpack Format.binary64 b) := by
  unfold UnpackedFloat.unpack
  simp only
  rw [bias_eq, if_neg]
  · split
    · split
      · exact .zero _
      · rename_i hzero _
        rw [hzero]
        exact .finite hleast
    · apply ExponentAtMost.finite
      omega
  · -- The exponent of what is not finite is the greatest one.
    intro hall
    rw [hall] at h
    change (2047 : Int) ≤ _ at h
    omega

/-- A number that fits keeps its exponent when it is packed. -/
theorem exponent_unpack_pack {u : UnpackedFloat} {bound : Int} (hu : Fits u)
    (h : ExponentAtMost bound u) (hleast : -1074 ≤ bound) (hmost : bound ≤ 971) :
    ExponentAtMost bound (unpack Format.binary64 (pack Format.binary64 u)) := by
  apply exponent_unpack _ hleast hmost
  cases h with
  | zero sign =>
      rw [UnpackedFloat.pack, packedZero, unpackExponent_packComponents]
      change (0 : Int) ≤ _
      omega
  | @finite sign m e hm le =>
      have he : -1074 ≤ e := hu.2
      rw [pack_finite, if_neg (by omega)]
      split
      · have hfield := Nat.mod_le (e + 1075).toNat (2 ^ Format.binary64.exponentBits)
        rw [unpackExponent_packComponents, BitVec.toNat_ofNat]
        omega
      · rw [unpackExponent_packComponents]
        change (0 : Int) ≤ _
        omega

/-! ## Products -/

section Products

variable {m₁ m₂ : Nat} {e₁ e₂ bound : Int} {hm₁ : 0 < m₁} {hm₂ : 0 < m₂}

/-- The exponent of a product that was packed. -/
theorem exponent_unpack_mul (sign₁ sign₂ : Sign) (hleast : -1074 ≤ bound) (hmost : bound < 971)
    (he : e₁ + e₂ ≤ bound) (hlog : ((m₁ * m₂).log2 : Int) + (e₁ + e₂) - 52 ≤ bound) :
    ExponentAtMost (bound + 1) (unpack Format.binary64 (pack Format.binary64
      (mul Format.binary64 (.finite sign₁ m₁ e₁ hm₁) (.finite sign₂ m₂ e₂ hm₂)))) := by
  have hfits := (roundWithAccuracy_fits (sign₁ * sign₂) (m₁ * m₂) (e₁ + e₂) .exact).1
  have hexponent := exponent_roundWithAccuracy (sign₁ * sign₂) .exact hleast he hlog
  exact exponent_unpack_pack hfits hexponent (by omega) hmost

end Products

/-- **The exponent of a product** exceeds the sum of those of its factors by the digits of a
mantissa, and one for rounding. -/
theorem exponent_mul {x y : Float} {a b : Int} (hx : ExponentAtMost a x.toModel.unpack)
    (hy : ExponentAtMost b y.toModel.unpack) (hleast : -1127 ≤ a + b) (hmost : a + b ≤ 917) :
    ExponentAtMost (a + b + 54) (x * y).toModel.unpack := by
  have hproduct : (x * y).toModel.unpack = unpack Format.binary64
      (pack Format.binary64 (mul Format.binary64 x.toModel.unpack y.toModel.unpack)) := rfl
  have hfitsx := fits_toModel x
  have hfitsy := fits_toModel y
  rw [hproduct]
  generalize x.toModel.unpack = u at *
  generalize y.toModel.unpack = v at *
  cases hx with
  | zero sign₁ =>
      cases hy with
      | zero sign₂ => exact exponent_unpack_pack trivial (.zero _) (by omega) (by omega)
      | finite _ => exact exponent_unpack_pack trivial (.zero _) (by omega) (by omega)
  | @finite sign₁ m₁ e₁ hm₁ he₁ =>
      cases hy with
      | zero sign₂ => exact exponent_unpack_pack trivial (.zero _) (by omega) (by omega)
      | @finite sign₂ m₂ e₂ hm₂ he₂ =>
          have hmantissas : m₁ * m₂ < 2 ^ 53 * 2 ^ 53 := Nat.mul_lt_mul'' hfitsx.1 hfitsy.1
          have hlog : (m₁ * m₂).log2 < 106 :=
            (Nat.log2_lt (Nat.ne_of_gt (Nat.mul_pos hm₁ hm₂))).mpr hmantissas
          have hbound : a + b + 54 = a + b + 53 + 1 := by omega
          rw [hbound]
          exact exponent_unpack_mul sign₁ sign₂ (by omega) (by omega) (by omega) (by omega)

/-! ## Draws and sizes -/

theorem unpack_one :
    (1 : Float).toModel.unpack = .finite .positive (2 ^ 52) (-52) (by decide) :=
  rfl

/-- A number from zero to one has at most the exponent of one. -/
theorem exponent_of_le_one {x : Float} (hzero : 0 ≤ x) (hone : x ≤ 1) :
    ExponentAtMost (-52) x.toModel.unpack := by
  rw [zero_le_iff] at hzero
  rw [le_iff, unpack_one] at hone
  unfold side at hzero
  generalize x.toModel.unpack = u at *
  match u with
  | .zero sign => exact .zero sign
  | .finite .positive m e hm =>
      apply ExponentAtMost.finite
      by_contra he
      have hcompare : compare e (-52) = .gt := Int.compare_eq_gt.mpr (by omega)
      simp only [UnpackedFloat.compare, hcompare, Ordering.then] at hone
      exact absurd hone (by decide)
  | .infinity .positive => exact absurd hone (by decide)
  | .notANumber | .infinity .negative | .finite .negative _ _ _ =>
      rcases hzero with hside | hside
      · cases hside
      · cases hside

theorem exponent_toFloat (n : UInt64) : ExponentAtMost 13 n.toFloat.toModel.unpack := by
  have hmodel : n.toFloat =
      .ofModel (.pack (UnpackedFloat.normalize Format.binary64 (n.toNat : Int) 0 .positive)) := rfl
  rw [hmodel]
  rcases Nat.eq_zero_or_pos n.toNat with hzero | hpos
  · rw [hzero]
    exact .zero .positive
  · have hn : 0 < (n.toNat : Int) := Int.natCast_pos.mpr hpos
    have hlog : (n.toNat : Int).toNat.log2 < 64 := by
      rw [Int.toNat_natCast, Nat.log2_lt (Nat.ne_of_gt hpos)]
      exact n.toNat_lt
    have hexponent : ExponentAtMost (12 + 1)
        (UnpackedFloat.normalize Format.binary64 (n.toNat : Int) 0 .positive) :=
      exponent_normalize hn .positive (by decide) (by decide) (by omega)
    exact exponent_unpack_pack (normalize_fits hn (by decide) .positive).1 hexponent (by decide)
      (by decide)

/-- What is read from a numeral without a fraction is rounded as a product. -/
theorem ofScientific_eq_mul {n : Nat} (hn : 0 < n) :
    UnpackedFloat.ofScientific Format.binary64 n 0 =
      mul Format.binary64 (.finite .positive (n <<< 53) (-53) (shiftLeft_pos hn 53))
        (.finite .positive 1 0 Nat.one_pos) := by
  have hlarge : ¬ (0 : Int) < -((2 ^ 11 : Int) + n.log2) := by omega
  unfold UnpackedFloat.ofScientific
  rw [dif_neg (Nat.ne_of_gt hn), if_neg (by decide), if_neg hlarge, if_pos (by decide)]
  rfl

/-- A natural number of at most a thousand binary digits is far from the greatest exponent. -/
theorem exponent_ofNat {n : Nat} (hlog : n.log2 < 1000) :
    ExponentAtMost 948 (Float.ofNat n).toModel.unpack := by
  change ExponentAtMost 948 (Float.ofScientific n false 0).toModel.unpack
  unfold Float.ofScientific
  split
  · have hone : ExponentAtMost (-52) (Float.ofBits 0x3FF0000000000000).toModel.unpack :=
      .finite (Int.le_refl _)
    exact (exponent_mul (exponent_toFloat _) hone (by decide) (by decide)).mono (by decide)
  · rename_i hlarge
    have hpos : 0 < n := by omega
    change ExponentAtMost (947 + 1) (unpack Format.binary64
      (pack Format.binary64 (UnpackedFloat.ofScientific Format.binary64 n 0)))
    rw [ofScientific_eq_mul hpos]
    apply exponent_unpack_mul .positive .positive
    · decide
    · decide
    · decide
    · rw [Nat.mul_one, log2_shiftLeft hpos]
      omega

/-! ## Integer parts -/

/-- The exponent field of a finite number is not the greatest one. -/
theorem exponentField_ne {bound : Int} (b : BitVec Format.binary64.numBits)
    (h : ExponentAtMost bound (unpack Format.binary64 b)) :
    b.toNat / 2 ^ 52 % 2 ^ 11 ≠ 2047 := by
  intro hall
  have hmost : unpackExponent b = -1#_ :=
    BitVec.eq_of_toNat_eq ((toNat_unpackExponent b).trans hall)
  unfold UnpackedFloat.unpack at h
  simp only [if_pos hmost] at h
  split at h
  · cases h
  · cases h

/-- A number with a bounded exponent is read as a finite one. -/
theorem exists_decode {x : Float} {bound : Int} (h : ExponentAtMost bound x.toModel.unpack) :
    ∃ d, decode x = .finite d := by
  have hmost : x.toBits.toNat / twoPower 52 % 2048 ≠ 2047 := exponentField_ne _ h
  unfold decode Decoded.ofBits
  simp only [if_neg hmost]
  split
  · exact ⟨_, rfl⟩
  · exact ⟨_, rfl⟩

end PromptTree.Numeral
