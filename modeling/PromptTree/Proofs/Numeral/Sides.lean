import PromptTree.Proofs.Numeral.Packing

/-!
# Numbers and zero

What sums and products of floating point numbers are when compared with zero.  Rounding
spares the facts that choices by weight rest on: a sum of numbers that are not below zero is
not below zero, and only zero if all of them are (`not_add_lt_zero`, `add_le_zero_iff`); a sum
gets past a target only by a part above zero (`lt_of_lt_add`); and products and integer
parts of such numbers are not below zero either (`not_mul_lt_zero`, `truncate_nonneg`).

What is no number is not below zero, nor above it, so these facts need no condition on their
numbers besides.

## Main Definitions

* `side` — the side of zero of a number.
-/

namespace PromptTree.Numeral

open Float.Model Float.Model.UnpackedFloat

/-- The side of zero of a number. -/
def side (x : Float) : Side :=
  sideOf x.toModel.unpack

/-! ## Comparisons -/

theorem unpack_zero : (0 : Float).toModel.unpack = .zero .positive := rfl

theorem lt_iff {x y : Float} : x < y ↔ x.toModel.unpack.compare y.toModel.unpack = some .lt := by
  change decide _ = true ↔ _
  rw [decide_eq_true_iff]
  change (_ == _) = true ↔ _
  simp only [beq_iff_eq]

theorem le_iff {x y : Float} :
    x ≤ y ↔ (x.toModel.unpack.compare y.toModel.unpack).any (·.isLE) := by
  change decide _ = true ↔ _
  rw [decide_eq_true_iff]
  rfl

/-- How a number on a side of zero compares with zero. -/
def Side.compareZero : Side → Option Ordering
  | .below => some .lt
  | .zero => some .eq
  | .above => some .gt
  | .nowhere => none

theorem compare_zero (u : UnpackedFloat) (sign : Sign) :
    u.compare (.zero sign) = (sideOf u).compareZero := by
  match u with
  | .notANumber | .zero _ | .infinity .positive | .infinity .negative
  | .finite .positive _ _ _ | .finite .negative _ _ _ => rfl

theorem zero_compare (u : UnpackedFloat) (sign : Sign) :
    (UnpackedFloat.zero sign).compare u = (sideOf u).compareZero.map Ordering.swap := by
  match u with
  | .notANumber | .zero _ | .infinity .positive | .infinity .negative
  | .finite .positive _ _ _ | .finite .negative _ _ _ => rfl

theorem lt_zero_iff {x : Float} : x < 0 ↔ side x = .below := by
  rw [lt_iff, unpack_zero, compare_zero, side]
  cases sideOf x.toModel.unpack with
  | below | zero | above | nowhere => decide

theorem zero_lt_iff {x : Float} : 0 < x ↔ side x = .above := by
  rw [lt_iff, unpack_zero, zero_compare, side]
  cases sideOf x.toModel.unpack with
  | below | zero | above | nowhere => decide

theorem le_zero_iff {x : Float} : x ≤ 0 ↔ side x = .below ∨ side x = .zero := by
  rw [le_iff, unpack_zero, compare_zero, side]
  cases sideOf x.toModel.unpack with
  | below | zero | above | nowhere => decide

theorem zero_le_iff {x : Float} : 0 ≤ x ↔ side x = .zero ∨ side x = .above := by
  rw [le_iff, unpack_zero, zero_compare, side]
  cases sideOf x.toModel.unpack with
  | below | zero | above | nowhere => decide

theorem isNaN_iff {x : Float} : x.isNaN = true ↔ side x = .nowhere := by
  change x.toModel.unpack.isNaN = true ↔ sideOf x.toModel.unpack = .nowhere
  match x.toModel.unpack with
  | .notANumber => decide
  | .zero _ | .infinity .positive | .infinity .negative
  | .finite .positive _ _ _ | .finite .negative _ _ _ => exact ⟨nofun, nofun⟩

/-- What is not above zero is at most zero, unless it is no number. -/
theorem le_zero_iff_not_lt {x : Float} : x ≤ 0 ↔ ¬ 0 < x ∧ ¬ x.isNaN = true := by
  rw [le_zero_iff, zero_lt_iff, isNaN_iff]
  cases side x with
  | below | zero | above | nowhere => decide

/-! ## Arithmetic -/

section Arithmetic

variable {u v : UnpackedFloat}

/-- The numbers that are not below zero. -/
theorem cases_of_ne_below (h : sideOf u ≠ .below) :
    u = .notANumber ∨ u = .infinity .positive ∨ (∃ sign, u = .zero sign) ∨
      ∃ m e hm, u = .finite .positive m e hm := by
  match u with
  | .notANumber => exact .inl rfl
  | .infinity .positive => exact .inr (.inl rfl)
  | .zero sign => exact .inr (.inr (.inl ⟨sign, rfl⟩))
  | .finite .positive m e hm => exact .inr (.inr (.inr ⟨m, e, hm, rfl⟩))
  | .infinity .negative | .finite .negative _ _ _ => exact absurd rfl h

/-- Zero added to a number is the number, or both are zero. -/
theorem add_zero_cases (u : UnpackedFloat) (sign : Sign) :
    add Format.binary64 u (.zero sign) = u ∨
      ∃ sign₁ sign₂, u = .zero sign₁ ∧
        add Format.binary64 u (.zero sign) = .zero sign₂ := by
  match u, sign with
  | .notANumber, _ | .infinity _, _ | .finite _ _ _ _, _ => exact .inl rfl
  | .zero .positive, .positive | .zero .negative, .positive
  | .zero .positive, .negative | .zero .negative, .negative => exact .inr ⟨_, _, rfl, rfl⟩

/-- A sum of positive finite numbers is above zero. -/
theorem add_finite_fits {m₁ m₂ : Nat} {e₁ e₂ : Int} (hm₁ : 0 < m₁) (hm₂ : 0 < m₂)
    (he₁ : -1074 ≤ e₁) (he₂ : -1074 ≤ e₂) :
    Fits (add Format.binary64 (.finite .positive m₁ e₁ hm₁) (.finite .positive m₂ e₂ hm₂)) ∧
      sideOf (add Format.binary64 (.finite .positive m₁ e₁ hm₁) (.finite .positive m₂ e₂ hm₂)) =
        .above := by
  simp only [UnpackedFloat.add, decreaseExponent, Sign.apply, Nat.shiftLeft_eq]
  have hpos : (0 : Int) < (m₁ * 2 ^ (e₁ - min e₁ e₂).toNat : Nat) +
      (m₂ * 2 ^ (e₂ - min e₁ e₂).toNat : Nat) := by
    have := Nat.mul_pos hm₁ (Nat.two_pow_pos (e₁ - min e₁ e₂).toNat)
    omega
  exact normalize_fits hpos (Int.le_min.mpr ⟨he₁, he₂⟩) .positive

/-- A sum of numbers that fit and are not below zero is of that kind too, and it is zero just if
both are. -/
theorem add_fits (hu : Fits u) (hv : Fits v) (hu' : sideOf u ≠ .below)
    (hv' : sideOf v ≠ .below) :
    Fits (add Format.binary64 u v) ∧ sideOf (add Format.binary64 u v) ≠ .below ∧
      (sideOf (add Format.binary64 u v) = .zero ↔ sideOf u = .zero ∧ sideOf v = .zero) := by
  rcases cases_of_ne_below hu' with rfl | rfl | ⟨sign₁, rfl⟩ | ⟨m₁, e₁, hm₁, rfl⟩
  · exact ⟨trivial, nofun, nofun, nofun⟩
  · rcases cases_of_ne_below hv' with rfl | rfl | ⟨sign₂, rfl⟩ | ⟨m₂, e₂, hm₂, rfl⟩ <;>
      exact ⟨trivial, nofun, nofun, nofun⟩
  · rcases cases_of_ne_below hv' with rfl | rfl | ⟨sign₂, rfl⟩ | ⟨m₂, e₂, hm₂, rfl⟩
    · exact ⟨trivial, nofun, nofun, nofun⟩
    · exact ⟨trivial, nofun, nofun, nofun⟩
    · rcases add_zero_cases (.zero sign₁) sign₂ with hsum | ⟨_, _, -, hsum⟩
      · rw [hsum]
        exact ⟨trivial, nofun, fun _ => ⟨rfl, rfl⟩, fun _ => rfl⟩
      · rw [hsum]
        exact ⟨trivial, nofun, fun _ => ⟨rfl, rfl⟩, fun _ => rfl⟩
    · exact ⟨hv, nofun, nofun, nofun⟩
  · rcases cases_of_ne_below hv' with rfl | rfl | ⟨sign₂, rfl⟩ | ⟨m₂, e₂, hm₂, rfl⟩
    · exact ⟨trivial, nofun, nofun, nofun⟩
    · exact ⟨trivial, nofun, nofun, nofun⟩
    · exact ⟨hu, nofun, nofun, nofun⟩
    · obtain ⟨hfits, hside⟩ := add_finite_fits hm₁ hm₂ hu.2 hv.2
      rw [hside]
      exact ⟨hfits, nofun, nofun, nofun⟩

/-- A product of numbers that are not below zero fits and is not below zero. -/
theorem mul_fits (hu : sideOf u ≠ .below) (hv : sideOf v ≠ .below) :
    Fits (mul Format.binary64 u v) ∧ sideOf (mul Format.binary64 u v) ≠ .below := by
  rcases cases_of_ne_below hu with rfl | rfl | ⟨sign₁, rfl⟩ | ⟨m₁, e₁, hm₁, rfl⟩
  · exact ⟨trivial, nofun⟩
  · rcases cases_of_ne_below hv with rfl | rfl | ⟨sign₂, rfl⟩ | ⟨m₂, e₂, hm₂, rfl⟩ <;>
      exact ⟨trivial, nofun⟩
  · rcases cases_of_ne_below hv with rfl | rfl | ⟨sign₂, rfl⟩ | ⟨m₂, e₂, hm₂, rfl⟩ <;>
      exact ⟨trivial, nofun⟩
  · rcases cases_of_ne_below hv with rfl | rfl | ⟨sign₂, rfl⟩ | ⟨m₂, e₂, hm₂, rfl⟩
    · exact ⟨trivial, nofun⟩
    · exact ⟨trivial, nofun⟩
    · exact ⟨trivial, nofun⟩
    · obtain ⟨hfits, hside⟩ :=
        roundWithAccuracy_fits (.positive * .positive) (m₁ * m₂) (e₁ + e₂) .exact
      refine ⟨hfits, fun hbelow => ?_⟩
      rcases hside with hside | ⟨hside, -⟩
      · exact nomatch hside.symm.trans hbelow
      · exact nomatch hside.symm.trans hbelow

theorem add_notANumber (u : UnpackedFloat) : add Format.binary64 u .notANumber = .notANumber := by
  match u with
  | .notANumber | .infinity _ | .finite _ _ _ _ | .zero _ => rfl

theorem compare_notANumber (u : UnpackedFloat) : u.compare .notANumber = none := by
  match u with
  | .notANumber | .infinity _ | .finite _ _ _ _ | .zero _ => rfl

end Arithmetic

/-! ## Floating point numbers -/

section Numbers

variable {r x y : Float}

theorem pack_unpack_toBits (x : Float) :
    pack Format.binary64 x.toModel.unpack = x.toModel.toBits.toBitVec :=
  pack_unpack_of_valid x.toModel.valid

theorem side_pack {u : UnpackedFloat} (h : Fits u) : side (.ofModel (.pack u)) = sideOf u :=
  sideOf_unpack_pack h

theorem fits_toModel (x : Float) : Fits x.toModel.unpack :=
  fits_unpack _

theorem not_lt_zero_of_le (h : 0 ≤ x) : ¬ x < 0 := by
  rw [lt_zero_iff]
  rcases zero_le_iff.mp h with h | h
  · exact fun hbelow => nomatch h.symm.trans hbelow
  · exact fun hbelow => nomatch h.symm.trans hbelow

theorem not_lt_zero_of_lt (h : 0 < x) : ¬ x < 0 := by
  rw [lt_zero_iff, zero_lt_iff.mp h]
  decide

theorem not_zero_lt_of_le (h : x ≤ 0) : ¬ 0 < x := by
  rw [zero_lt_iff]
  rcases le_zero_iff.mp h with h | h
  · exact fun habove => nomatch h.symm.trans habove
  · exact fun habove => nomatch h.symm.trans habove

theorem not_add_lt_zero (hx : ¬ x < 0) (hy : ¬ y < 0) : ¬ x + y < 0 := by
  rw [lt_zero_iff] at *
  obtain ⟨hfits, hside, -⟩ := add_fits (fits_toModel x) (fits_toModel y) hx hy
  exact fun h => hside ((sideOf_unpack_pack hfits).symm.trans h)

/-- A sum of numbers that are not below zero is zero just if both are. -/
theorem add_le_zero_iff (hx : ¬ x < 0) (hy : ¬ y < 0) : x + y ≤ 0 ↔ x ≤ 0 ∧ y ≤ 0 := by
  rw [lt_zero_iff] at hx hy
  simp only [le_zero_iff]
  obtain ⟨hfits, hside, hzero⟩ := add_fits (fits_toModel x) (fits_toModel y) hx hy
  have hsum : side (x + y) = _ := sideOf_unpack_pack hfits
  rw [hsum, or_iff_right hside, or_iff_right hx, or_iff_right hy]
  exact hzero

theorem not_mul_lt_zero (hx : ¬ x < 0) (hy : ¬ y < 0) : ¬ x * y < 0 := by
  rw [lt_zero_iff] at *
  obtain ⟨hfits, hside⟩ := mul_fits hx hy
  exact fun h => hside ((sideOf_unpack_pack hfits).symm.trans h)

/-- A sum only exceeds a target that its first part does not exceed if its second part is
not zero. -/
theorem lt_of_lt_add (hy : ¬ y < 0) (hy' : ¬ 0 < y) (h : r < x + y) : r < x := by
  rw [lt_zero_iff] at hy
  rw [zero_lt_iff] at hy'
  rw [lt_iff] at *
  have hsum : (x + y).toModel.unpack = unpack Format.binary64
      (pack Format.binary64 (add Format.binary64 x.toModel.unpack y.toModel.unpack)) := rfl
  have hsame : unpack Format.binary64 (pack Format.binary64 x.toModel.unpack) =
      x.toModel.unpack := by
    rw [pack_unpack_toBits]
    rfl
  rw [hsum] at h
  unfold side at hy hy'
  generalize y.toModel.unpack = v at *
  match v with
  | .infinity .negative | .finite .negative _ _ _ => exact absurd rfl hy
  | .infinity .positive | .finite .positive _ _ _ => exact absurd rfl hy'
  | .notANumber =>
      rw [add_notANumber] at h
      change r.toModel.unpack.compare .notANumber = some .lt at h
      rw [compare_notANumber] at h
      cases h
  | .zero sign =>
      rcases add_zero_cases x.toModel.unpack sign with heq | ⟨sign₁, sign₂, heq, heq'⟩
      · rw [heq, hsame] at h
        exact h
      · -- The two zeros compare alike, whatever their signs.
        rw [heq', UnpackedFloat.pack, unpack_packedZero, compare_zero] at h
        rw [heq, compare_zero]
        exact h

theorem not_toFloat_lt_zero (n : UInt64) : ¬ n.toFloat < 0 := by
  rw [lt_zero_iff]
  have hmodel : n.toFloat =
      .ofModel (.pack (UnpackedFloat.normalize Format.binary64 (n.toNat : Int) 0 .positive)) := rfl
  rw [hmodel]
  rcases Nat.eq_zero_or_pos n.toNat with hzero | hpos
  · rw [hzero]
    decide
  · have hexponent : -1074 ≤ (0 : Int) := by decide
    obtain ⟨hfits, hside⟩ := normalize_fits (Int.natCast_pos.mpr hpos) hexponent .positive
    rw [side_pack hfits, hside]
    decide

/-- A natural number is not below zero. -/
theorem not_ofNat_lt_zero (n : Nat) : ¬ Float.ofNat n < 0 := by
  change ¬ Float.ofScientific n false 0 < 0
  unfold Float.ofScientific
  split
  · have hone : ¬ Float.ofBits 0x3FF0000000000000 < 0 := by decide
    exact not_mul_lt_zero (not_toFloat_lt_zero _) hone
  · rw [lt_zero_iff]
    change ¬ side (.ofModel (.pack (UnpackedFloat.ofScientific Format.binary64 n 0))) = .below
    unfold UnpackedFloat.ofScientific
    split
    · decide
    · have hlarge : ¬ (0 : Int) < -((2 ^ 11 : Int) + n.log2) := by omega
      rw [if_neg (by decide), if_neg hlarge, if_pos (by decide)]
      obtain ⟨hfits, hside⟩ :=
        mul_fits (u := .finite .positive _ _ _) (v := .finite .positive _ _ _) nofun nofun
      rw [side_pack hfits]
      exact hside

theorem signed_nonneg_of_ofBits {bits : Nat} {d : Dyadic} (hd : Decoded.ofBits bits = .finite d)
    (hset : bits / twoPower 63 % 2 = 1 → bits / twoPower 52 % 2048 ≠ 2047 →
      bits / twoPower 52 % 2048 = 0 ∧ bits % twoPower 52 = 0) : 0 ≤ d.signed := by
  unfold Decoded.ofBits at hd
  generalize bits / twoPower 63 % 2 = signBit at *
  generalize bits / twoPower 52 % 2048 = biased at *
  generalize bits % twoPower 52 = fraction at *
  simp only at hd
  split at hd
  · split at hd
    · cases hd
    · cases hd
  · rename_i hfinite
    split at hd
    · cases hd
      unfold Dyadic.signed
      split
      · rename_i hone
        rw [(hset (by simpa using hone) hfinite).2]
        exact Int.le_refl 0
      · exact Int.natCast_nonneg _
    · rename_i hnormal
      cases hd
      unfold Dyadic.signed
      rw [if_neg]
      · exact Int.natCast_nonneg _
      · intro hone
        exact hnormal (hset (by simpa using hone) hfinite).1

/-- With the sign bit set, a number is below zero, or zero, or it is not finite. -/
theorem bits_of_sign_set {b : BitVec Format.binary64.numBits}
    (h : sideOf (unpack Format.binary64 b) ≠ .below) (hset : b.toNat / 2 ^ 63 % 2 = 1)
    (hfinite : b.toNat / 2 ^ 52 % 2048 ≠ 2047) :
    b.toNat / 2 ^ 52 % 2048 = 0 ∧ b.toNat % 2 ^ 52 = 0 := by
  have hmantissa := toNat_unpackMantissa b
  have hexponent := toNat_unpackExponent b
  have hsign : unpackSign b = 1#1 := BitVec.eq_of_toNat_eq ((toNat_unpackSign b).trans hset)
  have hmost : unpackExponent b ≠ -1#_ := fun h =>
    hfinite (hexponent.symm.trans (congrArg BitVec.toNat h))
  rw [sideOf_unpack, if_neg hmost] at h
  by_cases hzero : unpackExponent b = 0#_ ∧ unpackMantissa b = 0#_
  · exact ⟨hexponent.symm.trans (congrArg BitVec.toNat hzero.1),
      hmantissa.symm.trans (congrArg BitVec.toNat hzero.2)⟩
  · rw [if_neg hzero, hsign] at h
    exact absurd rfl h

/-- A finite number that is not below zero is read with a sign that says so, or as zero. -/
theorem signed_nonneg {d : Dyadic} (hx : ¬ x < 0) (hd : decode x = .finite d) :
    0 ≤ d.signed := by
  rw [lt_zero_iff] at hx
  exact signed_nonneg_of_ofBits hd (bits_of_sign_set hx)

/-- The integer part of a number that is not below zero. -/
theorem truncate_nonneg {d : Dyadic} (hx : ¬ x < 0) (hd : decode x = .finite d) :
    0 ≤ d.truncate := by
  have hsigned : 0 ≤ d.signed := signed_nonneg hx hd
  unfold Dyadic.truncate
  split
  · exact Int.mul_nonneg hsigned (Int.natCast_nonneg _)
  · exact Int.tdiv_nonneg hsigned (Int.natCast_nonneg _)

/-- With the sign bit set, an infinity is below zero. -/
theorem sideOf_unpack_infinity {b : BitVec Format.binary64.numBits}
    (hsign : b.toNat / 2 ^ 63 % 2 = 1) (hmost : b.toNat / 2 ^ 52 % 2048 = 2047)
    (hfraction : b.toNat % 2 ^ 52 = 0) : sideOf (unpack Format.binary64 b) = .below := by
  have hone : unpackSign b = 1#1 := BitVec.eq_of_toNat_eq ((toNat_unpackSign b).trans hsign)
  have hexponent : unpackExponent b = -1#_ :=
    BitVec.eq_of_toNat_eq ((toNat_unpackExponent b).trans hmost)
  have hmantissa : unpackMantissa b = 0#_ :=
    BitVec.eq_of_toNat_eq ((toNat_unpackMantissa b).trans hfraction)
  rw [sideOf_unpack, if_pos hexponent, if_pos hmantissa, hone]
  rfl

theorem lt_zero_of_infinite (h : decode x = .infinite true) : x < 0 := by
  unfold decode Decoded.ofBits at h
  simp only at h
  split at h
  · rename_i hmost
    split at h
    · rename_i hfraction
      have hsign : x.toBits.toNat / twoPower 63 % 2 = 1 := by simpa using Decoded.infinite.inj h
      exact lt_zero_iff.mpr (sideOf_unpack_infinity hsign hmost hfraction)
    · cases h
  · split at h
    · cases h
    · cases h

/-- A number that is exactly less than zero is below zero. -/
theorem lt_zero_of_compareInt? (h : compareInt? x 0 = some .lt) : x < 0 := by
  unfold compareInt? at h
  split at h
  · cases h
  · rename_i negative hinfinite
    cases negative with
    | true => exact lt_zero_of_infinite hinfinite
    | false => cases h
  · rename_i d hd
    by_contra hx
    have hsigned := signed_nonneg hx hd
    have hless : d.compareInt 0 = .lt := Option.some_inj.mp h
    unfold Dyadic.compareInt at hless
    split at hless
    · have hneg := compare_lt_iff_lt.mp hless
      exact absurd hneg (Int.not_lt.mpr (Int.mul_nonneg hsigned (Int.natCast_nonneg _)))
    · rw [Int.zero_mul] at hless
      exact absurd (compare_lt_iff_lt.mp hless) (Int.not_lt.mpr hsigned)

end Numbers

end PromptTree.Numeral
