import Mathlib.Data.Int.ModEq
import Mathlib.Dynamics.PeriodicPts.Lemmas
import Mathlib.Tactic.Ring
import PromptTree.Proofs.Random.Returns

/-!
# The period of the seeded generator

The states of the seeded generator form one cycle (`seeded_fullPeriod`): whatever the seed,
every state of 31 bits is met once in as many draws as there are states, and then the states
begin anew.  So two seeds lead to the same states, or they differ after every number of draws.

For this the factor of the congruence has to be one more than a multiple of four, and its
addend odd.  Without a modulus, `2 ^ k` steps then multiply a state by one more than a
multiple of `2 ^ (k + 2)`, and add an odd multiple of `2 ^ k`
(`exists_iterate_uncutStep_two_pow`, by induction on `k`).  So `2 ^ 31` steps lead back to the
same state, and `2 ^ 30` steps do not, which leaves no other period.

## Main Definitions

* `uncutStep` — the step of the congruence without the modulus.
-/

namespace PromptTree.Random

open Function Generator

/-! ## Steps without the modulus -/

/-- The step of the congruence, if states were not cut to 31 bits. -/
def uncutStep (state : Nat) : Nat :=
  state * multiplier + increment

theorem exists_iterate_uncutStep_two_pow (k : Nat) :
    ∃ t s, ∀ state,
      uncutStep^[2 ^ k] state = state * (1 + 2 ^ (k + 2) * t) + 2 ^ k * (2 * s + 1) := by
  induction k with
  | zero =>
      refine ⟨275878811, 6172, fun state => ?_⟩
      rw [pow_zero, iterate_one, uncutStep, multiplier, increment]
      ring
  | succ k ih =>
      obtain ⟨t, s, h⟩ := ih
      refine ⟨t + 2 ^ (k + 1) * t * t, s + 2 ^ k * t * (2 * s + 1), fun state => ?_⟩
      rw [pow_succ, mul_two, iterate_add_apply, h, h]
      ring

/-- The modulus may be left to the end. -/
theorem iterate_lcgStep_modEq (count state : Nat) :
    lcgStep^[count] state ≡ uncutStep^[count] state [MOD modulus] := by
  induction count with
  | zero => exact Nat.ModEq.refl state
  | succ count ih =>
      rw [iterate_succ_apply', iterate_succ_apply']
      calc lcgStep (lcgStep^[count] state)
          ≡ uncutStep (lcgStep^[count] state) [MOD modulus] := Nat.mod_modEq _ _
        _ ≡ uncutStep (uncutStep^[count] state) [MOD modulus] :=
            (ih.mul_right multiplier).add_right increment

/-! ## States -/

section States

variable {state other : Nat}

theorem modulus_pos : 0 < modulus := by decide

theorem modulus_eq_two_pow : modulus = 2 ^ 31 := rfl

theorem lcgStep_lt (state : Nat) : lcgStep state < modulus :=
  Nat.mod_lt _ modulus_pos

theorem iterate_lcgStep_lt (h : state < modulus) (count : Nat) :
    lcgStep^[count] state < modulus := by
  induction count with
  | zero => exact h
  | succ count _ =>
      rw [iterate_succ_apply']
      exact lcgStep_lt _

theorem iterate_modulus_lcgStep (h : state < modulus) : lcgStep^[modulus] state = state := by
  obtain ⟨t, s, huncut⟩ := exists_iterate_uncutStep_two_pow 31
  refine Nat.ModEq.eq_of_lt_of_lt ?_ (iterate_lcgStep_lt h modulus) h
  calc lcgStep^[modulus] state
      ≡ uncutStep^[modulus] state [MOD modulus] := iterate_lcgStep_modEq modulus state
    _ = state + modulus * (state * 4 * t + (2 * s + 1)) := by
        rw [modulus_eq_two_pow, huncut]
        ring
    _ ≡ state [MOD modulus] := Nat.add_mul_mod_self_left _ _ _

theorem iterate_half_lcgStep_ne (state : Nat) : lcgStep^[2 ^ 30] state ≠ state := by
  obtain ⟨t, s, huncut⟩ := exists_iterate_uncutStep_two_pow 30
  intro heq
  have hshift : state + 2 ^ 30 ≡ state [MOD modulus] := by
    calc state + 2 ^ 30
        ≡ state + 2 ^ 30 + modulus * (2 * state * t + s) [MOD modulus] :=
          (Nat.add_mul_mod_self_left _ _ _).symm
      _ = uncutStep^[2 ^ 30] state := by
          rw [modulus_eq_two_pow, huncut]
          ring
      _ ≡ lcgStep^[2 ^ 30] state [MOD modulus] := (iterate_lcgStep_modEq _ _).symm
      _ = state := heq
  have hdvd : modulus ∣ 2 ^ 30 := by
    simpa using (Nat.modEq_iff_dvd' (Nat.le_add_right state (2 ^ 30))).mp hshift.symm
  exact absurd hdvd (by decide)

/-- **Every state has the full period.** -/
theorem minimalPeriod_lcgStep (h : state < modulus) : minimalPeriod lcgStep state = modulus := by
  have hprime : Fact (Nat.Prime 2) := ⟨Nat.prime_two⟩
  rw [modulus_eq_two_pow]
  apply minimalPeriod_eq_prime_pow
  · exact iterate_half_lcgStep_ne state
  · exact iterate_modulus_lcgStep h

/-- A state is met again after a multiple of the period, and only then. -/
theorem iterate_lcgStep_eq_iff (h : state < modulus) {count : Nat} :
    lcgStep^[count] state = state ↔ modulus ∣ count := by
  rw [← minimalPeriod_lcgStep h]
  exact isPeriodicPt_iff_minimalPeriod_dvd

/-- The step permutes the states: all but one of the steps of a period undo it. -/
theorem lcgStep_bijOn : Set.BijOn lcgStep (Set.Iio modulus) (Set.Iio modulus) := by
  have hperiod : modulus = (modulus - 1).succ := by decide
  have hback : ∀ s < modulus, lcgStep^[modulus - 1] (lcgStep s) = s := by
    intro s hs
    rw [← iterate_succ_apply, ← hperiod]
    exact iterate_modulus_lcgStep hs
  refine ⟨fun state _ => lcgStep_lt state, ?_, fun state hstate => ?_⟩
  · intro state hstate other hother heq
    rw [← hback state hstate, heq, hback other hother]
  · refine ⟨lcgStep^[modulus - 1] state, iterate_lcgStep_lt hstate _, ?_⟩
    rw [← iterate_succ_apply' lcgStep, ← hperiod]
    exact iterate_modulus_lcgStep hstate

/-- Every state is met from every other one. -/
theorem exists_iterate_lcgStep_eq (h : state < modulus) (hother : other < modulus) :
    ∃ count < modulus, lcgStep^[count] state = other := by
  have hinj : Set.InjOn (lcgStep^[·] state) (Finset.range modulus) := by
    rw [Finset.coe_range, ← minimalPeriod_lcgStep h]
    exact iterate_injOn_Iio_minimalPeriod
  have hmaps : Set.MapsTo (lcgStep^[·] state) (Finset.range modulus) (Finset.range modulus) :=
    fun count _ => Finset.mem_coe.mpr (Finset.mem_range.mpr (iterate_lcgStep_lt h count))
  have hsurj := Finset.surjOn_of_injOn_of_card_le _ hmaps hinj (le_refl _)
  obtain ⟨count, hcount, heq⟩ := hsurj (Finset.mem_coe.mpr (Finset.mem_range.mpr hother))
  exact ⟨count, Finset.mem_range.mp (Finset.mem_coe.mp hcount), heq⟩

/-- **Every state is met once in a period**, from whichever state the period begins. -/
theorem existsUnique_iterate_lcgStep_eq (h : state < modulus) (hother : other < modulus) :
    ∃! count, count < modulus ∧ lcgStep^[count] state = other := by
  obtain ⟨count, hcount, heq⟩ := exists_iterate_lcgStep_eq h hother
  refine ⟨count, ⟨hcount, heq⟩, ?_⟩
  rintro again ⟨hagain, hsame⟩
  rw [← minimalPeriod_lcgStep h] at hcount hagain
  exact iterate_injOn_Iio_minimalPeriod hagain hcount (hsame.trans heq.symm)

end States

/-! ## Generators -/

/-- The first state of a seed. -/
def firstState (seed : Int) : Nat :=
  (seed % (modulus : Int)).toNat

theorem firstState_lt (seed : Int) : firstState seed < modulus := by
  have hpos : (0 : Int) < modulus := by decide
  have hless : seed % modulus < modulus := Int.emod_lt_of_pos seed hpos
  rwa [firstState, Int.toNat_lt (Int.emod_nonneg seed hpos.ne')]

/-- Seeds have the same first state if they are congruent. -/
theorem firstState_eq_iff {seed other : Int} :
    firstState seed = firstState other ↔ seed ≡ other [ZMOD modulus] := by
  have hnonneg : ∀ n : Int, 0 ≤ n % (modulus : Int) := fun n => Int.emod_nonneg n (by decide)
  constructor
  · intro h
    have hcast : (firstState seed : Int) = firstState other := congrArg Nat.cast h
    rwa [firstState, firstState, Int.toNat_of_nonneg (hnonneg seed),
      Int.toNat_of_nonneg (hnonneg other)] at hcast
  · intro h
    exact congrArg Int.toNat h

namespace Generator

theorem after_congruential (state count : Nat) :
    (congruential state).after count = .congruential (lcgStep^[count] state) := by
  induction count generalizing state with
  | zero => rfl
  | succ count ih =>
      rw [iterate_succ_apply, after]
      exact ih (lcgStep state)

theorem after_seeded (seed : Int) (count : Nat) :
    (seeded seed).after count = .congruential (lcgStep^[count] (firstState seed)) :=
  after_congruential (firstState seed) count

/-- A seeded generator is in a state, or is not, as its first state leads there. -/
theorem after_seeded_eq_iff {seed : Int} {count state : Nat} :
    (seeded seed).after count = .congruential state ↔
      lcgStep^[count] (firstState seed) = state := by
  rw [after_seeded, congruential.injEq]

end Generator

/-- **The seeded generator has full period.**

* The step of the congruence permutes the states, and they form a single cycle: from every
  state each is met after exactly one number of steps less than the number of states.
* A generator is as at first after every multiple of the period, and only then; and in every
  period, wherever it begins, it is in each state once.  One of them draws one.
* Seeds that are congruent, whatever their signs and sizes, lead to the same states, and seeds
  that are not have different states after every number of draws. -/
theorem seeded_fullPeriod :
    Set.BijOn lcgStep (Set.Iio modulus) (Set.Iio modulus) ∧
      (∀ state < modulus, ∀ other < modulus,
        ∃! count, count < modulus ∧ lcgStep^[count] state = other) ∧
      drawOf (modulus - 1) = 1 ∧
      ∀ seed : Int,
        (∀ count, (Generator.seeded seed).after count = .seeded seed ↔ modulus ∣ count) ∧
        (∀ first, ∀ state < modulus, ∃! count, (first ≤ count ∧ count < first + modulus) ∧
          (Generator.seeded seed).after count = .congruential state) ∧
        ∀ other : Int,
          (seed ≡ other [ZMOD modulus] →
            ∀ count, (Generator.seeded seed).after count = (Generator.seeded other).after count) ∧
          (¬ seed ≡ other [ZMOD modulus] →
            ∀ count,
              (Generator.seeded seed).after count ≠ (Generator.seeded other).after count) := by
  refine ⟨lcgStep_bijOn, fun state hstate other hother =>
    existsUnique_iterate_lcgStep_eq hstate hother, rfl, fun seed => ⟨fun count => ?_, ?_, ?_⟩⟩
  · rw [← iterate_lcgStep_eq_iff (firstState_lt seed)]
    exact after_seeded_eq_iff
  · intro first state hstate
    -- A period begins anew wherever the generator is.
    have hbegin := iterate_lcgStep_lt (firstState_lt seed) first
    obtain ⟨count, ⟨hcount, heq⟩, hunique⟩ := existsUnique_iterate_lcgStep_eq hbegin hstate
    refine ⟨count + first, ⟨⟨Nat.le_add_left _ _, by omega⟩, ?_⟩, ?_⟩
    · rw [after_seeded_eq_iff, iterate_add_apply, heq]
    · rintro again ⟨⟨hle, hless⟩, hagain⟩
      obtain ⟨rest, rfl⟩ := Nat.exists_eq_add_of_le' hle
      rw [after_seeded_eq_iff, iterate_add_apply] at hagain
      rw [hunique rest ⟨by omega, hagain⟩]
  · intro other
    refine ⟨fun h count => ?_, fun h count heq => h ?_⟩
    · rw [after_seeded, after_seeded, firstState_eq_iff.mpr h]
    · rw [after_seeded seed, eq_comm, after_seeded_eq_iff] at heq
      exact firstState_eq_iff.mp ((lcgStep_bijOn.iterate count).injOn (firstState_lt seed)
        (firstState_lt other) heq.symm)

end PromptTree.Random
