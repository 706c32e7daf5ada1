import Mathlib.Algebra.BigOperators.Group.List.Basic
import Mathlib.Algebra.Order.BigOperators.Group.List
import Mathlib.Algebra.Order.Field.Basic
import Mathlib.Algebra.Order.Ring.Rat
import Mathlib.Order.Interval.Set.Defs
import PromptTree.Proofs.Random.Choice

/-!
# Shares of weights

A choice by weight is proportional.  Reckoned exactly, the draws that lead to a position form one
half-open interval, which begins where the shares of the earlier positions end and is as long as
the share of the position itself; and these intervals cover all draws from zero up to one
(`bucket?_proportional`).

This is said of the search that `weightedIndex` runs on floating point numbers, which is written
for any arithmetic, on the elements of an ordered field.

The search adds up the shares on its way, so the sum it has reached at a position is that of the
shares before it (`bucketFrom_eq_some_iff`).  No share is below zero, hence these sums only grow,
and there is no more than one position between whose sums a target lies.

## Main Definitions

* `shareBefore`, `totalShare` — the weights before a position, and all weights, those above zero
  added up.
-/

namespace PromptTree.Random

/-! ## Searching among shares -/

section Search

variable {K : Type} [AddCommGroup K] [LinearOrder K] {target sum : K} {shares : List K}
  {position found : Nat}

/-- Where the search finds nothing, the target is not below the sum of all shares. -/
theorem sum_le_of_bucketFrom (hsum : sum ≤ target)
    (h : bucketFrom target sum position shares = none) : sum + shares.sum ≤ target := by
  induction shares generalizing sum position with
  | nil =>
      rw [List.sum_nil, add_zero]
      exact hsum
  | cons share rest ih =>
      simp only [bucketFrom] at h
      split at h
      · cases h
      · rename_i hbeyond
        rw [List.sum_cons, ← add_assoc]
        exact ih (not_lt.mp hbeyond) h

variable [IsOrderedAddMonoid K]

/-- **The search finds the position between whose sums the target lies.** -/
theorem bucketFrom_eq_some_iff (hshares : ∀ share ∈ shares, 0 ≤ share) (hsum : sum ≤ target) :
    bucketFrom target sum position shares = some found ↔
      ∃ index, found = position + index ∧ sum + (shares.take index).sum ≤ target ∧
        target < sum + (shares.take (index + 1)).sum := by
  induction shares generalizing sum position with
  | nil =>
      constructor
      · intro h
        cases h
      · rintro ⟨index, -, hbelow, habove⟩
        rw [List.take_nil] at hbelow habove
        exact absurd habove (not_lt.mpr hbelow)
  | cons share rest ih =>
      rw [List.forall_mem_cons] at hshares
      simp only [bucketFrom]
      by_cases hinside : target < sum + share
      · rw [if_pos hinside]
        constructor
        · intro h
          cases h
          refine ⟨0, rfl, ?_, ?_⟩
          · rw [List.take_zero, List.sum_nil, add_zero]
            exact hsum
          · rw [List.take_succ_cons, List.take_zero, List.sum_cons, List.sum_nil, add_zero]
            exact hinside
        · rintro ⟨index, rfl, hbelow, -⟩
          cases index with
          | zero => rfl
          | succ index =>
              -- The sums do not fall, so the target is still below those of later positions.
              have hrest : 0 ≤ (rest.take index).sum :=
                List.sum_nonneg fun _ hmem => hshares.2 _ (List.mem_of_mem_take hmem)
              rw [List.take_succ_cons, List.sum_cons, ← add_assoc] at hbelow
              have := (le_add_of_nonneg_right hrest).trans hbelow
              exact absurd hinside (not_lt.mpr this)
      · rw [if_neg hinside, ih hshares.2 (not_lt.mp hinside)]
        constructor
        · rintro ⟨index, rfl, hbelow, habove⟩
          refine ⟨index + 1, by omega, ?_, ?_⟩
          · rw [List.take_succ_cons, List.sum_cons, ← add_assoc]
            exact hbelow
          · rw [List.take_succ_cons, List.sum_cons, ← add_assoc]
            exact habove
        · rintro ⟨index, rfl, hbelow, habove⟩
          rw [List.take_succ_cons, List.sum_cons, ← add_assoc] at habove
          cases index with
          | zero =>
              rw [List.take_zero, List.sum_nil, add_zero] at habove
              exact absurd habove hinside
          | succ index =>
              rw [List.take_succ_cons, List.sum_cons, ← add_assoc] at hbelow
              exact ⟨index, by omega, hbelow, habove⟩

end Search

/-! ## Sums of shares -/

section Sums

variable {K : Type} [AddCommGroup K] [LinearOrder K]

/-- The weights before a position added up, with nothing for those below zero. -/
def shareBefore (weights : List K) (position : Nat) : K :=
  ((weights.take position).map fun weight => max weight 0).sum

/-- All weights added up, with nothing for those below zero. -/
def totalShare (weights : List K) : K :=
  shareBefore weights weights.length

variable {weights : List K} {weight : K} {position : Nat}

theorem positivePart_eq_max (weight : K) : positivePart weight = max weight 0 := by
  unfold positivePart
  split
  · rename_i hneg
    exact (max_eq_right hneg.le).symm
  · rename_i hpos
    exact (max_eq_left (not_lt.mp hpos)).symm

theorem share_nonneg : ∀ share ∈ weights.map positivePart, 0 ≤ share := by
  rw [List.forall_mem_map]
  intro weight _
  rw [positivePart_eq_max]
  exact le_max_right weight 0

theorem sum_take_map_positivePart (weights : List K) (position : Nat) :
    ((weights.map positivePart).take position).sum = shareBefore weights position := by
  rw [← List.map_take, shareBefore, List.map_congr_left fun weight _ => positivePart_eq_max weight]

theorem totalWeight_map_positivePart (weights : List K) :
    totalWeight (weights.map positivePart) = totalShare weights := by
  rw [totalShare, ← sum_take_map_positivePart,
    List.take_of_length_le (by rw [List.length_map])]
  exact List.sum_eq_foldl.symm

theorem shareBefore_succ (h : weights[position]? = some weight) :
    shareBefore weights (position + 1) = shareBefore weights position + max weight 0 := by
  unfold shareBefore
  rw [List.take_add_one, h, List.map_append, List.sum_append, Option.toList_some,
    List.map_singleton, List.sum_singleton]

/-- Where the sum grows there is a weight above zero. -/
theorem exists_pos_of_shareBefore_lt
    (h : shareBefore weights position < shareBefore weights (position + 1)) :
    ∃ weight, weights[position]? = some weight ∧ 0 < weight := by
  cases hweight : weights[position]? with
  | none =>
      have hlength := List.getElem?_eq_none_iff.mp hweight
      unfold shareBefore at h
      rw [List.take_of_length_le hlength, List.take_of_length_le (by omega)] at h
      exact absurd h (lt_irrefl _)
  | some weight =>
      refine ⟨weight, rfl, ?_⟩
      rw [shareBefore_succ hweight] at h
      by_contra hnonpos
      rw [max_eq_right (not_lt.mp hnonpos), add_zero] at h
      exact absurd h (lt_irrefl _)

/-- Where there is no such position, the target is not below the sum of all shares. -/
theorem total_le_of_bucketFrom {target : K} (htarget : 0 ≤ target)
    (h : bucketFrom target 0 0 (weights.map positivePart) = none) :
    totalShare weights ≤ target := by
  have hsum := sum_le_of_bucketFrom htarget h
  rw [zero_add, List.sum_eq_foldl] at hsum
  rw [← totalWeight_map_positivePart]
  exact hsum

variable [IsOrderedAddMonoid K]

theorem shareBefore_nonneg (weights : List K) (position : Nat) :
    0 ≤ shareBefore weights position := by
  rw [← sum_take_map_positivePart]
  exact List.sum_nonneg fun _ hmem => share_nonneg _ (List.mem_of_mem_take hmem)

theorem shareBefore_le (weights : List K) (position : Nat) :
    shareBefore weights position ≤ totalShare weights := by
  rw [← totalWeight_map_positivePart, totalWeight, ← List.sum_eq_foldl,
    ← List.sum_take_add_sum_drop (weights.map positivePart) position, sum_take_map_positivePart]
  exact le_add_of_nonneg_right
    (List.sum_nonneg fun _ hmem => share_nonneg _ (List.mem_of_mem_drop hmem))

theorem total_pos (h : ∃ weight ∈ weights, 0 < weight) :
    0 < totalShare weights := by
  obtain ⟨weight, hmem, hpos⟩ := h
  have hshare : max weight 0 ∈ weights.map positivePart := by
    rw [← positivePart_eq_max]
    exact List.mem_map_of_mem hmem
  rw [← totalWeight_map_positivePart, totalWeight, ← List.sum_eq_foldl]
  exact (lt_max_of_lt_left hpos).trans_le (List.single_le_sum share_nonneg _ hshare)

/-- Among the shares of weights, the search finds the position between whose sums the target
lies. -/
theorem bucketFrom_share_eq_some_iff {target : K} (htarget : 0 ≤ target) :
    bucketFrom target 0 0 (weights.map positivePart) = some position ↔
      shareBefore weights position ≤ target ∧ target < shareBefore weights (position + 1) := by
  rw [bucketFrom_eq_some_iff share_nonneg htarget]
  simp only [zero_add, sum_take_map_positivePart]
  constructor
  · rintro ⟨index, rfl, h⟩
    exact h
  · intro h
    exact ⟨position, rfl, h⟩

end Sums

/-! ## The shares of positions -/

section Proportional

variable {K : Type} [Field K] [LinearOrder K] [IsStrictOrderedRing K] {weights : List K} {x : K}
  {position : Nat}

/-- A draw below one leads to the position between whose sums its part of the total lies. -/
theorem bucket?_eq_some_iff (h : ∃ weight ∈ weights, 0 < weight) (hzero : 0 ≤ x) (hone : x < 1) :
    bucket? x weights = some position ↔
      shareBefore weights position ≤ x * totalShare weights ∧
        x * totalShare weights < shareBefore weights (position + 1) := by
  have htotal := total_pos h
  have htarget := mul_nonneg hzero htotal.le
  rw [← bucketFrom_share_eq_some_iff htarget]
  simp only [bucket?, totalWeight_map_positivePart]
  split
  · rename_i found hfound
    rw [hfound]
  · rename_i hnone
    exact absurd (total_le_of_bucketFrom htarget hnone)
      (not_le.mpr (mul_lt_of_lt_one_left htotal hone))

/-- A draw of one is beyond all sums, and leads to the last position with a positive weight. -/
theorem bucket?_one (h : ∃ weight ∈ weights, 0 < weight) :
    ∃ position weight, bucket? 1 weights = some position ∧ weights[position]? = some weight ∧
      0 < weight ∧ ∀ later ∈ weights.drop (position + 1), later ≤ 0 := by
  have hpositive (weight : K) : 0 < positivePart weight ↔ 0 < weight := by
    rw [positivePart_eq_max, lt_max_iff, or_iff_left (lt_irrefl 0)]
  simp only [bucket?, totalWeight_map_positivePart, one_mul]
  split
  · rename_i found hfound
    rw [bucketFrom_share_eq_some_iff (total_pos h).le] at hfound
    exact absurd hfound.2 (not_lt.mpr (shareBefore_le weights (found + 1)))
  · cases hlast : lastPositiveFrom 0 (weights.map positivePart) with
    | none =>
        obtain ⟨weight, hmem, hpos⟩ := h
        have := lastPositiveFrom_eq_none hlast _ (List.mem_map_of_mem hmem)
        exact absurd ((hpositive weight).mpr hpos) this
    | some found =>
        obtain ⟨index, share, rfl, hshare, hpos, hlater⟩ := lastPositiveFrom_eq_some hlast
        rw [List.getElem?_map, Option.map_eq_some_iff] at hshare
        obtain ⟨weight, hweight, rfl⟩ := hshare
        rw [← List.map_drop, List.forall_mem_map] at hlater
        rw [Nat.zero_add]
        refine ⟨index, weight, rfl, hweight, (hpositive weight).mp hpos, fun later hmem => ?_⟩
        exact not_lt.mp ((hpositive later).not.mp (hlater later hmem))

/-- The draws below one that lead to a position. -/
theorem setOf_bucket?_eq_Ico (h : ∃ weight ∈ weights, 0 < weight) (position : Nat) :
    { x | 0 ≤ x ∧ x < 1 ∧ bucket? x weights = some position } =
      Set.Ico (shareBefore weights position / totalShare weights)
        (shareBefore weights (position + 1) / totalShare weights) := by
  have htotal := total_pos h
  ext x
  rw [Set.mem_ofPred_eq, Set.mem_Ico, div_le_iff₀ htotal, lt_div_iff₀ htotal]
  constructor
  · rintro ⟨hzero, hone, hfound⟩
    exact (bucket?_eq_some_iff h hzero hone).mp hfound
  · rintro ⟨hbelow, habove⟩
    have hzero : 0 ≤ x :=
      nonneg_of_mul_nonneg_left ((shareBefore_nonneg weights position).trans hbelow) htotal
    have hone : x < 1 := by
      have := habove.trans_le (shareBefore_le weights (position + 1))
      exact (mul_lt_iff_lt_one_left htotal).mp this
    exact ⟨hzero, hone, (bucket?_eq_some_iff h hzero hone).mpr ⟨hbelow, habove⟩⟩

/-- Every draw leads to a position, and the weight there is above zero. -/
theorem exists_bucket? (h : ∃ weight ∈ weights, 0 < weight) (hzero : 0 ≤ x) (hone : x ≤ 1) :
    ∃ position weight, bucket? x weights = some position ∧ weights[position]? = some weight ∧
      0 < weight := by
  rcases hone.lt_or_eq with hbelow | rfl
  · have htotal := total_pos h
    have htarget := mul_nonneg hzero htotal.le
    cases hfound : bucketFrom (x * totalShare weights) 0 0
        (weights.map positivePart) with
    | none =>
        exact absurd (total_le_of_bucketFrom htarget hfound)
          (not_le.mpr (mul_lt_of_lt_one_left htotal hbelow))
    | some position =>
        have hsums := (bucketFrom_share_eq_some_iff htarget).mp hfound
        obtain ⟨weight, hweight, hpos⟩ :=
          exists_pos_of_shareBefore_lt (hsums.1.trans_lt hsums.2)
        have hbucket := (bucket?_eq_some_iff h hzero hbelow).mpr hsums
        exact ⟨position, weight, hbucket, hweight, hpos⟩
  · obtain ⟨position, weight, hfound, hweight, hpos, -⟩ := bucket?_one h
    exact ⟨position, weight, hfound, hweight, hpos⟩

/-- **A choice by weight is proportional.**  In exact arithmetic, for weights of which one is above
zero, a draw from zero up to one leads to a position just if its part of the total is between the
shares before the position and those with it; so the draws that lead to a position are a half-open
interval as long as its share of the total.  A draw of one leads to the last position with a weight
above zero, and to a weight of zero or below leads no draw at all. -/
theorem bucket?_proportional {K : Type} [Field K] [LinearOrder K] [IsStrictOrderedRing K]
    (weights : List K) (h : ∃ weight ∈ weights, 0 < weight) :
    (totalWeight (weights.map positivePart) = totalShare weights ∧ 0 < totalShare weights) ∧
      (∀ x, 0 ≤ x → x < 1 → ∀ position, bucket? x weights = some position ↔
        shareBefore weights position ≤ x * totalShare weights ∧
          x * totalShare weights < shareBefore weights (position + 1)) ∧
      (∃ position weight, bucket? 1 weights = some position ∧ weights[position]? = some weight ∧
        0 < weight ∧ ∀ later ∈ weights.drop (position + 1), later ≤ 0) ∧
      (∀ position weight, weights[position]? = some weight →
        { x | 0 ≤ x ∧ x < 1 ∧ bucket? x weights = some position } =
            Set.Ico (shareBefore weights position / totalShare weights)
              (shareBefore weights (position + 1) / totalShare weights) ∧
          shareBefore weights (position + 1) / totalShare weights -
            shareBefore weights position / totalShare weights = max weight 0 / totalShare weights) ∧
      ∀ x, 0 ≤ x → x ≤ 1 → ∃ position weight, bucket? x weights = some position ∧
        weights[position]? = some weight ∧ 0 < weight := by
  refine ⟨⟨totalWeight_map_positivePart weights, total_pos h⟩, ?_, bucket?_one h, ?_, ?_⟩
  · intro x hzero hone position
    exact bucket?_eq_some_iff h hzero hone
  · intro position weight hweight
    refine ⟨setOf_bucket?_eq_Ico h position, ?_⟩
    rw [← sub_div, shareBefore_succ hweight, add_sub_cancel_left]
  · intro x hzero hone
    exact exists_bucket? h hzero hone

/-- Of the weights zero, two, minus one, three and zero, two fifths of the draws lead to the
second, all others to the fourth, and so does a draw of one. -/
theorem bucket?_proportional_fifths :
    let weights : List ℚ := [0, 2, -1, 3, 0]
    (∃ weight ∈ weights, 0 < weight) ∧
      { x | 0 ≤ x ∧ x < 1 ∧ bucket? x weights = some 1 } = Set.Ico 0 (2 / 5) ∧
      { x | 0 ≤ x ∧ x < 1 ∧ bucket? x weights = some 3 } = Set.Ico (2 / 5) 1 ∧
      bucket? 1 weights = some 3 := by
  intro weights
  have hpos : ∃ weight ∈ weights, 0 < weight := ⟨2, by decide, by decide⟩
  obtain ⟨-, -, -, hshares, -⟩ := bucket?_proportional weights hpos
  have htotal : totalShare weights = 5 := by decide +kernel
  have hfirst : shareBefore weights 1 = 0 := by decide +kernel
  have hsecond : shareBefore weights 2 = 2 := by decide +kernel
  have hthird : shareBefore weights 3 = 2 := by decide +kernel
  have hfourth : shareBefore weights 4 = 5 := by decide +kernel
  have htwo := (hshares 1 2 rfl).1
  have hthree := (hshares 3 3 rfl).1
  rw [htotal, hfirst, hsecond, zero_div] at htwo
  rw [htotal, hthird, hfourth, div_self (by decide)] at hthree
  exact ⟨hpos, htwo, hthree, by decide +kernel⟩

end Proportional

end PromptTree.Random
