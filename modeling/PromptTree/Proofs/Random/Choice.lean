import Mathlib.Data.List.Perm.Basic
import PromptTree.Proofs.Random.Positions

/-!
# What choices return

Every choice stays within what it chooses from, for all draws from zero to one, with one
included: positions by weight have a weight above zero (`returns_weightedIndex`), samples
without duplicates have none and are as long as can be (`returns_sampleIndices`), and a
shuffled list has the items of the list, each once (`returns_shuffle`).

The search for a bucket keeps an invariant: the target is not below the sum so far.  It is
what makes the weight of the bucket that is found positive, rounding or not.

## Main Definitions

* `ItemsAt` — the items of a list at given positions.
* `repeatedLength` — the length of a sample with duplicates.
-/

namespace PromptTree.Random

open Generator (Bounded)

/-! ## Weights -/

section LastPositive

variable {α : Type} [OfNat α 0] [LT α] [DecidableLT α] {weights : List α} {position : Nat}

theorem lastPositiveFrom_eq_none (h : lastPositiveFrom position weights = none) :
    ∀ weight ∈ weights, ¬ 0 < weight := by
  induction weights generalizing position with
  | nil => exact List.forall_mem_nil _
  | cons weight rest ih =>
      simp only [lastPositiveFrom] at h
      split at h
      · cases h
      · rename_i hrest
        split at h
        · cases h
        · rename_i hweight
          exact List.forall_mem_cons.mpr ⟨hweight, ih hrest⟩

/-- The last positive weight is positive, and none after it is. -/
theorem lastPositiveFrom_eq_some {found : Nat}
    (h : lastPositiveFrom position weights = some found) :
    ∃ index weight, found = position + index ∧ weights[index]? = some weight ∧ 0 < weight ∧
      ∀ later ∈ weights.drop (index + 1), ¬ 0 < later := by
  induction weights generalizing position with
  | nil => cases h
  | cons weight rest ih =>
      simp only [lastPositiveFrom] at h
      split at h
      · rename_i last hlast
        cases h
        obtain ⟨index, weight', rfl, hweight', hpos, hlater⟩ := ih hlast
        exact ⟨index + 1, weight', by omega, hweight', hpos, hlater⟩
      · rename_i hrest
        split at h
        · rename_i hpos
          cases h
          exact ⟨0, weight, rfl, rfl, hpos, lastPositiveFrom_eq_none hrest⟩
        · cases h

end LastPositive

section Weights

variable {shares weights : List Float}

theorem not_positivePart_lt_zero (weight : Float) : ¬ positivePart weight < 0 := by
  unfold positivePart
  split
  · decide
  · assumption

theorem positivePart_le_zero_iff {weight : Float} : positivePart weight ≤ 0 ↔ weight ≤ 0 := by
  unfold positivePart
  split
  · rename_i hneg
    refine iff_of_true (by decide) ?_
    exact Numeral.le_zero_iff.mpr (.inl (Numeral.lt_zero_iff.mp hneg))
  · rfl

theorem positivePart_of_pos {weight : Float} (h : 0 < weight) : positivePart weight = weight :=
  if_neg (Numeral.not_lt_zero_of_lt h)

theorem pos_of_positivePart {weight : Float} (h : 0 < positivePart weight) : 0 < weight := by
  unfold positivePart at h
  split at h
  · exact absurd h (by decide)
  · exact h

/-- What is added up from numbers that are not below zero is not below zero, and it is zero just if
all of them are. -/
theorem foldl_add_zero {sum : Float} (hsum : ¬ sum < 0) (hshares : ∀ share ∈ shares, ¬ share < 0) :
    ¬ shares.foldl (· + ·) sum < 0 ∧
      (shares.foldl (· + ·) sum ≤ 0 ↔ sum ≤ 0 ∧ ∀ share ∈ shares, share ≤ 0) := by
  induction shares generalizing sum with
  | nil => exact ⟨hsum, fun h => ⟨h, List.forall_mem_nil _⟩, And.left⟩
  | cons share rest ih =>
      rw [List.forall_mem_cons] at hshares
      obtain ⟨hbelow, hzero⟩ := ih (Numeral.not_add_lt_zero hsum hshares.1) hshares.2
      refine ⟨hbelow, ?_⟩
      rw [List.foldl_cons, hzero, Numeral.add_le_zero_iff hsum hshares.1, List.forall_mem_cons,
        and_assoc]

/-- **The bucket that is found has a share above zero**: the target was not below the sum
before it. -/
theorem bucketFrom_pos {target sum : Float} (hshares : ∀ share ∈ shares, ¬ share < 0)
    (hsum : ¬ target < sum) {position found : Nat}
    (h : bucketFrom target sum position shares = some found) :
    ∃ index share, found = position + index ∧ shares[index]? = some share ∧ 0 < share := by
  induction shares generalizing sum position with
  | nil => cases h
  | cons share rest ih =>
      rw [List.forall_mem_cons] at hshares
      simp only [bucketFrom] at h
      split at h
      · rename_i hinside
        cases h
        refine ⟨0, share, rfl, rfl, ?_⟩
        -- With a share of zero the sum stays where it was, and the target is not below it.
        by_contra hzero
        exact hsum (Numeral.lt_of_lt_add hshares.1 hzero hinside)
      · rename_i hbeyond
        obtain ⟨index, share', rfl, hshare', hpos⟩ := ih hshares.2 hbeyond h
        exact ⟨index + 1, share', by omega, hshare', hpos⟩

/-- A position whose share is above zero has a weight above zero. -/
theorem weight_pos_of_share {found : Nat}
    (h : ∃ index share, found = 0 + index ∧ (weights.map positivePart)[index]? = some share ∧
      0 < share) :
    ∃ weight, weights[found]? = some weight ∧ 0 < weight := by
  obtain ⟨index, share, rfl, hshare, hpos⟩ := h
  rw [List.getElem?_map, Option.map_eq_some_iff] at hshare
  obtain ⟨weight, hweight, rfl⟩ := hshare
  rw [Nat.zero_add]
  exact ⟨weight, hweight, pos_of_positivePart hpos⟩

theorem not_share_lt_zero : ∀ share ∈ weights.map positivePart, ¬ share < 0 := by
  rw [List.forall_mem_map]
  exact fun weight _ => not_positivePart_lt_zero weight

/-- The weights add up to nothing just if none is above zero and all are numbers. -/
theorem totalWeight_le_zero_iff :
    totalWeight (weights.map positivePart) ≤ 0 ↔ ∀ weight ∈ weights, weight ≤ 0 := by
  have hzero : ¬ (0 : Float) < 0 := by decide
  rw [totalWeight, (foldl_add_zero hzero not_share_lt_zero).2, List.forall_mem_map]
  simp only [positivePart_le_zero_iff]
  exact and_iff_right (by decide)

theorem bucket?_pos {x : Float} (hx : 0 ≤ x) {found : Nat} (h : bucket? x weights = some found) :
    ∃ weight, weights[found]? = some weight ∧ 0 < weight := by
  have htotal : ¬ totalWeight (weights.map positivePart) < 0 :=
    (foldl_add_zero (by decide) not_share_lt_zero).1
  unfold bucket? at h
  simp only at h
  split at h
  · rename_i position hbucket
    cases h
    exact weight_pos_of_share (bucketFrom_pos not_share_lt_zero
      (Numeral.not_mul_lt_zero (Numeral.not_lt_zero_of_le hx) htotal) hbucket)
  · obtain ⟨index, share, hfound, hshare, hpos, -⟩ := lastPositiveFrom_eq_some h
    exact weight_pos_of_share ⟨index, share, hfound, hshare, hpos⟩

/-- **A position by weight has a weight above zero**, and there is none only if no weight is
above zero. -/
theorem returns_weightedIndex (weights : List Float) :
    Returns Bounded (weightedIndex weights) fun found =>
      match found with
      | some position => ∃ weight, weights[position]? = some weight ∧ 0 < weight
      | none => ∀ weight ∈ weights, ¬ 0 < weight := by
  unfold weightedIndex
  split
  · rename_i htotal
    refine Returns.value fun weight hweight hpos => ?_
    exact Numeral.not_zero_lt_of_le (totalWeight_le_zero_iff.mp htotal weight hweight) hpos
  · refine returns_draw.bind fun x hx => ?_
    split
    · rename_i position hbucket
      exact Returns.value (bucket?_pos hx.1 hbucket)
    · exact Returns.failure _ _

end Weights

/-! ## Items at positions -/

section Positions

variable {α : Type} {items chosen : List α} {positions : List Nat}

/-- The items of a list at positions, in the order of the positions. -/
def ItemsAt (items : List α) (positions : List Nat) (chosen : List α) : Prop :=
  List.Forall₂ (fun position item => items[position]? = some item) positions chosen

theorem itemsAt_of_map_eq (h : positions.map (items[·]?) = chosen.map some) :
    ItemsAt items positions chosen := by
  rw [← List.forall₂_eq_eq_eq, List.forall₂_map_left_iff, List.forall₂_map_right_iff] at h
  exact h

theorem ItemsAt.take (h : ItemsAt items positions chosen) (count : Nat) :
    ItemsAt items (positions.take count) (chosen.take count) :=
  List.forall₂_take count h

/-- Positions in a list are those of some items. -/
theorem exists_itemsAt (h : ∀ position ∈ positions, position < items.length) :
    ∃ chosen, ItemsAt items positions chosen := by
  induction positions with
  | nil => exact ⟨[], .nil⟩
  | cons position rest ih =>
      rw [List.forall_mem_cons] at h
      obtain ⟨chosen, hchosen⟩ := ih h.2
      exact ⟨items.get ⟨position, h.1⟩ :: chosen, .cons (List.getElem?_eq_getElem h.1) hchosen⟩

end Positions

/-! ## Samples -/

theorem mem_choices_replicate {positions : List Nat} {size wanted : Nat} :
    positions ∈ Choices (List.replicate wanted size) ↔
      positions.length = wanted ∧ ∀ position ∈ positions, position < size := by
  induction positions generalizing wanted with
  | nil =>
      cases wanted with
      | zero => exact ⟨fun _ => ⟨rfl, List.forall_mem_nil _⟩, fun _ => .nil⟩
      | succ wanted => exact ⟨nofun, nofun⟩
  | cons position positions ih =>
      cases wanted with
      | zero => exact ⟨nofun, nofun⟩
      | succ wanted =>
          rw [List.replicate_succ, cons_mem_choices, ih, List.length_cons, List.forall_mem_cons,
            Nat.succ_inj, and_left_comm]

/-- What is taken out of a pool was in it, each item once. -/
theorem pickFrom_subperm {α : Type} (positions : List Nat) (pool : List α) :
    (pickFrom positions pool).Subperm pool := by
  induction positions generalizing pool with
  | nil => exact List.nil_subperm
  | cons position positions ih =>
      unfold pickFrom
      split
      · rename_i item hitem
        obtain ⟨hlt, rfl⟩ := List.getElem?_eq_some_iff.mp hitem
        have hperm : (pool[position] :: pool.eraseIdx position).Perm pool :=
          List.getElem_cons_eraseIdx_perm hlt
        exact ((List.subperm_cons pool[position]).mpr (ih _)).trans hperm.subperm
      · exact List.nil_subperm

theorem nodup_pickFrom {α : Type} {pool : List α} (hnodup : pool.Nodup) (positions : List Nat) :
    (pickFrom positions pool).Nodup := by
  obtain ⟨taken, hperm, hsublist⟩ := pickFrom_subperm positions pool
  exact hperm.nodup_iff.mp (hnodup.sublist hsublist)

/-- From a pool that shrinks one item is taken for each position. -/
theorem length_pickFrom {α : Type} {positions : List Nat} {pool : List α} {count : Nat}
    (h : positions ∈ Choices (countdown pool.length count)) :
    (pickFrom positions pool).length = count := by
  induction count generalizing positions pool with
  | zero =>
      cases h
      rfl
  | succ count ih =>
      cases h with
      | @cons position _ positions _ hposition hpositions =>
          rw [← List.length_eraseIdx_of_lt hposition] at hpositions
          simp only [pickFrom, List.getElem?_eq_getElem hposition]
          exact congrArg (· + 1) (ih hpositions)

/-- What is picked of all positions: so many, all different. -/
theorem pickFrom_range {positions : List Nat} {size count : Nat}
    (h : positions ∈ Choices (countdown size count)) :
    (pickFrom positions (List.range size)).Nodup ∧
      (pickFrom positions (List.range size)).length = count ∧
      ∀ index ∈ pickFrom positions (List.range size), index < size := by
  have hsubset := (pickFrom_subperm positions (List.range size)).subset
  refine ⟨nodup_pickFrom List.nodup_range positions, ?_, ?_⟩
  · exact length_pickFrom (List.length_range.symm ▸ h)
  · exact fun index hindex => List.mem_range.mp (hsubset hindex)

/-- How many positions a sample with duplicates has: as many as are wanted, if there are any. -/
def repeatedLength (size : Nat) (wanted : Int) : Nat :=
  if size = 0 then 0 else wanted.toNat

theorem sampleIndices_false (size : Nat) (wanted : Int) :
    sampleIndices size wanted false = do
      let positions ← drawPositions (countdown size (min wanted.toNat size))
      return pickFrom positions (List.range size) := by
  unfold sampleIndices
  rw [shrinkingPositions_eq_drawPositions]
  split
  · rename_i hempty
    rw [hempty, Nat.min_zero]
    rfl
  · rfl

theorem sampleIndices_true (size : Nat) (wanted : Int) :
    sampleIndices size wanted true =
      drawPositions (List.replicate (repeatedLength size wanted) size) := by
  unfold sampleIndices repeatedLength
  rw [repeatedPositions_eq_drawPositions]
  split
  · rfl
  · rfl

/-- **Samples are within their size**, of the length that is wanted; without duplicates no
position is in them twice, and no more are wanted than there are. -/
theorem returns_sampleIndices {size : Nat} (hsize : 0 < size) (wanted : Int)
    (allowDuplicates : Bool) :
    Returns Bounded (sampleIndices size wanted allowDuplicates) fun positions =>
      (∀ position ∈ positions, position < size) ∧
        if allowDuplicates then positions.length = wanted.toNat
        else positions.Nodup ∧ positions.length = min wanted.toNat size := by
  cases allowDuplicates with
  | true =>
      have hlength : repeatedLength size wanted = wanted.toNat := if_neg (Nat.ne_of_gt hsize)
      rw [sampleIndices_true, hlength]
      have hsizes : ∀ n ∈ List.replicate wanted.toNat size, 0 < n :=
        fun n hn => List.eq_of_mem_replicate hn ▸ hsize
      refine (returns_drawPositions hsizes).imp fun positions h => ?_
      have := mem_choices_replicate.mp h
      exact ⟨this.2, this.1⟩
  | false =>
      rw [sampleIndices_false]
      have hsizes : ∀ n ∈ countdown size (min wanted.toNat size), 0 < n :=
        fun n hn => (bounds_of_mem_countdown (Nat.min_le_right _ _) hn).1
      refine (returns_drawPositions hsizes).map fun positions h => ?_
      obtain ⟨hnodup, hlength, hbelow⟩ := pickFrom_range h
      exact ⟨hbelow, hnodup, hlength⟩

/-! ## Arrangements -/

theorem swap_perm {α : Type} (i j : Nat) (items : List α) : (swap i j items).Perm items := by
  unfold swap
  split
  · rename_i a b ha hb
    obtain ⟨hi, rfl⟩ := List.getElem?_eq_some_iff.mp ha
    obtain ⟨hj, rfl⟩ := List.getElem?_eq_some_iff.mp hb
    exact List.set_set_perm hi hj
  · exact .refl _

theorem arrange_perm {α : Type} (place : Nat) (positions : List Nat) (items : List α) :
    (arrange place positions items).Perm items := by
  induction place generalizing positions items with
  | zero => exact .refl _
  | succ place ih =>
      cases positions with
      | nil => exact .refl _
      | cons position positions => exact (ih positions _).trans (swap_perm _ _ items)

theorem swap_map {α β : Type} (f : α → β) (i j : Nat) (items : List α) :
    swap i j (items.map f) = (swap i j items).map f := by
  unfold swap
  rw [List.getElem?_map, List.getElem?_map]
  cases items[i]? with
  | none => rfl
  | some a =>
      cases items[j]? with
      | none => rfl
      | some b => simp only [Option.map_some, List.map_set]

theorem arrange_map {α β : Type} (f : α → β) (place : Nat) (positions : List Nat)
    (items : List α) :
    arrange place positions (items.map f) = (arrange place positions items).map f := by
  induction place generalizing positions items with
  | zero => rfl
  | succ place ih =>
      cases positions with
      | nil => rfl
      | cons position positions =>
          simp only [arrange]
          rw [swap_map, ih]

/-- The items are where their positions are. -/
theorem itemsAt_arrange {α : Type} (place : Nat) (positions : List Nat) (items : List α) :
    ItemsAt items (arrange place positions (List.range items.length))
      (arrange place positions items) := by
  have hall : (List.range items.length).map (items[·]?) = items.map some :=
    List.ext_getElem (by simp) fun _ _ _ => by simp
  refine itemsAt_of_map_eq ?_
  rw [← arrange_map, hall, arrange_map]

/-- **A shuffled list has the items of the list at all its positions, each once.** -/
theorem returns_shuffle {α : Type} (items : List α) :
    Returns Bounded (shuffle items) fun shuffled =>
      ∃ positions, positions.Perm (List.range items.length) ∧
        ItemsAt items positions shuffled := by
  have hsizes : ∀ n ∈ countdown (items.length - 1 + 1) (items.length - 1), 0 < n :=
    fun n hn => (bounds_of_mem_countdown (Nat.le_succ _) hn).1
  simp only [shuffle, arrangement_eq_drawPositions]
  exact (returns_drawPositions hsizes).map fun drawn _ =>
    ⟨_, arrange_perm _ drawn _, itemsAt_arrange _ drawn items⟩

end PromptTree.Random
