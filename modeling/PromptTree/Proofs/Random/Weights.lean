import PromptTree.Proofs.Random.Choice

/-!
# Choices by any weights

A choice by weights fails for one kind of weights only: none of them is above zero, and one is no
number (`Indeterminate`).  Their sum is no number either, and as it does not compare with zero, the
choice takes a draw and then finds no position for it (`weightedIndex_of_indeterminate`).

All other weights are decided, infinite ones and those below zero included.  If one is above zero
the choice returns a position of such a weight (`weightedIndex_of_pos`), and if all are numbers, and
none is above zero, it returns none and takes no draw (`weightedIndex_of_le`).  These three cases
exclude each other and there is no fourth (`weights_cases`).

## Main Definitions

* `Indeterminate` — weights for which there is no choice.
* `Source.Unfailing` — sources whose draws succeed and are from zero to one.
-/

namespace PromptTree.Random

/-- **No weight is above zero, and one of them is no number.** -/
structure Indeterminate (weights : List Float) : Prop where
  notAbove : ∀ weight ∈ weights, ¬ 0 < weight
  isNaN : ∃ weight ∈ weights, weight.isNaN = true

section Weights

variable {weights : List Float} {generator : Generator}

theorem weights_cases (weights : List Float) :
    (∃ weight ∈ weights, 0 < weight) ∨ (∀ weight ∈ weights, weight ≤ 0) ∨
      Indeterminate weights := by
  by_cases hpos : ∃ weight ∈ weights, 0 < weight
  · exact .inl hpos
  · have hnone : ∀ weight ∈ weights, ¬ 0 < weight := by
      intro weight hmem habove
      exact hpos ⟨weight, hmem, habove⟩
    by_cases hnan : ∃ weight ∈ weights, weight.isNaN = true
    · exact .inr (.inr ⟨hnone, hnan⟩)
    · refine .inr (.inl fun weight hmem => ?_)
      rw [Numeral.le_zero_iff_not_lt]
      exact ⟨hnone weight hmem, fun h => hnan ⟨weight, hmem, h⟩⟩

theorem Indeterminate.ne_nil (h : Indeterminate weights) : weights ≠ [] := by
  obtain ⟨weight, hmem, -⟩ := h.isNaN
  exact List.ne_nil_of_mem hmem

theorem Indeterminate.not_le (h : Indeterminate weights) : ¬ ∀ weight ∈ weights, weight ≤ 0 := by
  intro hall
  obtain ⟨weight, hmem, hnan⟩ := h.isNaN
  exact (Numeral.le_zero_iff_not_lt.mp (hall weight hmem)).2 hnan

theorem not_le_of_pos (h : ∃ weight ∈ weights, 0 < weight) :
    ¬ ∀ weight ∈ weights, weight ≤ 0 := by
  intro hall
  obtain ⟨weight, hmem, hpos⟩ := h
  exact Numeral.not_zero_lt_of_le (hall weight hmem) hpos

/-! ## Positions by weight -/

/-- Weights that add up to nothing decide nothing, and take no draw. -/
theorem weightedIndex_of_le (h : ∀ weight ∈ weights, weight ≤ 0) :
    weightedIndex weights generator = (.ok none, generator) := by
  unfold weightedIndex
  rw [if_pos (totalWeight_le_zero_iff.mpr h)]
  rfl

/-- All other weights take a draw. -/
theorem weightedIndex_of_draw (h : ¬ ∀ weight ∈ weights, weight ≤ 0) {x : Float}
    (hdraw : draw generator = (.ok x, generator.next.2)) :
    weightedIndex weights generator =
      (match bucket? x weights with
        | some position => .ok (some position)
        | none => .error .noPositiveWeight, generator.next.2) := by
  unfold weightedIndex
  rw [if_neg (mt totalWeight_le_zero_iff.mp h), bind_of_ok hdraw]
  cases bucket? x weights with
  | some position => rfl
  | none => rfl

/-- Without a bucket there is no weight above zero. -/
theorem not_pos_of_bucket?_eq_none {x : Float} (h : bucket? x weights = none) :
    ∀ weight ∈ weights, ¬ 0 < weight := by
  intro weight hmem hpos
  simp only [bucket?] at h
  split at h
  · cases h
  · have hshare := lastPositiveFrom_eq_none h _ (List.mem_map_of_mem hmem)
    rw [positivePart_of_pos hpos] at hshare
    exact hshare hpos

/-- **A weight above zero is found**, if there is one. -/
theorem weightedIndex_of_pos (hdraws : generator.Unfailing)
    (h : ∃ weight ∈ weights, 0 < weight) :
    ∃ position weight, weightedIndex weights generator =
        (.ok (some position), generator.next.2) ∧
      weights[position]? = some weight ∧ 0 < weight := by
  obtain ⟨x, hdraw, hzero, -⟩ := exists_draw hdraws
  rw [weightedIndex_of_draw (not_le_of_pos h) hdraw]
  cases hbucket : bucket? x weights with
  | none =>
      obtain ⟨weight, hmem, hpos⟩ := h
      exact absurd hpos (not_pos_of_bucket?_eq_none hbucket weight hmem)
  | some position =>
      obtain ⟨weight, hweight, hpos⟩ := bucket?_pos hzero hbucket
      exact ⟨position, weight, rfl, hweight, hpos⟩

/-- **A choice by indeterminate weights fails.** -/
theorem weightedIndex_of_indeterminate (hdraws : generator.Unfailing)
    (h : Indeterminate weights) :
    weightedIndex weights generator = (.error .noPositiveWeight, generator.next.2) := by
  obtain ⟨x, hdraw, hzero, -⟩ := exists_draw hdraws
  rw [weightedIndex_of_draw h.not_le hdraw]
  cases hbucket : bucket? x weights with
  | none => rfl
  | some position =>
      -- A bucket has a weight above zero, whatever the total is, and there is no such weight.
      obtain ⟨weight, hweight, hpos⟩ := bucket?_pos hzero hbucket
      exact absurd hpos (h.notAbove weight (List.mem_of_getElem? hweight))

/-- A choice by other weights returns. -/
theorem exists_weightedIndex (hdraws : generator.Unfailing) (h : ¬ Indeterminate weights) :
    ∃ found next, weightedIndex weights generator = (.ok found, next) ∧ next.Unfailing := by
  rcases weights_cases weights with hpos | hle | hindeterminate
  · obtain ⟨position, -, hrun, -⟩ := weightedIndex_of_pos hdraws hpos
    exact ⟨some position, generator.next.2, hrun, hdraws.next⟩
  · exact ⟨none, generator, weightedIndex_of_le hle, hdraws⟩
  · exact absurd hindeterminate h

theorem weightedIndex_eq_none_iff (hdraws : generator.Unfailing) :
    (weightedIndex weights generator).1 = .ok none ↔ ∀ weight ∈ weights, weight ≤ 0 := by
  constructor
  · intro hnone
    rcases weights_cases weights with hpos | hle | hindeterminate
    · obtain ⟨position, -, hrun, -⟩ := weightedIndex_of_pos hdraws hpos
      rw [hrun] at hnone
      cases hnone
    · exact hle
    · rw [weightedIndex_of_indeterminate hdraws hindeterminate] at hnone
      cases hnone
  · intro hle
    rw [weightedIndex_of_le hle]

theorem weightedIndex_eq_error_iff (hdraws : generator.Unfailing) {failure : Failure} :
    (weightedIndex weights generator).1 = .error failure ↔
      Indeterminate weights ∧ failure = .noPositiveWeight := by
  constructor
  · intro herror
    by_cases hindeterminate : Indeterminate weights
    · rw [weightedIndex_of_indeterminate hdraws hindeterminate] at herror
      cases herror
      exact ⟨hindeterminate, rfl⟩
    · obtain ⟨found, next, hrun, -⟩ := exists_weightedIndex hdraws hindeterminate
      rw [hrun] at herror
      cases herror
  · rintro ⟨hindeterminate, rfl⟩
    rw [weightedIndex_of_indeterminate hdraws hindeterminate]

end Weights

/-! ## Draws from sources -/

/-- **All draws of all nodes succeed, and are from zero to one**: those of the generator that nodes
share, or those of the one that every node starts anew. -/
def Source.Unfailing (source : Source) (generator : Generator) : Prop :=
  match source.nodeSeed? with
  | some seed => (Generator.legacy seed).Unfailing
  | none => generator.Unfailing

section Sources

variable {source : Source} {α : Type} {take : Draw α} {generator : Generator}

/-- What a node takes from a source it takes from a generator whose draws succeed: the shared one,
or one of its own, after which the shared one is as before. -/
theorem Source.exists_generator (take : Draw α) (h : source.Unfailing generator) :
    ∃ own : Generator, own.Unfailing ∧
      (source.drawFrom take generator).1 = (take own).1 ∧
      ((take own).2.Unfailing → source.Unfailing (source.drawFrom take generator).2) := by
  unfold Source.Unfailing Source.drawFrom at *
  cases hseed : source.nodeSeed? with
  | some seed =>
      simp only [hseed] at h ⊢
      exact ⟨.legacy seed, h, rfl, fun _ => h⟩
  | none =>
      simp only [hseed] at h ⊢
      exact ⟨generator, h, rfl, id⟩

/-- What is returned for every generator is returned for a source. -/
theorem Source.exists_drawFrom {P : α → Prop}
    (htake : ∀ generator : Generator, generator.Unfailing →
      ∃ a next, take generator = (.ok a, next) ∧ next.Unfailing ∧ P a)
    (h : source.Unfailing generator) :
    ∃ a next, source.drawFrom take generator = (.ok a, next) ∧ source.Unfailing next ∧ P a := by
  obtain ⟨own, hown, hresult, hafter⟩ := Source.exists_generator take h
  obtain ⟨a, next, hrun, hnext, ha⟩ := htake own hown
  rw [hrun] at hresult hafter
  exact ⟨a, (source.drawFrom take generator).2, Prod.ext hresult rfl, hafter hnext, ha⟩

/-- What fails for every generator fails for a source. -/
theorem Source.drawFrom_error {failure : Failure}
    (htake : ∀ generator : Generator, generator.Unfailing →
      (take generator).1 = .error failure)
    (h : source.Unfailing generator) : (source.drawFrom take generator).1 = .error failure := by
  obtain ⟨own, hown, hresult, -⟩ := Source.exists_generator take h
  rw [hresult]
  exact htake own hown

end Sources

end PromptTree.Random
