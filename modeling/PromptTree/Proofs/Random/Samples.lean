import Mathlib.Data.Set.Function
import PromptTree.Proofs.Random.Choice

/-!
# Samples

Samples are fair.  Without duplicates, the positions that are drawn in the shrinking pool
correspond one to one to the arrangements of so many positions out of all; with duplicates they
are the sample (`sampleIndices_fair`).

What is picked first says which position was drawn for it, as no item is in the pool twice, and
the rest was drawn from what is left of the pool (`pickFrom_injOn`, `exists_pickFrom_eq`).
-/

namespace PromptTree.Random

/-! ## Pools -/

section Pools

variable {α : Type} {pool picked : List α}

theorem pickFrom_cons {position : Nat} (hposition : position < pool.length)
    (positions : List Nat) :
    pickFrom (position :: positions) pool =
      pool[position] :: pickFrom positions (pool.eraseIdx position) := by
  simp only [pickFrom, List.getElem?_eq_getElem hposition]

/-- **Different positions pick different items.** -/
theorem pickFrom_injOn (hnodup : pool.Nodup) (count : Nat) :
    Set.InjOn (pickFrom · pool) (Choices (countdown pool.length count)) := by
  induction count generalizing pool with
  | zero =>
      intro positions hpositions positions' hpositions' _
      cases hpositions
      cases hpositions'
      rfl
  | succ count ih =>
      intro positions hpositions positions' hpositions' heq
      cases hpositions with
      | @cons position _ positions _ hposition hpositions =>
          cases hpositions' with
          | @cons position' _ positions' _ hposition' hpositions' =>
              simp only [pickFrom_cons hposition, pickFrom_cons hposition', List.cons.injEq] at heq
              obtain ⟨hitem, heq⟩ := heq
              have hsame : position = position' := hnodup.getElem_inj_iff.mp hitem
              subst hsame
              rw [← List.length_eraseIdx_of_lt hposition] at hpositions hpositions'
              rw [ih (hnodup.eraseIdx position) hpositions hpositions' heq]

/-- **Whatever the pool holds can be picked**, in any order. -/
theorem exists_pickFrom_eq (hnodup : picked.Nodup) (hsubset : picked ⊆ pool) :
    ∃ positions ∈ Choices (countdown pool.length picked.length),
      pickFrom positions pool = picked := by
  induction picked generalizing pool with
  | nil => exact ⟨[], .nil, rfl⟩
  | cons item picked ih =>
      rw [List.nodup_cons] at hnodup
      rw [List.cons_subset] at hsubset
      obtain ⟨position, hposition, hitem⟩ := List.getElem_of_mem hsubset.1
      have hrest : picked ⊆ pool.eraseIdx position := by
        intro other hother
        obtain ⟨index, hindex, hat⟩ := List.getElem_of_mem (hsubset.2 hother)
        rw [List.mem_eraseIdx_iff_getElem]
        refine ⟨index, hindex, ?_, hat⟩
        rintro rfl
        rw [hitem] at hat
        exact hnodup.1 (hat ▸ hother)
      obtain ⟨positions, hpositions, hpicked⟩ := ih hnodup.2 hrest
      rw [List.length_eraseIdx_of_lt hposition] at hpositions
      refine ⟨position :: positions, cons_mem_choices.mpr ⟨hposition, hpositions⟩, ?_⟩
      rw [pickFrom_cons hposition, hitem, hpicked]

end Pools

theorem pickFrom_bijOn (size count : Nat) :
    Set.BijOn (fun positions => pickFrom positions (List.range size))
      (Choices (countdown size count))
      { picked | picked.Nodup ∧ picked.length = count ∧ ∀ index ∈ picked, index < size } := by
  have hlength : (List.range size).length = size := List.length_range
  refine ⟨fun positions hpositions => pickFrom_range hpositions, ?_, ?_⟩
  · have hinjective := pickFrom_injOn (List.nodup_range (n := size)) count
    rw [hlength] at hinjective
    exact hinjective
  · rintro picked ⟨hnodup, rfl, hbelow⟩
    have hexists := exists_pickFrom_eq hnodup fun index hindex =>
      List.mem_range.mpr (hbelow index hindex)
    rw [hlength] at hexists
    exact hexists

/-! ## Sampled positions -/

theorem repeatedPositions_bijOn (size count : Nat) :
    Set.BijOn id (Choices (List.replicate count size))
      { picked | picked.length = count ∧ ∀ index ∈ picked, index < size } := by
  have hsame : Choices (List.replicate count size) =
      { picked | picked.length = count ∧ ∀ index ∈ picked, index < size } :=
    Set.ext fun picked => mem_choices_replicate
  rw [hsame]
  exact Set.bijOn_id _

/-- **Samples are fair.**  Without duplicates a sample has as many positions as are wanted, or as
there are, all below the size and no two the same, and such samples correspond one to one to the
positions that may be chosen in the pool that shrinks.  With duplicates it has as many as are
wanted, all below the size, and it is what is chosen.  From every generator whose draws are from
zero to one, one draw is taken for each position.

A wanted number below zero counts as none.  Only of sizes with more than a thousand binary digits,
which floating point cannot count, nothing is said of what is drawn. -/
theorem sampleIndices_fair (size : Nat) (wanted : Int) :
    Set.BijOn (fun positions => pickFrom positions (List.range size))
        (Choices (countdown size (min wanted.toNat size)))
        { picked | picked.Nodup ∧ picked.length = min wanted.toNat size ∧
          ∀ index ∈ picked, index < size } ∧
      Set.BijOn id (Choices (List.replicate (repeatedLength size wanted) size))
        { picked | picked.length = repeatedLength size wanted ∧ ∀ index ∈ picked, index < size } ∧
      ∀ generator : Generator, generator.Unfailing → size.log2 < 1000 →
        (∃ positions ∈ Choices (countdown size (min wanted.toNat size)),
          drawPositions (countdown size (min wanted.toNat size)) generator =
              (.ok positions, generator.after (min wanted.toNat size)) ∧
            sampleIndices size wanted false generator =
              (.ok (pickFrom positions (List.range size)),
                generator.after (min wanted.toNat size))) ∧
          ∃ positions ∈ Choices (List.replicate (repeatedLength size wanted) size),
            drawPositions (List.replicate (repeatedLength size wanted) size) generator =
                (.ok positions, generator.after (repeatedLength size wanted)) ∧
              sampleIndices size wanted true generator =
                (.ok positions, generator.after (repeatedLength size wanted)) := by
  refine ⟨pickFrom_bijOn _ _, repeatedPositions_bijOn _ _, fun generator hdraws hsize => ⟨?_, ?_⟩⟩
  · obtain ⟨positions, hpositions, hdrawn⟩ :=
      exists_drawPositions_countdown (Nat.min_le_right wanted.toNat size) hsize hdraws
    refine ⟨positions, hpositions, hdrawn, ?_⟩
    rw [sampleIndices_false, bind_of_ok hdrawn]
    rfl
  · have hsizes : ∀ n ∈ List.replicate (repeatedLength size wanted) size,
        0 < n ∧ n.log2 < 1000 := by
      intro n hn
      obtain ⟨hlength, rfl⟩ := List.mem_replicate.mp hn
      refine ⟨Nat.pos_of_ne_zero fun hempty => hlength ?_, hsize⟩
      rw [repeatedLength, if_pos hempty]
    obtain ⟨positions, hpositions, hdrawn⟩ := exists_drawPositions
      (fun n hn => (hsizes n hn).1) (fun n hn => (hsizes n hn).2) hdraws
    rw [List.length_replicate] at hdrawn
    rw [sampleIndices_true]
    exact ⟨positions, hpositions, hdrawn, hdrawn⟩

/-- Two of three positions with the draws one half and one: the middle one, and then the last of
the two that are left; with duplicates, the last one of all three. -/
theorem sampleIndices_fair_three :
    let generator := Generator.sequence (fun index => if index = 0 then 0.5 else 1) 0
    generator.Unfailing ∧ Nat.log2 3 < 1000 ∧
      [1, 1] ∈ Choices (countdown 3 2) ∧
      sampleIndices 3 2 false generator = (.ok [1, 2], generator.after 2) ∧
      [1, 2] ∈ Choices (List.replicate 2 3) ∧
      sampleIndices 3 2 true generator = (.ok [1, 2], generator.after 2) := by
  intro generator
  have hdraws : generator.Unfailing := by
    refine Generator.unfailing_sequence (fun index => ?_) 0
    split
    · decide
    · decide
  have hsize : Nat.log2 3 < 1000 := by decide
  obtain ⟨⟨positions, hpositions, hdrawn, hrun⟩, positions', hpositions', hdrawn', hrun'⟩ :=
    (sampleIndices_fair 3 2).2.2 generator hdraws hsize
  have hchosen : drawPositions [3, 2] generator = (.ok [1, 1], generator.after 2) := rfl
  have hchosen' : drawPositions [3, 3] generator = (.ok [1, 2], generator.after 2) := rfl
  cases hdrawn.symm.trans hchosen
  cases hdrawn'.symm.trans hchosen'
  exact ⟨hdraws, hsize, hpositions, hrun, hpositions', hrun'⟩

end PromptTree.Random
