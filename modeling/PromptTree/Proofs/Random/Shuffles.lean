import Mathlib.Data.Set.Function
import PromptTree.Proofs.Random.Choice

/-!
# Shuffles

A shuffle makes each arrangement in exactly one way: the positions that are drawn, one for each
place from the last down to the second and none beyond its place, correspond one to one to the
arrangements of the items (`shuffle_unbiased`).

The proof goes down the places.  Once an item was moved to its place nothing below touches it
(`getElem?_arrange`).  So the item that an arrangement has at a place says which position was
drawn for it (`arrange_injOn`), and, as the places after it are settled, this position is not
beyond it (`exists_position`, `exists_arrange_eq`).
-/

namespace PromptTree.Random

section Arrangements

variable {α : Type} {place : Nat} {positions : List Nat} {items order : List α}

/-! ## Swaps -/

theorem getElem?_swap_left {i j : Nat} (hi : i < items.length) (hj : j < items.length) :
    (swap i j items)[i]? = items[j]? := by
  simp only [swap, List.getElem?_eq_getElem hi, List.getElem?_eq_getElem hj]
  by_cases heq : j = i
  · subst heq
    rw [List.getElem?_set_self (by rw [List.length_set]; exact hj)]
  · rw [List.getElem?_set_ne heq, List.getElem?_set_self hi]

theorem getElem?_swap_of_ne {i j k : Nat} (hi : i ≠ k) (hj : j ≠ k) :
    (swap i j items)[k]? = items[k]? := by
  unfold swap
  split
  · rw [List.getElem?_set_ne hj, List.getElem?_set_ne hi]
  · rfl

/-- **What is beyond the places that are left stays where it is.** -/
theorem getElem?_arrange (h : positions ∈ Choices (countdown (place + 1) place)) {k : Nat}
    (hk : place < k) : (arrange place positions items)[k]? = items[k]? := by
  induction place generalizing positions items with
  | zero => rfl
  | succ place ih =>
      cases positions with
      | nil => rfl
      | cons position positions =>
          obtain ⟨hposition, hpositions⟩ := cons_mem_choices.mp h
          simp only [arrange]
          rw [ih hpositions (by omega), getElem?_swap_of_ne (by omega) (by omega)]

/-! ## Arrangements -/

/-- **Different positions lead to different arrangements**: those that are drawn for the last
place are told by the item that is there. -/
theorem arrange_injOn (hnodup : items.Nodup) (hplace : place ≤ items.length - 1) :
    Set.InjOn (arrange place · items) (Choices (countdown (place + 1) place)) := by
  induction place generalizing items with
  | zero =>
      intro positions hpositions positions' hpositions' _
      cases hpositions
      cases hpositions'
      rfl
  | succ place ih =>
      intro positions hpositions positions' hpositions' heq
      cases hpositions with
      | @cons position _ positions _ hposition hpositions =>
          cases hpositions' with
          | @cons position' _ positions' _ hposition' hpositions' =>
              simp only [arrange] at heq
              have hitem : items[position]? = items[position']? := by
                rw [← getElem?_swap_left (i := place + 1) (by omega) (by omega),
                  ← getElem?_swap_left (i := place + 1) (j := position') (by omega) (by omega),
                  ← getElem?_arrange hpositions (Nat.lt_succ_self place), heq,
                  getElem?_arrange hpositions' (Nat.lt_succ_self place)]
              have hsame : position = position' := (List.getElem?_inj (by omega) hnodup).mp hitem
              subst hsame
              have hswapped := swap_perm (place + 1) position items
              have hplace' : place ≤ (swap (place + 1) position items).length - 1 := by
                rw [hswapped.length_eq]
                omega
              rw [ih (hswapped.nodup_iff.mpr hnodup) hplace' hpositions hpositions' heq]

/-- If all places after a place are settled, the item of an arrangement at this place comes from
no position beyond it. -/
theorem exists_position (hnodup : items.Nodup) (hperm : order.Perm items)
    (hrest : ∀ k, place < k → order[k]? = items[k]?) (hplace : place < items.length) :
    ∃ position ≤ place, order[place]? = items[position]? := by
  have hplace' : place < order.length := hperm.length_eq ▸ hplace
  obtain ⟨position, hposition, hitem⟩ :=
    List.getElem_of_mem (hperm.subset (List.getElem_mem hplace'))
  have hsome : order[place]? = items[position]? := by
    rw [List.getElem?_eq_getElem hplace', List.getElem?_eq_getElem hposition, hitem]
  refine ⟨position, ?_, hsome⟩
  by_contra hbeyond
  rw [← hrest position (by omega)] at hsome
  have := (List.getElem?_inj hplace' (hperm.nodup_iff.mpr hnodup)).mp hsome
  omega

/-- **Every arrangement is made**, if it leaves what is beyond the places that are left. -/
theorem exists_arrange_eq (hnodup : items.Nodup) (hplace : place ≤ items.length - 1)
    (hperm : order.Perm items) (hrest : ∀ k, place < k → order[k]? = items[k]?) :
    ∃ positions ∈ Choices (countdown (place + 1) place), arrange place positions items = order := by
  induction place generalizing items with
  | zero =>
      refine ⟨[], .nil, (List.ext_getElem? fun k => ?_).symm⟩
      rcases Nat.eq_zero_or_pos k with rfl | hk
      · rcases Nat.eq_zero_or_pos items.length with hempty | hlength
        · rw [List.eq_nil_of_length_eq_zero hempty] at hperm ⊢
          rw [hperm.eq_nil]
          rfl
        · obtain ⟨position, hposition, hitem⟩ := exists_position hnodup hperm hrest hlength
          rw [Nat.le_zero.mp hposition] at hitem
          exact hitem
      · exact hrest k hk
  | succ place ih =>
      obtain ⟨position, hposition, hitem⟩ := exists_position hnodup hperm hrest (by omega)
      have hswapped := swap_perm (place + 1) position items
      have hplace' : place ≤ (swap (place + 1) position items).length - 1 := by
        rw [hswapped.length_eq]
        omega
      have hrest' : ∀ k, place < k → order[k]? = (swap (place + 1) position items)[k]? := by
        intro k hk
        by_cases hlast : k = place + 1
        · rw [hlast, getElem?_swap_left (by omega) (by omega), hitem]
        · rw [getElem?_swap_of_ne (by omega) (by omega), hrest k (by omega)]
      obtain ⟨positions, hpositions, hmade⟩ :=
        ih (hswapped.nodup_iff.mpr hnodup) hplace' (hperm.trans hswapped.symm) hrest'
      exact ⟨position :: positions, cons_mem_choices.mpr ⟨by omega, hpositions⟩, hmade⟩

end Arrangements

/-! ## Shuffled lists -/

/-- A list without items has as few places to fill as a list with one. -/
theorem countdown_pred (size : Nat) :
    countdown (size - 1 + 1) (size - 1) = countdown size (size - 1) := by
  cases size with
  | zero => rfl
  | succ size => rfl

theorem arrange_bijOn (size : Nat) :
    Set.BijOn (fun positions => arrange (size - 1) positions (List.range size))
      (Choices (countdown size (size - 1))) { order | order.Perm (List.range size) } := by
  have hplace : size - 1 ≤ (List.range size).length - 1 := by rw [List.length_range]
  rw [← countdown_pred]
  refine ⟨fun positions _ => arrange_perm _ _ _, arrange_injOn List.nodup_range hplace, ?_⟩
  intro order horder
  refine exists_arrange_eq List.nodup_range hplace horder fun k hk => ?_
  -- There is nothing beyond the last place.
  have hlength : order.length = size := by rw [horder.length_eq, List.length_range]
  rw [List.getElem?_eq_none (by omega), List.getElem?_eq_none (by rw [List.length_range]; omega)]

/-- **A shuffle is unbiased.**  For a list of any length, the positions that may be chosen, one of
those up to each place from the last place down to the second, correspond one to one to the
arrangements.  From every generator whose draws are from zero to one, the shuffle takes one draw
for each of these places and makes the arrangement of the positions that they stand for, in which
every item of the list stands exactly once.

Only of lists longer than floating point can count, with more than a thousand binary digits in
their length, nothing is said of what is drawn. -/
theorem shuffle_unbiased {α : Type} (items : List α) :
    Set.BijOn (fun positions => arrange (items.length - 1) positions (List.range items.length))
        (Choices (countdown items.length (items.length - 1)))
        { order | order.Perm (List.range items.length) } ∧
      ∀ generator : Generator, generator.Unfailing → items.length.log2 < 1000 →
        ∃ positions ∈ Choices (countdown items.length (items.length - 1)),
          drawPositions (countdown items.length (items.length - 1)) generator =
              (.ok positions, generator.after (items.length - 1)) ∧
            shuffle items generator =
              (.ok (arrange (items.length - 1) positions items),
                generator.after (items.length - 1)) ∧
            (arrange (items.length - 1) positions items).Perm items ∧
            ItemsAt items (arrange (items.length - 1) positions (List.range items.length))
              (arrange (items.length - 1) positions items) := by
  refine ⟨arrange_bijOn items.length, fun generator hdraws hlength => ?_⟩
  obtain ⟨positions, hpositions, hdrawn⟩ :=
    exists_drawPositions_countdown (Nat.sub_le _ 1) hlength hdraws
  refine ⟨positions, hpositions, hdrawn, ?_, arrange_perm _ _ _, itemsAt_arrange _ _ _⟩
  simp only [shuffle, arrangement_eq_drawPositions, countdown_pred]
  rw [bind_of_ok hdrawn]
  rfl

/-- Three guests, with the draws one half and one: the second of three is put last, and of the
two before, the second stays, since a draw of one stands for the last position. -/
theorem shuffle_unbiased_guests :
    let guests := ["Ada", "Bo", "Cy"]
    let generator := Generator.sequence (fun index => if index = 0 then 0.5 else 1) 0
    generator.Unfailing ∧ guests.length.log2 < 1000 ∧
      shuffle guests generator = (.ok ["Ada", "Cy", "Bo"], generator.after 2) ∧
      List.Perm ["Ada", "Cy", "Bo"] guests := by
  intro guests generator
  have hdraws : generator.Unfailing := by
    refine Generator.unfailing_sequence (fun index => ?_) 0
    split
    · decide
    · decide
  have hlength : guests.length.log2 < 1000 := by decide
  obtain ⟨positions, -, hdrawn, hrun, hperm, -⟩ :=
    (shuffle_unbiased guests).2 generator hdraws hlength
  have hchosen : drawPositions [3, 2] generator = (.ok [1, 1], generator.after 2) := rfl
  cases hdrawn.symm.trans hchosen
  exact ⟨hdraws, hlength, hrun, hperm⟩

end PromptTree.Random
