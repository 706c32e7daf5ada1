import Mathlib.Data.Set.Defs
import PromptTree.Proofs.Numeral.Exponents
import PromptTree.Proofs.Random.Returns
import PromptTree.Random.Choice

/-!
# Positions

All choices rest on one thing: a draw from zero to one stands for a position below a size, also
if it is one itself (`scaled_bounds`), and it stands for one unless the size is beyond floating
point (`exists_scaled`).  A single choice takes one draw for a position, or one for each size of
a list of sizes (`drawPositions`); shuffles and samples differ in these sizes and in what is made
of the positions.

Two things are said of such a computation: what it returns if all draws are from zero to one
(`returns_drawPositions`), and that it does return and takes one draw for each size if no draw
fails (`exists_drawPositions`).

## Main Definitions

* `Generator.Unfailing` — generators whose draws succeed and are from zero to one.
* `Choices` — one position below each of some sizes.
* `countdown` — the sizes of a pool that shrinks by one with each position.
* `drawPositions` — the positions that the next draws stand for.
-/

namespace PromptTree.Random

open Generator (Bounded)

/-! ## Single positions -/

/-- The integer part of a product with a draw is not negative. -/
theorem wholePart_nonneg {x : Float} {n : Int} (hx : ¬ x < 0) (h : wholePart x = .ok n) :
    0 ≤ n := by
  unfold wholePart at h
  cases hdecode : Numeral.decode x with
  | finite d =>
      rw [hdecode] at h
      cases h
      exact Numeral.truncate_nonneg hx hdecode
  | nan =>
      rw [hdecode] at h
      cases h
  | infinite negative =>
      rw [hdecode] at h
      cases h

/-- A natural number is not below zero as a number either. -/
theorem not_toNumber_lt_zero {n : Int} {x : Float} (hn : 0 ≤ n) (h : toNumber n = .ok x) :
    ¬ x < 0 := by
  obtain ⟨n, rfl⟩ := Int.eq_ofNat_of_zero_le hn
  unfold toNumber Numeral.nearest? at h
  cases hdecode : Numeral.decode (Float.ofInt n) with
  | finite d =>
      simp only [hdecode] at h
      cases h
      exact Numeral.not_ofNat_lt_zero n
  | nan =>
      simp only [hdecode] at h
      cases h
  | infinite negative =>
      simp only [hdecode] at h
      cases h

/-- A position that is scaled to a size is below it, for the draw one as well. -/
theorem scaled_bounds {x : Float} {size n : Int} (hx : 0 ≤ x) (hsize : 0 < size)
    (h : scaled x size = .ok n) : 0 ≤ n ∧ n < size := by
  unfold scaled at h
  cases hnumber : toNumber size with
  | error failure =>
      rw [hnumber] at h
      cases h
  | ok y =>
      cases hwhole : wholePart (x * y) with
      | error failure =>
          simp only [hnumber, hwhole, bind, Except.bind] at h
          cases h
      | ok whole =>
          simp only [hnumber, hwhole, bind, Except.bind] at h
          cases h
          have hproduct : ¬ x * y < 0 :=
            Numeral.not_mul_lt_zero (Numeral.not_lt_zero_of_le hx)
              (not_toNumber_lt_zero (Int.le_of_lt hsize) hnumber)
          have := wholePart_nonneg hproduct hwhole
          omega

/-- A draw stands for some position: the size is a finite number, and so is its product with
the draw. -/
theorem exists_scaled {x : Float} {size : Nat} (hzero : 0 ≤ x) (hone : x ≤ 1)
    (hsize : size.log2 < 1000) : ∃ n, scaled x size = .ok n := by
  have hexponent := Numeral.exponent_ofNat hsize
  obtain ⟨d, hd⟩ := Numeral.exists_decode hexponent
  obtain ⟨d', hd'⟩ := Numeral.exists_decode
    (Numeral.exponent_mul (Numeral.exponent_of_le_one hzero hone) hexponent (by decide) (by decide))
  have hnumber : toNumber size = .ok (Float.ofNat size) := by
    have hsame : Float.ofInt size = Float.ofNat size := rfl
    unfold toNumber Numeral.nearest?
    simp only [hsame, hd]
  refine ⟨min d'.truncate (size - 1), ?_⟩
  unfold scaled wholePart
  rw [hnumber]
  simp only [bind, Except.bind, hd']
  rfl

theorem returns_uniformIndex {size : Int} (hsize : 0 < size) :
    Returns Bounded (uniformIndex size) fun n => 0 ≤ n ∧ n < size :=
  returns_draw.bind fun _ hx => Returns.lift fun _ h => scaled_bounds hx.1 hsize h

/-- **A position is below its size.** -/
theorem returns_uniformPosition {size : Nat} (hsize : 0 < size) :
    Returns Bounded (uniformPosition size) fun position => position < size :=
  (returns_uniformIndex (Int.natCast_pos.mpr hsize)).map fun n h => by omega

/-- **An integer of a range is in it.** -/
theorem returns_inclusiveRange {low high : Int} (h : low ≤ high) :
    Returns Bounded (inclusiveRange low high) fun n => low ≤ n ∧ n ≤ high :=
  (returns_uniformIndex (by omega)).map fun n hn => by omega

/-! ## Draws that succeed -/

namespace Generator

/-- **All draws succeed, and are from zero to one**, whatever was drawn before. -/
def Unfailing (generator : Generator) : Prop :=
  ∀ count, ∃ x, (generator.after count).next.1 = .ok x ∧ 0 ≤ x ∧ x ≤ 1

variable {generator : Generator}

theorem Unfailing.bounded (h : generator.Unfailing) : generator.Bounded := by
  intro count x hx
  obtain ⟨x', hx', hzero, hone⟩ := h count
  cases hx.symm.trans hx'
  exact ⟨hzero, hone⟩

theorem Unfailing.next (h : generator.Unfailing) : generator.next.2.Unfailing :=
  fun count => h (count + 1)

/-- A sequence of draws from zero to one. -/
theorem unfailing_sequence {draws : Nat → Float} (h : ∀ index, 0 ≤ draws index ∧ draws index ≤ 1)
    (taken : Nat) : (Generator.sequence draws taken).Unfailing := by
  intro count
  induction count generalizing taken with
  | zero => exact ⟨draws taken, rfl, h taken⟩
  | succ count ih => exact ih (taken + 1)

end Generator

theorem exists_draw {generator : Generator} (h : generator.Unfailing) :
    ∃ x, draw generator = (.ok x, generator.next.2) ∧ 0 ≤ x ∧ x ≤ 1 := by
  obtain ⟨x, hx, hbounds⟩ := h 0
  exact ⟨x, Prod.ext hx rfl, hbounds⟩

/-- **A position takes one draw**, unless the size is beyond floating point. -/
theorem exists_uniformPosition {size : Nat} (hpos : 0 < size) (hsize : size.log2 < 1000)
    {generator : Generator} (h : generator.Unfailing) :
    ∃ position < size, uniformPosition size generator = (.ok position, generator.next.2) := by
  obtain ⟨x, hdraw, hzero, hone⟩ := exists_draw h
  obtain ⟨n, hn⟩ := exists_scaled hzero hone hsize
  have hbounds := scaled_bounds hzero (Int.natCast_pos.mpr hpos) hn
  have hindex : uniformIndex size generator = (.ok n, generator.next.2) := by
    rw [uniformIndex, bind_of_ok hdraw, hn]
    rfl
  refine ⟨n.toNat, by omega, ?_⟩
  rw [uniformPosition, bind_of_ok hindex]
  rfl

/-! ## Several positions -/

/-- One position below each of some sizes. -/
def Choices (sizes : List Nat) : Set (List Nat) :=
  { positions | List.Forall₂ (· < ·) positions sizes }

theorem cons_mem_choices {position size : Nat} {positions sizes : List Nat} :
    position :: positions ∈ Choices (size :: sizes) ↔
      position < size ∧ positions ∈ Choices sizes :=
  List.forall₂_cons

/-- A number and those right below it, so many of them. -/
def countdown (size : Nat) : Nat → List Nat
  | 0 => []
  | count + 1 => size :: countdown (size - 1) count

/-- The positions that the next draws stand for, one below each of some sizes. -/
def drawPositions : List Nat → Draw (List Nat)
  | [] => return []
  | size :: sizes => do
    let position ← uniformPosition size
    return position :: (← drawPositions sizes)

section Several

variable {sizes : List Nat}

theorem returns_drawPositions (hpos : ∀ size ∈ sizes, 0 < size) :
    Returns Bounded (drawPositions sizes) (· ∈ Choices sizes) := by
  induction sizes with
  | nil => exact Returns.value .nil
  | cons size sizes ih =>
      rw [List.forall_mem_cons] at hpos
      refine (returns_uniformPosition hpos.1).bind fun position hposition => ?_
      exact (ih hpos.2).map fun positions hpositions => .cons hposition hpositions

/-- **Several positions take one draw each.** -/
theorem exists_drawPositions (hpos : ∀ size ∈ sizes, 0 < size)
    (hsizes : ∀ size ∈ sizes, size.log2 < 1000) {generator : Generator}
    (h : generator.Unfailing) :
    ∃ positions ∈ Choices sizes,
      drawPositions sizes generator = (.ok positions, generator.after sizes.length) := by
  induction sizes generalizing generator with
  | nil => exact ⟨[], .nil, rfl⟩
  | cons size sizes ih =>
      rw [List.forall_mem_cons] at hpos hsizes
      obtain ⟨position, hposition, hrun⟩ := exists_uniformPosition hpos.1 hsizes.1 h
      obtain ⟨positions, hpositions, hruns⟩ := ih hpos.2 hsizes.2 h.next
      refine ⟨position :: positions, .cons hposition hpositions, ?_⟩
      rw [drawPositions, bind_of_ok hrun, bind_of_ok hruns]
      rfl

end Several

theorem length_countdown (size count : Nat) : (countdown size count).length = count := by
  induction count generalizing size with
  | zero => rfl
  | succ count ih => exact congrArg (· + 1) (ih (size - 1))

/-- No more are counted down than there are, so all that are counted are above zero. -/
theorem bounds_of_mem_countdown {size count n : Nat} (hcount : count ≤ size)
    (hn : n ∈ countdown size count) : 0 < n ∧ n ≤ size := by
  induction count generalizing size with
  | zero => cases hn
  | succ count ih =>
      rcases List.mem_cons.mp hn with rfl | hn
      · omega
      · have := ih (by omega) hn
        omega

/-- Positions in a pool that shrinks take one draw each. -/
theorem exists_drawPositions_countdown {size count : Nat} (hcount : count ≤ size)
    (hsize : size.log2 < 1000) {generator : Generator} (h : generator.Unfailing) :
    ∃ positions ∈ Choices (countdown size count),
      drawPositions (countdown size count) generator = (.ok positions, generator.after count) := by
  have hpos : ∀ n ∈ countdown size count, 0 < n :=
    fun n hn => (bounds_of_mem_countdown hcount hn).1
  have hsizes : ∀ n ∈ countdown size count, n.log2 < 1000 := by
    intro n hn
    rw [Nat.log2_eq_log_two] at *
    exact Nat.lt_of_le_of_lt (Nat.log_mono_right (bounds_of_mem_countdown hcount hn).2) hsize
  have hdrawn := exists_drawPositions hpos hsizes h
  rw [length_countdown] at hdrawn
  exact hdrawn

/-- The positions of a rearrangement: for each place one of those up to it. -/
theorem arrangement_eq_drawPositions (place : Nat) :
    arrangement place = drawPositions (countdown (place + 1) place) := by
  induction place with
  | zero => rfl
  | succ place ih => simp only [arrangement, countdown, drawPositions, ih, Nat.add_sub_cancel]

/-- The positions of a sample without duplicates: each in what is left of the pool. -/
theorem shrinkingPositions_eq_drawPositions (wanted size : Nat) :
    shrinkingPositions wanted size = drawPositions (countdown size (min wanted size)) := by
  induction wanted generalizing size with
  | zero =>
      rw [Nat.zero_min]
      unfold shrinkingPositions
      rfl
  | succ wanted ih =>
      cases size with
      | zero => rfl
      | succ size =>
          rw [Nat.succ_min_succ]
          simp only [shrinkingPositions, countdown, drawPositions, ih, Nat.add_sub_cancel]

/-- The positions of a sample with duplicates: each in the whole pool. -/
theorem repeatedPositions_eq_drawPositions (size wanted : Nat) :
    repeatedPositions size wanted = drawPositions (List.replicate wanted size) := by
  induction wanted with
  | zero => rfl
  | succ wanted ih => simp only [repeatedPositions, List.replicate_succ, drawPositions, ih]

end PromptTree.Random
