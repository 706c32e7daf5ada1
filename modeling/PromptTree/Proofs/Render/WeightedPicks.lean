import PromptTree.Content.Reader
import PromptTree.Proofs.Random.Weights
import PromptTree.Proofs.Render.Texts

/-!
# Picks by any weights

What weights do to the rendering of a node that picks by them.  A node with indeterminate weights
fails, whatever its parts are; with all other weights its rendering is that of one of its parts,
from a state that differs in the draws taken only (`render_weighted`).  So weights by themselves
cannot make a rendering fail in any other way, or at any other time.

The weights of a pick among candidates are read only if there is one for each candidate; otherwise,
and if they add up to nothing, all candidates have equal chances.

## Main Definitions

* `IndeterminateFor` — weights for a number of candidates that make a pick fail.
* `World.Unfailing` — states from which all draws succeed and are from zero to one.
-/

namespace PromptTree

open PromptTree.Random (Indeterminate)

/-- The weights are one for each candidate, and indeterminate. -/
def IndeterminateFor (size : Nat) (weights : Option (List Float)) : Prop :=
  ∃ given, weights = some given ∧ given.length = size ∧ Indeterminate given

/-- All draws of the nodes that are still to come succeed, and are from zero to one. -/
def World.Unfailing (world : World) (s : RunState) : Prop :=
  world.source.Unfailing s.generator

/-! ## Draws of a node -/

section Draws

variable {world : World} {α : Type} {take : Random.Draw α} {s : RunState}

/-- What draws return changes nothing but the generator. -/
theorem World.exists_take {P : α → Prop}
    (htake : ∀ generator : Random.Generator, generator.Unfailing →
      ∃ a next, take generator = (.ok a, next) ∧ next.Unfailing ∧ P a)
    (h : world.Unfailing s) :
    ∃ a next, world.take take s = (.ok a, { s with generator := next }) ∧
      world.source.Unfailing next ∧ P a := by
  obtain ⟨a, next, hrun, hnext, ha⟩ := Random.Source.exists_drawFrom htake h
  refine ⟨a, next, ?_, hnext, ha⟩
  simp only [World.take, hrun]

theorem World.take_error {failure : Failure}
    (htake : ∀ generator : Random.Generator, generator.Unfailing →
      (take generator).1 = .error failure)
    (h : world.Unfailing s) : (world.take take s).1 = .error failure :=
  Random.Source.drawFrom_error htake h

/-- What fails in its draws fails. -/
theorem Run.bind_fst_of_error {β : Type} {m : Run α} {f : α → Run β} {failure : Failure}
    (h : (m s).1 = .error failure) : ((m >>= f) s).1 = .error failure := by
  have hrun : m s = (.error failure, (m s).2) := Prod.ext h rfl
  rw [Run.bind_of_error hrun]

end Draws

/-! ## Positions by weight -/

section Positions

variable {size : Nat} {weights : Option (List Float)} {generator : Random.Generator}

theorem pickPosition_of_indeterminate (h : IndeterminateFor size weights)
    (hdraws : generator.Unfailing) :
    (pickPosition size weights generator).1 = .error .noPositiveWeight := by
  obtain ⟨given, rfl, hlength, hindeterminate⟩ := h
  simp only [pickPosition, if_pos hlength]
  rw [Random.bind_of_error (Random.weightedIndex_of_indeterminate hdraws hindeterminate)]

/-- All other weights lead to a position, by weight or with equal chances. -/
theorem exists_pickPosition_eq (hpos : 0 < size) (hsize : size.log2 < 1000)
    (h : ¬ IndeterminateFor size weights) (hdraws : generator.Unfailing) :
    ∃ position next, pickPosition size weights generator = (.ok position, next) ∧
      next.Unfailing := by
  have huniform : ∀ next : Random.Generator, next.Unfailing →
      ∃ position last, Random.uniformPosition size next = (.ok position, last) ∧
        last.Unfailing := by
    intro next hnext
    obtain ⟨position, -, hposition⟩ := Random.exists_uniformPosition hpos hsize hnext
    exact ⟨position, next.next.2, hposition, hnext.next⟩
  unfold pickPosition
  cases weights with
  | none => exact huniform generator hdraws
  | some given =>
      by_cases hlength : given.length = size
      · have hdecided : ¬ Indeterminate given := by
          intro hindeterminate
          exact h ⟨given, rfl, hlength, hindeterminate⟩
        obtain ⟨found, next, hfound, hnext⟩ := Random.exists_weightedIndex hdraws hdecided
        simp only [if_pos hlength]
        rw [Random.bind_of_ok hfound]
        cases found with
        | some position => exact ⟨position, next, rfl, hnext⟩
        | none =>
            -- Weights that add up to nothing leave all candidates equal chances.
            exact huniform next hnext
      · simp only [if_neg hlength]
        exact huniform generator hdraws

/-- **With all other weights some candidate is picked**, and one that may be. -/
theorem exists_pickPosition (hpos : 0 < size) (hsize : size.log2 < 1000)
    (h : ¬ IndeterminateFor size weights) (hdraws : generator.Unfailing) :
    ∃ position next, pickPosition size weights generator = (.ok position, next) ∧
      next.Unfailing ∧ MayPick size weights position := by
  obtain ⟨position, next, hposition, hnext⟩ := exists_pickPosition_eq hpos hsize h hdraws
  have hmay := (returns_pickPosition hpos weights generator hdraws.bounded).2 position
  rw [hposition] at hmay
  exact ⟨position, next, hposition, hnext, hmay rfl⟩

end Positions

/-! ## Nodes -/

section Nodes

variable {world : World} {expand : Expander} {b : Bindings} {s : RunState}

theorem render_pickOne_of_indeterminate {candidates : List Content}
    {weights : Option (List Float)} (hdraws : world.Unfailing s)
    (h : IndeterminateFor candidates.length weights) :
    (render world expand (.pickOne candidates weights) b s).1 = .error .noPositiveWeight := by
  have hfilled : ¬ candidates.isEmpty = true := by
    obtain ⟨given, -, hlength, hindeterminate⟩ := h
    rw [List.isEmpty_iff_length_eq_zero, ← hlength]
    exact mt List.eq_nil_of_length_eq_zero hindeterminate.ne_nil
  simp only [render]
  rw [if_neg hfilled]
  exact Run.bind_fst_of_error
    (World.take_error (fun _ => pickPosition_of_indeterminate h) hdraws)

theorem exists_render_pickOne {candidates : List Content} {weights : Option (List Float)}
    (hdraws : world.Unfailing s) (hfilled : candidates ≠ [])
    (hsize : candidates.length.log2 < 1000) (h : ¬ IndeterminateFor candidates.length weights) :
    ∃ position picked next, MayPick candidates.length weights position ∧
      candidates[position]? = some picked ∧ world.source.Unfailing next ∧
      render world expand (.pickOne candidates weights) b s =
        render world expand picked b { s with generator := next } := by
  have hpos := List.length_pos_iff.mpr hfilled
  obtain ⟨position, next, hrun, hnext, hmay⟩ :=
    World.exists_take (fun _ => exists_pickPosition hpos hsize h) hdraws
  have hplace := List.getElem?_eq_getElem hmay.1
  refine ⟨position, _, next, hmay, hplace, hnext, ?_⟩
  simp only [render]
  rw [if_neg (mt List.isEmpty_iff.mp hfilled), Run.bind_of_ok hrun, renderAt_eq hplace]

theorem render_weightedPick_of_indeterminate {options : List (Float × Content)}
    (hdraws : world.Unfailing s) (h : Indeterminate (options.map Prod.fst)) :
    (render world expand (.weightedPick options) b s).1 = .error .noPositiveWeight := by
  have hfilled : options ≠ [] := fun hempty => h.ne_nil (List.map_eq_nil_iff.mpr hempty)
  simp only [render]
  rw [if_neg (mt List.isEmpty_iff.mp hfilled)]
  refine Run.bind_fst_of_error (World.take_error (fun generator hgenerator => ?_) hdraws)
  rw [Random.weightedIndex_of_indeterminate hgenerator h]

theorem exists_render_weightedPick {options : List (Float × Content)}
    (hdraws : world.Unfailing s) (hfilled : options ≠ [])
    (h : ¬ Indeterminate (options.map Prod.fst)) :
    ∃ position picked next, MayPickWeighted (options.map Prod.fst) position ∧
      options[position]? = some picked ∧ world.source.Unfailing next ∧
      render world expand (.weightedPick options) b s =
        render world expand picked.2 b { s with generator := next } := by
  have htake : ∀ generator : Random.Generator, generator.Unfailing →
      ∃ found next, Random.weightedIndex (options.map Prod.fst) generator = (.ok found, next) ∧
        next.Unfailing ∧
        MayPickWeighted (options.map Prod.fst) (found.getD (options.length - 1)) := by
    intro generator hgenerator
    obtain ⟨found, next, hrun, hnext⟩ := Random.exists_weightedIndex hgenerator h
    have hfound := (Random.returns_weightedIndex (options.map Prod.fst) generator
      hgenerator.bounded).2 found
    rw [hrun] at hfound
    have hmay := mayPickWeighted_getD (mt List.map_eq_nil_iff.mp hfilled) (hfound rfl)
    rw [List.length_map] at hmay
    exact ⟨found, next, hrun, hnext, hmay⟩
  obtain ⟨found, next, hrun, hnext, hmay⟩ := World.exists_take htake hdraws
  have hlt := hmay.lt_length
  rw [List.length_map] at hlt
  have hplace := List.getElem?_eq_getElem hlt
  refine ⟨_, _, next, hmay, hplace, hnext, ?_⟩
  simp only [render]
  rw [if_neg (mt List.isEmpty_iff.mp hfilled), Run.bind_of_ok hrun, renderOption_eq hplace]

end Nodes

/-- **Weights that are not indeterminate never make a rendering fail.**  With draws from zero to
one, a choice by weights returns none just if all weights are at most zero, fails just if the
weights are indeterminate, and otherwise returns a position with a weight above zero.  A node that
picks one of its parts by weights fails if they are indeterminate; if not, it renders to nothing if
it has no parts, and else just as one that may be picked, with other draws to come.

Of a pick among candidates, which may fall back on equal chances, this is said of as many candidates
as floating point can count: up to a thousand binary digits in their number. -/
theorem render_weighted (world : World) (expand : Expander) (b : Bindings) (s : RunState)
    (hdraws : world.Unfailing s) :
    (∀ (weights : List Float) (generator : Random.Generator), generator.Unfailing →
      ((Random.weightedIndex weights generator).1 = .ok none ↔ ∀ weight ∈ weights, weight ≤ 0) ∧
        (∀ failure, (Random.weightedIndex weights generator).1 = .error failure ↔
          Indeterminate weights ∧ failure = .noPositiveWeight) ∧
        ((∃ weight ∈ weights, 0 < weight) → ∃ position weight,
          (Random.weightedIndex weights generator).1 = .ok (some position) ∧
            weights[position]? = some weight ∧ 0 < weight)) ∧
      (∀ (candidates : List Content) (weights : Option (List Float)),
        candidates.length.log2 < 1000 →
        (IndeterminateFor candidates.length weights →
          (render world expand (.pickOne candidates weights) b s).1 = .error .noPositiveWeight) ∧
        (¬ IndeterminateFor candidates.length weights →
          (candidates = [] ∧ render world expand (.pickOne candidates weights) b s = (.ok "", s)) ∨
          ∃ position picked next, MayPick candidates.length weights position ∧
            candidates[position]? = some picked ∧ world.source.Unfailing next ∧
            render world expand (.pickOne candidates weights) b s =
              render world expand picked b { s with generator := next })) ∧
      ∀ options : List (Float × Content),
        (Indeterminate (options.map Prod.fst) →
          (render world expand (.weightedPick options) b s).1 = .error .noPositiveWeight) ∧
        (¬ Indeterminate (options.map Prod.fst) →
          (options = [] ∧ render world expand (.weightedPick options) b s = (.ok "", s)) ∨
          ∃ position picked next, MayPickWeighted (options.map Prod.fst) position ∧
            options[position]? = some picked ∧ world.source.Unfailing next ∧
            render world expand (.weightedPick options) b s =
              render world expand picked.2 b { s with generator := next }) := by
  refine ⟨fun weights generator hgenerator => ⟨?_, fun failure => ?_, fun hpos => ?_⟩,
    fun candidates weights hsize => ⟨?_, fun hdecided => ?_⟩,
    fun options => ⟨?_, fun hdecided => ?_⟩⟩
  · exact Random.weightedIndex_eq_none_iff hgenerator
  · exact Random.weightedIndex_eq_error_iff hgenerator
  · obtain ⟨position, weight, hrun, hweight, hpos'⟩ := Random.weightedIndex_of_pos hgenerator hpos
    exact ⟨position, weight, congrArg Prod.fst hrun, hweight, hpos'⟩
  · exact render_pickOne_of_indeterminate hdraws
  · by_cases hempty : candidates = []
    · subst hempty
      refine .inl ⟨rfl, ?_⟩
      simp only [render]
      rfl
    · exact .inr (exists_render_pickOne hdraws hempty hsize hdecided)
  · exact render_weightedPick_of_indeterminate hdraws
  · by_cases hempty : options = []
    · subst hempty
      refine .inl ⟨rfl, ?_⟩
      simp only [render]
      rfl
    · exact .inr (exists_render_weightedPick hdraws hempty hdecided)

/-- Tea, whose weight is no number, and coffee: with a weight of two coffee is picked, and with a
weight of zero neither. -/
theorem render_weighted_coffee :
    let nan := Float.ofBits 0x7FF8000000000000
    let s : RunState := { generator := .sequence (fun _ => 0.5) 0 }
    let serve (weight : Float) := (render {} (World.expand {} 0 [])
      (.weightedPick [(nan, .text "tea"), (weight, .text "coffee")]) {} s).1
    World.Unfailing {} s ∧ serve 2 = .ok "coffee" ∧ serve 0 = .error .noPositiveWeight := by
  intro nan s serve
  have hdraws : World.Unfailing {} s :=
    Random.Generator.unfailing_sequence (fun _ => ⟨by decide, by decide⟩) 0
  obtain ⟨-, -, hoptions⟩ := render_weighted {} (World.expand {} 0 []) {} s hdraws
  have hnan : ¬ 0 < nan := by decide
  refine ⟨hdraws, ?_, ?_⟩
  · have hdecided : ¬ Indeterminate [nan, 2] :=
      fun h => h.notAbove 2 (List.mem_cons_of_mem _ List.mem_cons_self) (by decide)
    rcases (hoptions [(nan, .text "tea"), (2, .text "coffee")]).2 hdecided with
      ⟨hempty, -⟩ | ⟨position, picked, next, hmay, hplace, -, hrun⟩
    · cases hempty
    · rcases hmay with ⟨weight, hweight, hpos⟩ | ⟨hnone, -⟩
      · match position with
        | 0 =>
            cases hweight
            exact absurd hpos hnan
        | 1 =>
            cases hplace
            exact congrArg Prod.fst hrun
        | _ + 2 => cases hweight
      · exact absurd (by decide) (hnone 2 (List.mem_cons_of_mem _ List.mem_cons_self))
  · refine (hoptions [(nan, .text "tea"), (0, .text "coffee")]).1 ⟨?_, ?_⟩
    · exact List.forall_mem_cons.mpr ⟨hnan, List.forall_mem_singleton.mpr (by decide)⟩
    · exact ⟨nan, List.mem_cons_self, by decide⟩

/-- Not all weights are decided.  A stored tree may give its only option a weight that is no number;
the tree is read, but it cannot be rendered: the choice fails, although no weight is above zero. -/
theorem weightedPick_nan :
    let nan := Float.ofBits 0x7FF8000000000000
    let tea : Value := .object [("type", .str "text"), ("value", .str "tea")]
    let document : Value := .object [("type", .str "weighted-pick"),
      ("options", .list [.object [("weight", .float nan), ("content", tea)]])]
    let content : Content := .weightedPick [(nan, .text "tea")]
    let generator := Random.Generator.sequence (fun _ => 0.5) 0
    Content.read document = .ok content ∧ generator.Unfailing ∧ (∀ weight ∈ [nan], ¬ 0 < weight) ∧
      (Random.weightedIndex [nan] generator).1 = .error .noPositiveWeight ∧
      (World.renderTree {} [] content {} { generator := generator }).1 =
        .error .noPositiveWeight := by
  intro nan tea document content generator
  have hdraws : generator.Unfailing :=
    Random.Generator.unfailing_sequence (fun _ => ⟨by decide, by decide⟩) 0
  have hindeterminate : Indeterminate [nan] :=
    ⟨List.forall_mem_singleton.mpr (by decide), ⟨nan, List.mem_cons_self, by decide⟩⟩
  refine ⟨rfl, hdraws, hindeterminate.notAbove, ?_, ?_⟩
  · rw [Random.weightedIndex_of_indeterminate hdraws hindeterminate]
  · exact render_weightedPick_of_indeterminate hdraws hindeterminate

end PromptTree
