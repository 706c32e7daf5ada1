import PromptTree.Proofs.Content.OnePart

/-!
# The problems of a part

The check of a document is made node by node, and all that a node adds to the check of the
nodes below it is the place where they stand.  **The check is compositional**
(`checkContent_compositional`): the problems of a part stand together among those of the
whole, each at the place of the part, and whatever else is put there changes only these.

One node with another one in a slot has the same pieces but for that of the slot
(`onePart_node`).  The law for a whole document is then an induction on the position.
-/

namespace PromptTree

open Findings Schema

/-! ## Problems that stand together -/

section Gathering

variable {node : Value → Findings} {place : List PlaceStep} {before after : List Piece} {v : Value}

/-- The findings of a part at its place. -/
theorem foldr_below_eq_map (place : List PlaceStep) (findings : Findings) :
    place.foldr below findings = findings.map (·.map (Problem.within place)) := by
  induction place with
  | nil =>
      cases findings with
      | ok problems => exact congrArg Except.ok (Problem.map_within_nil problems).symm
      | error failure => rfl
  | cons step rest ih =>
      rw [List.foldr_cons, ih]
      cases findings with
      | ok problems => exact congrArg Except.ok (List.map_map ..)
      | error failure => rfl

theorem collect_append_part :
    collect node (before ++ .part place v :: after) =
      (collect node before).bind fun first => (node v).bind fun found =>
        (collect node after).map fun last => first ++ (found.map (.within place) ++ last) := by
  rw [collect, List.map_append, List.map_cons, ← gather_gather_cons, gather_cons, gather_cons,
    Piece.findings, foldr_below_eq_map]
  simp only [collect]
  cases gather (before.map (·.findings node)) with
  | error failure => rfl
  | ok first =>
      cases node v with
      | error failure => rfl
      | ok found =>
          cases gather (after.map (·.findings node)) with
          | error failure => rfl
          | ok last => rfl

/-- What is found in pieces was found in each of them. -/
theorem exists_of_collect_append_part {problems : List Problem}
    (h : collect node (before ++ .part place v :: after) = .ok problems) :
    ∃ first found last, collect node before = .ok first ∧ node v = .ok found ∧
      collect node after = .ok last := by
  rw [collect_append_part] at h
  cases hfirst : collect node before with
  | error failure =>
      rw [hfirst] at h
      cases h
  | ok first =>
      cases hfound : node v with
      | error failure =>
          rw [hfirst, hfound] at h
          cases h
      | ok found =>
          cases hlast : collect node after with
          | error failure =>
              rw [hfirst, hfound, hlast] at h
              cases h
          | ok last => exact ⟨first, found, last, rfl, rfl, rfl⟩

/-- What is found in a part, between what is found around the part. -/
theorem collect_append_part_of_ok {first last : List Problem}
    (hfirst : collect node before = .ok first) (hlast : collect node after = .ok last) :
    collect node (before ++ .part place v :: after) =
      (node v).map fun found => first ++ (found.map (.within place) ++ last) := by
  rw [collect_append_part, hfirst, hlast]
  cases node v with
  | error failure => rfl
  | ok found => rfl

end Gathering

/-- A document with a value at a position stays one, if there was a value. -/
theorem NodeAt.isNull {has : ContentTag → NodeSlot → Prop} {v part : Value}
    {position : List NodeSlot} (h : NodeAt has v position part) (hpart : part.isNull = false) :
    v.isNull = false := by
  cases h with
  | here v => exact hpart
  | inside _ _ _ _ => rfl

/-- **The check of a document with another part**: what is found in the part goes between what
is found before and after it. -/
theorem exists_checkContent_withAt {v part : Value} {position : List NodeSlot}
    (h : NodeAt NodeSlot.IsChecked v position part) (hpart : part.isNull = false)
    {problems : List Problem} (hcheck : checkContent v = .ok problems) :
    ∃ before after, ∀ new : Value, new.isNull = false →
      checkContent (v.withAt (stepsTo position) new) =
        (checkContent new).map fun found =>
          before ++ (found.map (.within (placeOf position)) ++ after) := by
  induction h generalizing problems with
  | here v =>
      refine ⟨[], [], ?_⟩
      intro new _
      rw [stepsTo, List.flatMap_nil, Value.withAt_nil]
      cases checkContent new with
      | error failure => rfl
      | ok found =>
          simp only [Except.map, placeOf, List.flatMap_nil, Problem.map_within_nil,
            List.nil_append, List.append_nil]
  | @inside entries tag slot position inner part kind own there deeper ih =>
      obtain ⟨before, after, hpieces⟩ : ∃ before after : List Piece, ∀ new : Value,
          new.isNull = false → nodePieces ((Value.object entries).withAt slot.steps new) =
            before ++ .part slot.place new :: after := onePart_node kind own there
      -- The document itself is the one with the old part put back, so that what is found around
      -- the slot is known, and that it is found at all.
      have hinner : inner.isNull = false := deeper.isNull hpart
      have hsame := hpieces inner hinner
      rw [Value.withAt_self there] at hsame
      rw [checkContent_eq_collect, hsame] at hcheck
      obtain ⟨first, found, last, hfirst, hfound, hlast⟩ := exists_of_collect_append_part hcheck
      obtain ⟨more, rest, hnew⟩ := ih hpart hfound
      refine ⟨first ++ more.map (.within slot.place), rest.map (.within slot.place) ++ last,
        fun new hnull => ?_⟩
      rw [stepsTo_cons, Value.withAt_append _ new there, checkContent_eq_collect,
        hpieces _ (Value.isNull_withAt hnull hinner), collect_append_part_of_ok hfirst hlast,
        hnew new hnull]
      cases checkContent new with
      | error failure => rfl
      | ok problems =>
          simp only [Except.map, List.map_append, List.map_map, placeOf_cons, List.append_assoc,
            Function.comp_def, Problem.within_within]

/-! ## Positions -/

/-- The nodes that the check goes into from a position are at positions. -/
theorem NodeAt.exists_of_document {v part inner : Value} {position : List NodeSlot}
    (h : NodeAt NodeSlot.IsChecked v position part) (hinner : inner ∈ documents (nodePieces part)) :
    ∃ slot, NodeAt NodeSlot.IsChecked v (position ++ [slot]) inner := by
  obtain ⟨piece, hpiece, hdocument⟩ := List.mem_filterMap.mp hinner
  cases piece with
  | own _ => cases hdocument
  | part place w =>
      cases hdocument
      cases part with
      | object entries =>
          cases kind : ContentTag.ofValue? (Entries.getD entries "type") with
          | none =>
              simp only [nodePieces, kind] at hpiece
              cases List.mem_singleton.mp hpiece
          | some tag =>
              obtain ⟨slot, own, -, there⟩ := slot_of_part_mem kind hpiece
              exact ⟨slot, h.append (.inside kind own there (.here inner))⟩
      | _ => cases List.mem_singleton.mp hpiece

/-! ## The law -/

/-- **The check of a document is compositional.**  Let a check return, and a node that is not
null stand at a position of the document that the check goes into.

* The problems of the node stand together among those of the document, each at the place of
  the node, and whatever other value is put there changes only these; if the check of that
  value fails, so does the check of the document, in the same way.
* A problem of the node has the same code and the same text in the document, and its path
  goes on from that of the node as it does from the root if the node is checked alone.
* No other position has the path of the node.
* The nodes that the check goes into from there have positions, too. -/
theorem checkContent_compositional {v part : Value} {position : List NodeSlot}
    (h : NodeAt NodeSlot.IsChecked v position part) (hpart : part.isNull = false)
    {problems : List Problem} (hcheck : checkContent v = .ok problems) :
    (∃ before found after, checkContent part = .ok found ∧
      problems = before ++ (found.map (.within (placeOf position)) ++ after) ∧
      ∀ new : Value, new.isNull = false →
        checkContent (v.withAt (stepsTo position) new) =
          (checkContent new).map fun found =>
            before ++ (found.map (.within (placeOf position)) ++ after)) ∧
    (∀ problem : Problem, (problem.within (placeOf position)).kind = problem.kind ∧
      ∃ rest, problem.pathText = "root" ++ rest ∧
        (problem.within (placeOf position)).pathText = pathTo position ++ rest) ∧
    (∀ other, pathTo other = pathTo position → other = position) ∧
    ∀ inner ∈ documents (nodePieces part),
      ∃ slot, NodeAt NodeSlot.IsChecked v (position ++ [slot]) inner := by
  refine ⟨?_, fun problem => ⟨rfl, problem.exists_pathText_within position⟩,
    fun other heq => pathTo_injective heq, fun inner hinner => h.exists_of_document hinner⟩
  obtain ⟨before, after, hnew⟩ := exists_checkContent_withAt h hpart hcheck
  have hsame := hnew part hpart
  rw [Value.withAt_self h.at?, hcheck] at hsame
  cases hfound : checkContent part with
  | error failure =>
      rw [hfound] at hsame
      cases hsame
  | ok found =>
      rw [hfound] at hsame
      exact ⟨before, found, after, rfl, Except.ok.inj hsame, hnew⟩

/-- An article without a word, and a choice of which a case holds a node of no known kind. -/
def orphans : Value :=
  .object [("type", .str "composite"), ("parts", .list
    [.object [("type", .str "article")],
     .object [("type", .str "switch"), ("variable_id", .str "size"), ("cases", .list
       [.object [("value", .str "big"), ("content", .object [("type", .str "haiku")])]])]])]

/-- Where the node of no known kind stands. -/
def orphanPosition : List NodeSlot :=
  [.item .parts 1, .case .cases 0]

/-- The second problem of the document is that of the node alone. -/
theorem checkContent_orphans :
    pathTo orphanPosition = "root.parts[1].cases[0].content" ∧
    ∃ before found after, checkContent (.object [("type", .str "haiku")]) = .ok found ∧
      [⟨[.item "parts" 0], .articleWithoutWord⟩,
        ⟨[.item "parts" 1, .item "cases" 0, .field "content"], .unknownType "haiku"⟩] =
          before ++ (found.map (.within (placeOf orphanPosition)) ++ after) ∧
      ∀ new : Value, new.isNull = false →
        checkContent (orphans.withAt (stepsTo orphanPosition) new) =
          (checkContent new).map fun found =>
            before ++ (found.map (.within (placeOf orphanPosition)) ++ after) := by
  refine ⟨by decide, ?_⟩
  have hposition : NodeAt NodeSlot.IsChecked orphans orphanPosition
      (.object [("type", .str "haiku")]) :=
    .inside (show _ = some ContentTag.composite from rfl) trivial rfl
      (.inside (show _ = some ContentTag.switch from rfl) (.inr rfl) rfl (.here _))
  exact (checkContent_compositional hposition rfl rfl).1

end PromptTree
