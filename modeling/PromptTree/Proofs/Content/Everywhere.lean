import Mathlib.Logic.Basic
import PromptTree.Content.Basic

/-!
# Properties of all nodes of a tree

`Content.Everywhere P` says that every node of a tree has the property `P`.  It is the form
in which conditions on trees enter the theorems about rendering, and its induction is the
induction of those theorems: a step may use that the node itself has the property, and the
claim for every node right below it.

`Content.everywhere_of_forall` starts the induction for a tree on which no condition is
put.  It rests on `sizeOf_child_lt`, by which the nodes below a node are smaller, in
whichever field of the node they stand.

`Content.nodes` lists all nodes of a tree, for where they are to be counted.
-/

namespace PromptTree.Content

/-- Every node of a tree has a property. -/
inductive Everywhere (P : Content → Prop) : Content → Prop where
  | node {content : Content} (own : P content)
      (below : ∀ child ∈ content.children, Everywhere P child) : Everywhere P content

variable {P Q : Content → Prop}

theorem Everywhere.imp {content : Content} (himp : ∀ node, P node → Q node)
    (h : Everywhere P content) : Everywhere Q content := by
  induction h with
  | node own _ ih => exact .node (himp _ own) ih

theorem Everywhere.and {content : Content} (hp : Everywhere P content) (hq : Everywhere Q content) :
    Everywhere (fun node => P node ∧ Q node) content := by
  induction hp with
  | node own _ ih =>
      obtain ⟨own', below'⟩ := hq
      exact .node ⟨own, own'⟩ fun child hchild => ih child hchild (below' child hchild)

/-! ## The nodes below a node are smaller -/

private theorem sizeOf_optional_lt {child : Content} {parts : Option Content}
    (h : child ∈ parts.toList) : sizeOf child < sizeOf parts := by
  cases parts with
  | none => simp at h
  | some part =>
      obtain rfl : child = part := by simpa using h
      simp

private theorem sizeOf_labelled_lt {α : Type} [SizeOf α] {child : Content}
    {cases : List (α × Content)} (h : child ∈ cases.map Prod.snd) :
    sizeOf child < sizeOf cases := by
  obtain ⟨⟨label, content⟩, hmem, rfl⟩ := List.mem_map.mp h
  have hpair := List.sizeOf_lt_of_mem hmem
  simp only [Prod.mk.sizeOf_spec] at hpair
  change sizeOf content < sizeOf cases
  omega

theorem sizeOf_child_lt {content child : Content} (h : child ∈ content.children) :
    sizeOf child < sizeOf content := by
  match content with
  | .text _ | .variable _ _ _ | .sectionRef _ | .plural _ _ | .randomValue _ _ _ _
  | .unknown _ _ => simp [children] at h
  | .composite parts | .pickOne parts _ | .pickMany parts _ _ _ =>
      have := List.sizeOf_lt_of_mem (show child ∈ parts from h)
      simp
      omega
  | .conditional _ yes no =>
      rcases List.mem_cons.mp h with rfl | hno
      · simp
        omega
      · have := sizeOf_optional_lt hno
        simp
        omega
  | .list _ _ part | .context _ part | .article _ part _ _ | .shuffle _ _ _ part =>
      have := sizeOf_optional_lt (show child ∈ part.toList from h)
      simp
      omega
  | .countSwitch _ labelled otherwise | .switch _ labelled otherwise =>
      rcases List.mem_append.mp h with hcase | hother
      · have := sizeOf_labelled_lt hcase
        simp
        omega
      · have := sizeOf_optional_lt hother
        simp
        omega
  | .weightedPick options =>
      have := sizeOf_labelled_lt (show child ∈ options.map Prod.snd from h)
      simp
      omega

/-- What all nodes have, the nodes of a tree have. -/
theorem everywhere_of_forall (h : ∀ node, P node) (content : Content) :
    Everywhere P content :=
  .node (h content) fun child hchild =>
    have := sizeOf_child_lt hchild
    everywhere_of_forall h child
termination_by sizeOf content

/-! ## All nodes of a tree -/

/-- All nodes of a tree, each before those below it. -/
def nodes (content : Content) : List Content :=
  content :: content.children.attach.flatMap fun child => nodes child.1
termination_by sizeOf content
decreasing_by exact sizeOf_child_lt child.2

theorem nodes_eq (content : Content) :
    content.nodes = content :: content.children.flatMap nodes := by
  rw [nodes, List.flatMap_subtype (g := nodes) (by intros; rfl), List.unattach_attach]

/-- What all nodes have that are in the list of nodes, the nodes of the tree have. -/
theorem everywhere_of_forall_mem_nodes {P : Content → Prop} {content : Content}
    (h : ∀ node ∈ content.nodes, P node) : content.Everywhere P := by
  induction content.everywhere_of_forall (P := fun _ => True) (fun _ => trivial) with
  | @node content _ _ ih =>
      rw [nodes_eq, List.forall_mem_cons] at h
      refine .node h.1 fun child hchild => ih child hchild fun node hnode => ?_
      exact h.2 node (List.mem_flatMap.mpr ⟨child, hchild, hnode⟩)

end PromptTree.Content
