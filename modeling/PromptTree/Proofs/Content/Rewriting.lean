import Mathlib.Data.List.Forall2
import PromptTree.Proofs.Content.Everywhere

/-!
# Trees with other nodes in them

What it means that a tree comes from another one by putting other nodes in the places of
some.  `Content.Rewritten Step Keep` is the relation: at each node either `Step` says what
takes its place, with everything below it, or the node is kept and the rewriting goes on
below it; `Keep` is what is known of the nodes that are kept.  Like `Content.Everywhere`,
which is its case without replacements, it is the form in which changed trees enter the
theorems about rendering.

`Content.rewrite` is the rewriting by a function, at every node from the top that the
function replaces.

## Main Definitions

* `Content.withChildren`, `Content.mapChildren` — a node with other nodes right below it.
* `Content.map` — a tree in which every node was changed by itself.
* `Content.Rewritten`, `Content.rewrite` — rewritten trees, by a relation and by a function.
-/

namespace PromptTree.Content

/-! ## Other nodes below a node -/

/-- A node with other nodes right below it, as many as before and in the order of
`children`. -/
def withChildren : Content → List Content → Content
  | .composite _, parts => .composite parts
  | .conditional condition yes _, parts => .conditional condition (parts.headD yes) parts[1]?
  | .list id set _, parts => .list id set parts.head?
  | .context key _, parts => .context key parts.head?
  | .article id _ style capitalize, parts => .article id parts.head? style capitalize
  | .countSwitch id cases _, parts =>
    .countSwitch id ((cases.map Prod.fst).zip parts) parts[cases.length]?
  | .switch id cases _, parts =>
    .switch id ((cases.map Prod.fst).zip parts) parts[cases.length]?
  | .pickOne _ weights, parts => .pickOne parts weights
  | .pickMany _ count set duplicates, parts => .pickMany parts count set duplicates
  | .weightedPick options, parts => .weightedPick ((options.map Prod.fst).zip parts)
  | .shuffle id count set _, parts => .shuffle id count set parts.head?
  | content, _ => content

/-- A node with every node right below it changed by a function. -/
def mapChildren (f : Content → Content) : Content → Content
  | .composite parts => .composite (parts.map f)
  | .conditional condition yes no => .conditional condition (f yes) (no.map f)
  | .list id set template => .list id set (template.map f)
  | .context key fallback => .context key (fallback.map f)
  | .article id word style capitalize => .article id (word.map f) style capitalize
  | .countSwitch id cases otherwise =>
    .countSwitch id (cases.map fun p => (p.1, f p.2)) (otherwise.map f)
  | .switch id cases otherwise => .switch id (cases.map fun p => (p.1, f p.2)) (otherwise.map f)
  | .pickOne candidates weights => .pickOne (candidates.map f) weights
  | .pickMany candidates count set duplicates => .pickMany (candidates.map f) count set duplicates
  | .weightedPick options => .weightedPick (options.map fun p => (p.1, f p.2))
  | .shuffle id count set template => .shuffle id count set (template.map f)
  | content => content

private theorem zip_map_append {α β : Type} (f : β → β) (cases : List (α × β)) (more : List β) :
    (cases.map Prod.fst).zip ((cases.map Prod.snd).map f ++ more) =
      cases.map fun p => (p.1, f p.2) := by
  induction cases with
  | nil => rfl
  | cons first rest ih => simpa using ih

private theorem getElem?_length_cases {α β : Type} (f : β → β) (cases : List (α × β))
    (part : Option β) :
    ((cases.map Prod.snd).map f ++ part.toList.map f)[cases.length]? = part.map f := by
  rw [List.getElem?_append_right (by simp), List.length_map, List.length_map, Nat.sub_self,
    ← List.head?_eq_getElem?, List.head?_map, Option.head?_toList]

/-- Changed nodes in their old places. -/
theorem withChildren_map (f : Content → Content) (content : Content) :
    content.withChildren (content.children.map f) = content.mapChildren f := by
  have hpart : ∀ part : Option Content, (part.toList.map f).head? = part.map f := by
    intro part
    rw [List.head?_map, Option.head?_toList]
  match content with
  | .text _ | .variable _ _ _ | .sectionRef _ | .plural _ _ | .randomValue _ _ _ _
  | .unknown _ _ | .composite _ | .pickOne _ _ | .pickMany _ _ _ _ => rfl
  | .conditional _ _ no =>
      simp only [withChildren, children, mapChildren, List.map_cons, List.headD_cons,
        List.getElem?_cons_succ, ← List.head?_eq_getElem?, hpart]
  | .list _ _ _ | .context _ _ | .article _ _ _ _ | .shuffle _ _ _ _ =>
      simp only [withChildren, children, mapChildren, hpart]
  | .countSwitch _ cases otherwise | .switch _ cases otherwise =>
      simp only [withChildren, children, mapChildren, List.map_append, zip_map_append,
        getElem?_length_cases]
  | .weightedPick options =>
      have hzip := zip_map_append f options []
      rw [List.append_nil] at hzip
      simp only [withChildren, children, mapChildren, hzip]

theorem withChildren_children (content : Content) :
    content.withChildren content.children = content := by
  have hmap := withChildren_map id content
  rw [List.map_id] at hmap
  rw [hmap]
  cases content with
  | _ => simp [mapChildren]

private theorem toList_head? {β : Type} {part : Option β} {parts : List β}
    (h : part.toList.length = parts.length) : parts.head?.toList = parts := by
  match part, parts with
  | none, [] => rfl
  | some _, [_] => rfl

private theorem map_snd_zip_append {α β : Type} {cases : List (α × β)} {parts : List β}
    {part : Option β} (h : cases.length + part.toList.length = parts.length) :
    ((cases.map Prod.fst).zip parts).map Prod.snd ++ parts[cases.length]?.toList = parts := by
  induction cases generalizing parts with
  | nil =>
      rw [List.length_nil, ← List.head?_eq_getElem?, toList_head? (by simpa using h)]
      rfl
  | cons _ rest ih =>
      rw [List.length_cons, Nat.add_right_comm] at h
      obtain ⟨first, parts, rfl⟩ := List.exists_cons_of_length_eq_add_one h.symm
      simp [ih (Nat.succ.inj h)]

/-- The nodes right below a node are those that it was given. -/
theorem children_withChildren {content : Content} {parts : List Content}
    (h : content.children.length = parts.length) :
    (content.withChildren parts).children = parts := by
  match content with
  | .text _ | .variable _ _ _ | .sectionRef _ | .plural _ _ | .randomValue _ _ _ _
  | .unknown _ _ => exact (List.length_eq_zero_iff.mp h.symm).symm
  | .composite _ | .pickOne _ _ | .pickMany _ _ _ _ => rfl
  | .conditional _ _ _ =>
      obtain ⟨yes, parts, rfl⟩ := List.exists_cons_of_length_eq_add_one h.symm
      have hno := toList_head? (Nat.succ.inj h)
      rw [List.head?_eq_getElem?] at hno
      simp [withChildren, children, hno]
  | .list _ _ _ | .context _ _ | .article _ _ _ _ | .shuffle _ _ _ _ => exact toList_head? h
  | .countSwitch _ _ _ | .switch _ _ _ =>
      exact map_snd_zip_append (by simpa [children] using h)
  | .weightedPick options =>
      have hlength : options.length = parts.length := by simpa [children] using h
      exact List.map_snd_zip (by simp [hlength])

/-! ## Rewriting -/

/-- A tree that comes from another one: some nodes are replaced as `Step` says, and the
others are kept. -/
inductive Rewritten (Step : Content → Content → Prop) (Keep : Content → Prop) :
    Content → Content → Prop where
  | step {content content' : Content} (h : Step content content') :
      Rewritten Step Keep content content'
  | keep {content : Content} (own : Keep content) {parts : List Content}
      (length_eq : content.children.length = parts.length)
      (below : ∀ p ∈ content.children.zip parts, Rewritten Step Keep p.1 p.2) :
      Rewritten Step Keep content (content.withChildren parts)

variable {Step Step' : Content → Content → Prop} {Keep Keep' : Content → Prop}

theorem Rewritten.imp (hstep : ∀ node node', Step node node' → Step' node node')
    (hkeep : ∀ node, Keep node → Keep' node) {content content' : Content}
    (h : Rewritten Step Keep content content') : Rewritten Step' Keep' content content' := by
  induction h with
  | step h => exact .step (hstep _ _ h)
  | keep own hlength _ ih => exact .keep (hkeep _ own) hlength ih

/-- A tree all of whose nodes may be kept comes from itself. -/
theorem Everywhere.rewritten {content : Content} (h : Everywhere Keep content) :
    Rewritten Step Keep content content := by
  induction h with
  | @node content own _ ih =>
      have hself : Rewritten Step Keep content (content.withChildren content.children) := by
        refine .keep own rfl fun p hp => ?_
        rw [List.zip_eq_zipWith, List.zipWith_self] at hp
        obtain ⟨child, hchild, rfl⟩ := List.mem_map.mp hp
        exact ih child hchild
      rwa [withChildren_children] at hself

/-- What all nodes have that are put in and that are kept, with whatever below them, the
nodes of the rewritten tree have. -/
theorem Rewritten.everywhere {P : Content → Prop}
    (hstep : ∀ node node', Step node node' → Everywhere P node')
    (hkeep : ∀ node parts, Keep node → P (node.withChildren parts))
    {content content' : Content} (h : Rewritten Step Keep content content') :
    Everywhere P content' := by
  induction h with
  | step h => exact hstep _ _ h
  | @keep content own parts hlength _ ih =>
      refine .node (hkeep content parts own) fun child hchild => ?_
      rw [children_withChildren hlength, ← List.map_snd_zip (Nat.le_of_eq hlength.symm)] at hchild
      obtain ⟨pair, hpair, rfl⟩ := List.mem_map.mp hchild
      exact ih pair hpair

/-- The tree in which a function replaces every node that it has a replacement for. -/
def rewrite (f : Content → Option Content) (content : Content) : Content :=
  match f content with
  | some replacement => replacement
  | none => content.withChildren (content.children.attach.map fun child => rewrite f child.1)
termination_by sizeOf content
decreasing_by exact sizeOf_child_lt child.2

theorem rewrite_of_some {f : Content → Option Content} {content replacement : Content}
    (h : f content = some replacement) : rewrite f content = replacement := by
  rw [rewrite, h]

theorem rewrite_of_none {f : Content → Option Content} {content : Content}
    (h : f content = none) :
    rewrite f content = content.withChildren (content.children.map (rewrite f)) := by
  rw [rewrite, h]
  simp only [List.map_attach_eq_pmap, List.pmap_eq_map]

/-- Rewriting by a function is rewriting: what is kept is what it has no replacement for. -/
theorem rewritten_rewrite (f : Content → Option Content) (content : Content) :
    Rewritten (fun node node' => f node = some node') (fun node => f node = none) content
      (rewrite f content) := by
  have hall : content.Everywhere fun _ => True := everywhere_of_forall (fun _ => trivial) content
  induction hall with
  | @node content _ _ ih =>
      cases hf : f content with
      | some replacement =>
          rw [rewrite_of_some hf]
          exact .step hf
      | none =>
          rw [rewrite_of_none hf]
          refine .keep hf (by simp) fun p hp => ?_
          rw [List.zip_map_right, List.zip_eq_zipWith, List.zipWith_self] at hp
          obtain ⟨pair, hpair, rfl⟩ := List.mem_map.mp hp
          obtain ⟨child, hchild, rfl⟩ := List.mem_map.mp hpair
          exact ih child hchild

/-! ## Changing every node by itself -/

/-- The tree in which a function has changed every node by itself. -/
def map (f : Content → Content) (content : Content) : Content :=
  (f content).withChildren (content.children.attach.map fun child => map f child.1)
termination_by sizeOf content
decreasing_by exact sizeOf_child_lt child.2

theorem map_def (f : Content → Content) (content : Content) :
    map f content = (f content).withChildren (content.children.map (map f)) := by
  rw [map]
  simp only [List.map_attach_eq_pmap, List.pmap_eq_map]

/-- A node that keeps its nodes below is changed after them or before them. -/
theorem map_eq {f : Content → Content} {content : Content}
    (h : (f content).children = content.children) :
    map f content = (f content).mapChildren (map f) := by
  rw [map_def, ← h, withChildren_map]

/-- Functions that change all nodes of a tree alike change the tree alike. -/
theorem map_congr {f g : Content → Content} {content : Content}
    (h : content.Everywhere fun node => f node = g node) : map f content = map g content := by
  induction h with
  | @node content own _ ih => rw [map_def, map_def, own, List.map_congr_left ih]

end PromptTree.Content
