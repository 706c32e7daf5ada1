import PromptTree.Proofs.Content.Quiet
import PromptTree.Proofs.Content.RoundTrip

/-!
# The check counts the nodes of no known kind

The check of a tree that was read, if it returns, finds one `UNKNOWN_CONTENT_TYPE` for each node
of no known kind (`check_reports_unknown`).  Two enumerations have to agree for it, which are
written down apart from each other: the fields that the check goes into, and the nodes right
below a node.  That they do is `documents_dump`.

What the check finds at a single node is settled in `Proofs.Content.Quiet`.  The theorem
follows by induction on the depth of the document.

## Main Definitions

* `Content.isUnknown` — the nodes of no known kind.
-/

namespace PromptTree

open Findings

namespace Content

variable {entries : Entries}

/-- The single nodes of fields that were written from nodes. -/
theorem documents_children {parts : List (Option Content)}
    (h : childFields.map (fun field => entries.lookup field.1) = parts.map dump?) :
    documents (childrenPieces entries) = (parts.flatMap Option.toList).map dump := by
  have hfields : ∀ fields : List (String × String), ∀ parts : List (Option Content),
      fields.map (fun field => entries.lookup field.1) = parts.map dump? →
        (fields.map fun field => childPieces entries field.1 field.2).flatMap documents =
          (parts.flatMap Option.toList).map dump := by
    intro fields
    induction fields with
    | nil =>
        intro parts h
        obtain rfl := List.map_eq_nil_iff.mp h.symm
        rfl
    | cons field rest ih =>
        intro parts h
        obtain ⟨part, others, rfl, hpart, hothers⟩ := List.map_eq_cons_iff.mp h.symm
        rw [List.map_cons, List.flatMap_cons, ih others hothers.symm, List.flatMap_cons,
          List.map_append]
        refine congrArg (· ++ _) ?_
        cases part with
        | none =>
            simp only [childPieces, Entries.getD, ← hpart, dump?]
            rfl
        | some child =>
            have hnull := isNull_dump child
            simp only [childPieces, Entries.getD, ← hpart, dump?, Option.getD_some]
            cases hdump : child.dump with
            | null => simp [hdump, Value.isNull] at hnull
            | _ => simp [documents, Piece.document?, hdump]
  rw [childrenPieces, documents_flatten]
  exact hfields childFields parts h

theorem listField_of_lookup {name : String} {items : List Value}
    (h : entries.lookup name = some (.list items)) : (listField entries name).1 = items := by
  simp only [listField, Entries.getD, h, Option.getD_some]

theorem documents_list_of_missing {name : String} (h : entries.lookup name = none)
    (inner : Value → List Piece) : documents (listPieces entries name inner) = [] := by
  rw [documents_list, listField, Entries.getD, h]
  rfl

theorem documents_parts {name : String} {parts : List Content}
    (h : entries.lookup name = some (.list (dumps parts))) :
    documents (listPieces entries name wholePieces) = parts.map dump := by
  rw [documents_list, listField_of_lookup h, dumps_eq_map]
  exact List.flatMap_singleton' _

/-- Nodes with labels: cases and options. -/
theorem documents_labelled {α : Type} {name : String} (first : String) (write : α → Value)
    (cases : List (α × Content)) {inner : Value → List Piece} (hne : "content" ≠ first)
    (hinner : ∀ fields, documents (inner (.object fields)) = documents (contentPieces fields))
    (h : entries.lookup name =
      some (.list (cases.map fun p => .object [(first, write p.1), ("content", p.2.dump)]))) :
    documents (listPieces entries name inner) = (cases.map Prod.snd).map dump := by
  rw [documents_list, listField_of_lookup h, List.flatMap_map]
  have hcase : ∀ p : α × Content, documents
      (inner (.object [(first, write p.1), ("content", p.2.dump)])) = [p.2.dump] := by
    intro p
    have hcontent : Entries.getD [(first, write p.1), ("content", p.2.dump)] "content" =
        p.2.dump := by
      simp [Entries.getD, List.lookup_cons, beq_false_of_ne hne]
    have hnull := isNull_dump p.2
    rw [hinner, contentPieces, hcontent]
    cases hdump : p.2.dump with
    | null => simp [hdump, Value.isNull] at hnull
    | _ => rfl
  simp only [hcase, List.map_map]
  exact List.flatMap_pure_eq_map ..

/-- The nodes that the check of a node of a known kind goes into: single nodes, and nodes in
lists. -/
theorem documents_node {tag : ContentTag} {fields : List (String × Option Value)}
    (singles : List (Option Content)) (listed : List Content) {children : List Content}
    (hsingles : childFields.map (fun field => (nodeEntries tag fields).lookup field.1) =
      singles.map dump?)
    (hlisted : documents (listPieces (nodeEntries tag fields) "parts" wholePieces) ++
      documents (kindPieces (nodeEntries tag fields) tag) = listed.map dump)
    (hchildren : (singles.flatMap Option.toList ++ listed).Perm children) :
    (documents (nodePieces (Content.node tag fields))).Perm (children.map dump) := by
  have hpieces : documents (nodePieces (Content.node tag fields)) =
      (singles.flatMap Option.toList ++ listed).map dump := by
    change documents (nodePieces (.object (nodeEntries tag fields))) = _
    simp only [nodePieces, ofValue?_nodeEntries, documents_flatten, List.flatMap_cons,
      List.flatMap_nil, List.append_nil, hlisted, documents_children hsingles, List.map_append]
    rfl
  rw [hpieces]
  exact hchildren.map dump

/-- A node without nodes in lists. -/
theorem documents_node_singles {tag : ContentTag} {fields : List (String × Option Value)}
    (singles : List (Option Content)) {children : List Content}
    (hsingles : childFields.map (fun field => (nodeEntries tag fields).lookup field.1) =
      singles.map dump?)
    (hparts : (nodeEntries tag fields).lookup "parts" = none)
    (hkind : documents (kindPieces (nodeEntries tag fields) tag) = [])
    (hchildren : singles.flatMap Option.toList = children) :
    (documents (nodePieces (Content.node tag fields))).Perm (children.map dump) := by
  refine documents_node singles [] hsingles ?_ ?_
  · rw [documents_list_of_missing hparts, hkind]
    rfl
  · rw [hchildren, List.append_nil]

/-- **The check goes into the nodes right below a node**, each once, wherever the node keeps
them. -/
theorem documents_dump {content : Content} (hlegible : content.Legible) :
    (documents (nodePieces content.dump)).Perm (content.children.map dump) := by
  match content with
  | .text _ | .variable _ _ _ | .sectionRef _ | .randomValue _ _ _ _ =>
      refine documents_node_singles [none, none, none, none, none, none] ?_ ?_ rfl rfl
      · simp [childFields, nodeEntries, dump?]
      · simp [nodeEntries]
  | .plural _ _ =>
      refine documents_node_singles [none, none, none, none, none, none] ?_ ?_ rfl rfl
      · simp [childFields, nodeEntries, dump?, PluralForms.fields]
      · simp [nodeEntries, PluralForms.fields]
  | .conditional condition yes no =>
      refine documents_node_singles [some yes, no, none, none, none, none] ?_ ?_ ?_ ?_
      · simp [childFields, nodeEntries, dump?]
      · simp [nodeEntries]
      · simp only [kindPieces]
        split
        · rfl
        · rfl
      · simp [children]
  | .list _ _ template | .shuffle _ _ _ template =>
      refine documents_node_singles [none, none, template, none, none, none] ?_ ?_ rfl ?_
      · simp [childFields, nodeEntries, dump?]
      · simp [nodeEntries]
      · simp [children]
  | .context _ fallback =>
      refine documents_node_singles [none, none, none, fallback, none, none] ?_ ?_ rfl ?_
      · simp [childFields, nodeEntries, dump?]
      · simp [nodeEntries]
      · simp [children]
  | .article _ word _ _ =>
      refine documents_node_singles [none, none, none, none, word, none] ?_ ?_ rfl ?_
      · simp [childFields, nodeEntries, dump?]
      · simp [nodeEntries]
      · simp [children]
  | .composite parts =>
      refine documents_node [none, none, none, none, none, none] parts ?_ ?_ (.refl parts)
      · simp [childFields, nodeEntries, dump?]
      · rw [@documents_parts _ "parts" parts (by simp [nodeEntries])]
        exact List.append_nil _
  | .pickOne candidates _ | .pickMany candidates _ _ _ =>
      refine documents_node [none, none, none, none, none, none] candidates ?_ ?_ (.refl candidates)
      · simp [childFields, nodeEntries, dump?]
      · rw [documents_list_of_missing (by simp [nodeEntries]), kindPieces, documents_append_own,
          @documents_parts _ "candidates" candidates (by simp [nodeEntries])]
        rfl
  | .weightedPick options =>
      refine documents_node [none, none, none, none, none, none] (options.map Prod.snd) ?_ ?_
        (.refl _)
      · simp [childFields, nodeEntries, dump?]
      · rw [documents_list_of_missing (by simp [nodeEntries]), kindPieces,
          documents_labelled "weight" .float options (by decide) (fun _ => rfl)
            (by simp [nodeEntries, dumpOptions_eq_map])]
        rfl
  | .countSwitch _ cases otherwise =>
      refine documents_node [none, none, none, none, none, otherwise] (cases.map Prod.snd) ?_ ?_ ?_
      · simp [childFields, nodeEntries, dump?]
      · rw [documents_list_of_missing (by simp [nodeEntries]), kindPieces,
          documents_labelled "count" CaseCount.dump cases (by decide) (fun _ => rfl)
            (by simp [nodeEntries, dumpCounts_eq_map])]
        rfl
      · simpa [children] using List.perm_append_comm
  | .switch _ cases otherwise =>
      refine documents_node [none, none, none, none, none, otherwise] (cases.map Prod.snd) ?_ ?_ ?_
      · simp [childFields, nodeEntries, dump?]
      · rw [documents_list_of_missing (by simp [nodeEntries]), kindPieces,
          documents_labelled "value" CaseValue.toValue cases (by decide) (fun _ => rfl)
            (by simp [nodeEntries, dumpValues_eq_map])]
        rfl
      · simpa [children] using List.perm_append_comm
  | .unknown tag fields =>
      rw [dump_unknown, nodePieces, ofValue?_taggedFields hlegible]
      exact .refl []

/-! ## Trees that were read -/

/-- The node is of no known kind. -/
def isUnknown (content : Content) : Bool :=
  content.tag?.isNone

/-- The nodes of a tree are counted node by node. -/
theorem countP_nodes (p : Content → Bool) (content : Content) :
    content.nodes.countP p =
      (content.children.map fun child => child.nodes.countP p).sum +
        if p content then 1 else 0 := by
  rw [nodes_eq, List.countP_cons, List.countP_flatMap]
  rfl

/-- Nothing is found at a node of a known kind that is about nodes of no known kind. -/
theorem quietPieces_dump {content : Content} (h : content.isUnknown = false) :
    QuietPieces (nodePieces content.dump) := by
  cases content with
  | unknown _ _ => cases h
  | _ => exact quiet_nodePieces (ofValue?_nodeEntries _ _)

/-- A node of no known kind is found, and nothing else at it. -/
theorem reports_unknown {tag : Option String} {fields : List (String × Value)}
    (hlegible : (unknown tag fields).Legible) (node : Value → Findings) :
    (checkNodeWith node (unknown tag fields).dump).Reports "UNKNOWN_CONTENT_TYPE" 1 := by
  rw [dump_unknown, checkNodeWith, ofValue?_taggedFields hlegible]
  refine Reports.showing ?_ _
  rintro problems ⟨⟩
  rfl

/-- One level of the check: the nodes below and the node itself. -/
theorem reports_checkNodeWith {content : Content} (hlegible : content.Legible)
    {node : Value → Findings} {count : Content → Nat}
    (h : ∀ child ∈ content.children,
      (node child.dump).Reports "UNKNOWN_CONTENT_TYPE" (count child)) :
    (checkNodeWith node content.dump).Reports "UNKNOWN_CONTENT_TYPE"
      ((content.children.map count).sum + if content.isUnknown then 1 else 0) := by
  cases hunknown : content.isUnknown with
  | true =>
      cases content with
      | unknown tag fields => exact reports_unknown hlegible node
      | _ => cases hunknown
  | false =>
      have hchildren : List.Forall₂ (fun v => (node v).Reports "UNKNOWN_CONTENT_TYPE")
          (content.children.map dump) (content.children.map count) := by
        rw [List.forall₂_map_left_iff, List.forall₂_map_right_iff, List.forall₂_same]
        exact h
      obtain ⟨counts, hcounts, hperm⟩ :=
        List.perm_comp_forall₂ (documents_dump hlegible) hchildren
      rw [checkNodeWith_eq_collect, ← hperm.sum_nat]
      exact reports_collect (quietPieces_dump hunknown) hcounts

/-- **The check finds each node of no known kind once**, by induction on the depth. -/
theorem reports_checkWithin {depth : Nat} {content : Content}
    (hlegible : content.Everywhere Legible) (hdepth : content.dump.depth < depth) :
    (checkWithin depth content.dump).Reports "UNKNOWN_CONTENT_TYPE"
      (content.nodes.countP isUnknown) := by
  induction depth generalizing content with
  | zero => exact absurd hdepth (Nat.not_lt_zero _)
  | succ depth ih =>
      obtain ⟨hown, hbelow⟩ := hlegible
      rw [checkWithin, countP_nodes]
      refine reports_checkNodeWith hown fun child hchild => ih (hbelow child hchild) ?_
      exact Nat.lt_of_lt_of_le (depth_dump_lt hchild) (Nat.le_of_lt_succ hdepth)

theorem check_reports_unknown {content : Content} (hlegible : content.Everywhere Legible) :
    content.check.Reports "UNKNOWN_CONTENT_TYPE" (content.nodes.countP isUnknown) :=
  reports_checkWithin hlegible (Nat.lt_succ_self _)

end Content

end PromptTree
