import PromptTree.Proofs.Content.Returning
import PromptTree.Proofs.Content.Slots

/-!
# The slots that are checked

The check of a document is put together from the pieces of its node and from the checks of the
nodes below it, however deep they are (`checkContent_eq_collect`).  It goes into those that
stand in certain slots: the fields for single nodes and the parts, whatever the kind, and the
lists that the kind asks for.  **Every node that it goes into stands in such a slot**
(`slot_of_part_mem`), and its place in paths is that of the slot.  The pieces of lists are told
item by item (`mem_listPieces`).

## Main Definitions

* `NodeSlot.IsChecked` — the slots of a node that the check goes into.
-/

namespace PromptTree

open Findings Schema

/-! ## Checks at any depth -/

section Depth

variable {node other : Value → Findings}

/-- The check of a node depends on the nodes below it that it goes into. -/
theorem collect_congr {pieces : List Piece} (h : ∀ v ∈ documents pieces, node v = other v) :
    collect node pieces = collect other pieces := by
  refine congrArg gather (List.map_congr_left fun piece hpiece => ?_)
  cases piece with
  | own findings => rfl
  | part place v =>
      simp only [Piece.findings]
      rw [h v (List.mem_filterMap.mpr ⟨_, hpiece, rfl⟩)]

theorem checkWithin_congr {depth depth' : Nat} {v : Value} (h : v.depth < depth)
    (h' : v.depth < depth') : checkWithin depth v = checkWithin depth' v := by
  induction depth generalizing depth' v with
  | zero => exact absurd h (Nat.not_lt_zero _)
  | succ depth ih =>
      obtain ⟨depth', rfl⟩ := Nat.exists_eq_succ_of_ne_zero (Nat.ne_zero_of_lt h')
      -- Whatever the check goes into is less deep than the node.
      rw [checkWithin, checkWithin, checkNodeWith_eq_collect, checkNodeWith_eq_collect]
      refine collect_congr fun part hpart => ih ?_ ?_
      · exact Nat.lt_of_lt_of_le (depth_lt_of_mem_documents hpart) (Nat.le_of_lt_succ h)
      · exact Nat.lt_of_lt_of_le (depth_lt_of_mem_documents hpart) (Nat.le_of_lt_succ h')

/-- **The check of a document is put together from its pieces**, down to any depth. -/
theorem checkContent_eq_collect (v : Value) :
    checkContent v = collect checkContent (nodePieces v) := by
  rw [checkContent, checkWithin, checkNodeWith_eq_collect]
  exact collect_congr fun part hpart =>
    checkWithin_congr (depth_lt_of_mem_documents hpart) (Nat.lt_succ_self part.depth)

end Depth

/-! ## Slots -/

/-- The slots of a node that the check goes into: single nodes and parts, whatever the kind,
and the lists that the kind asks for. -/
def NodeSlot.IsChecked (tag : ContentTag) : NodeSlot → Prop
  | .single _ => True
  | .item .parts _ => True
  | .item .candidates _ => tag = .pickOne ∨ tag = .pickMany
  | .case .cases _ => tag = .countSwitch ∨ tag = .switch
  | .case .options _ => tag = .weightedPick

/-! ## The pieces of lists -/

section Items

variable {piece : Piece} {place : List PlaceStep} {label name : String} {v part : Value}
  {entries : Entries} {inner : Value → List Piece}

/-- A piece of items is a piece of one of them. -/
theorem mem_itemPieces {items : List Value} {start : Nat} :
    piece ∈ (itemPieces label inner start items).flatten ↔
      ∃ index v own, items[index]? = some v ∧ own ∈ inner v ∧
        piece = own.below (.item label (start + index)) := by
  induction items generalizing start with
  | nil => simp [itemPieces]
  | cons first rest ih =>
      rw [itemPieces, List.flatten_cons, List.mem_append, ih, piecesBelow, List.mem_map]
      constructor
      · rintro (⟨own, hown, rfl⟩ | ⟨index, v, own, hv, hown, rfl⟩)
        · exact ⟨0, first, own, rfl, hown, rfl⟩
        · exact ⟨index + 1, v, own, hv, hown, by rw [Nat.add_right_comm, Nat.add_assoc]⟩
      · rintro ⟨index, v, own, hv, hown, rfl⟩
        cases index with
        | zero =>
            cases hv
            exact .inl ⟨own, hown, rfl⟩
        | succ index =>
            exact .inr ⟨index, v, own, hv, hown, by rw [Nat.add_right_comm, Nat.add_assoc]⟩

/-- A piece of a list says that it is none, or is a piece of one of its items. -/
theorem mem_listPieces :
    piece ∈ listPieces entries name inner ↔
      piece = .own (listField entries name).2 ∨
        ∃ index v own, (listField entries name).1[index]? = some v ∧ own ∈ inner v ∧
          piece = own.below (.item name index) := by
  rw [listPieces, List.flatten_cons, List.mem_append, List.mem_singleton, mem_itemPieces]
  simp only [Nat.zero_add]

/-- A value that is not null is there. -/
theorem lookup_of_getD (h : Entries.getD entries name ≠ .null) :
    entries.lookup name = some (Entries.getD entries name) := by
  unfold Entries.getD at h ⊢
  cases hlookup : entries.lookup name with
  | none =>
      rw [hlookup] at h
      exact absurd rfl h
  | some v => rfl

theorem lookup_of_listField {index : Nat} (h : (listField entries name).1[index]? = some v) :
    ∃ items, entries.lookup name = some (.list items) ∧ items[index]? = some v := by
  unfold listField at h
  split at h
  · cases h
  · rename_i items hitems
    have hthere : Entries.getD entries name ≠ .null := by
      rw [hitems]
      nofun
    exact ⟨items, (lookup_of_getD hthere).trans (congrArg some hitems), h⟩
  · cases h

theorem part_mem_content (h : .part place part ∈ contentPieces entries) :
    place = [.field "content"] ∧ entries.lookup "content" = some part := by
  unfold contentPieces at h
  split at h
  · cases List.mem_singleton.mp h
  · rename_i hnull
    cases List.mem_singleton.mp h
    exact ⟨rfl, lookup_of_getD hnull⟩

/-- A part of an item is below the step to the item. -/
theorem part_mem_list (h : .part place part ∈ listPieces entries name inner) :
    ∃ index items v rest, entries.lookup name = some (.list items) ∧ items[index]? = some v ∧
      .part rest part ∈ inner v ∧ place = .item name index :: rest := by
  obtain hown | ⟨index, v, own, hv, hown, heq⟩ := mem_listPieces.mp h
  · cases hown
  · cases own with
    | own findings => cases heq
    | part rest w =>
        cases heq
        obtain ⟨items, hlist, hitem⟩ := lookup_of_listField hv
        exact ⟨index, items, v, rest, hlist, hitem, hown, rfl⟩

end Items

/-! ## The slots of nodes -/

section Slots

variable {entries : Entries} {tag : ContentTag} {place : List PlaceStep} {part : Value}

/-- The pieces of a node of a kind, one group after the other. -/
theorem nodePieces_of_kind (kind : ContentTag.ofValue? (Entries.getD entries "type") = some tag) :
    nodePieces (.object entries) =
      [.own (missingFields entries tag)] ++ (childrenPieces entries ++
        (listPieces entries "parts" wholePieces ++ kindPieces entries tag)) := by
  simp only [nodePieces, kind, List.flatten_cons, List.flatten_nil, List.append_nil]

/-- A part of a case or an option stands in its slot. -/
theorem slot_of_part_mem_cases (field : CaseField) {inner : Value → List Piece}
    (hobject : ∀ fields, ∃ own, inner (.object fields) = .own own :: contentPieces fields)
    (hother : ∀ v : Value, v.entries? = none → ∃ own, inner v = [.own own])
    (h : .part place part ∈ listPieces entries field.name inner) :
    ∃ index, place = (NodeSlot.case field index).place ∧
      (Value.object entries).at? (NodeSlot.case field index).steps = some part := by
  obtain ⟨index, items, v, rest, hlist, hitem, hpart, rfl⟩ := part_mem_list h
  cases hv : v.entries? with
  | none =>
      obtain ⟨own, hown⟩ := hother v hv
      rw [hown] at hpart
      cases List.mem_singleton.mp hpart
  | some fields =>
      obtain rfl : v = .object fields := by
        cases v with
        | object entries => exact congrArg Value.object (Option.some_inj.mp hv)
        | _ => cases hv
      obtain ⟨own, hown⟩ := hobject fields
      rw [hown] at hpart
      obtain hfirst | hcontent := List.mem_cons.mp hpart
      · cases hfirst
      · obtain ⟨rfl, hlookup⟩ := part_mem_content hcontent
        exact ⟨index, rfl, NodeSlot.at?_case.mpr ⟨items, fields, hlist, hitem, hlookup⟩⟩

theorem slot_of_part_mem_items (field : ListField)
    (h : .part place part ∈ listPieces entries field.name wholePieces) :
    ∃ index, place = (NodeSlot.item field index).place ∧
      (Value.object entries).at? (NodeSlot.item field index).steps = some part := by
  obtain ⟨index, items, v, rest, hlist, hitem, hpart, rfl⟩ := part_mem_list h
  cases List.mem_singleton.mp hpart
  exact ⟨index, rfl, NodeSlot.at?_item.mpr ⟨items, hlist, hitem⟩⟩

theorem slot_of_part_mem_children (h : .part place part ∈ childrenPieces entries) :
    ∃ field : SingleField, place = (NodeSlot.single field).place ∧
      (Value.object entries).at? (NodeSlot.single field).steps = some part := by
  have hfields : ∀ child ∈ childFields, ∃ field : SingleField,
      child = (field.name, field.label) := by
    simp only [childFields, List.forall_mem_cons]
    exact ⟨⟨.yes, rfl⟩, ⟨.no, rfl⟩, ⟨.template, rfl⟩, ⟨.fallback, rfl⟩, ⟨.word, rfl⟩,
      ⟨.otherwise, rfl⟩, List.forall_mem_nil _⟩
  obtain ⟨group, hgroup, hpart⟩ := List.mem_flatten.mp h
  obtain ⟨child, hchild, rfl⟩ := List.mem_map.mp hgroup
  obtain ⟨field, rfl⟩ := hfields child hchild
  simp only [childPieces] at hpart
  split at hpart
  · cases hpart
  · rename_i hnull
    cases List.mem_singleton.mp hpart
    exact ⟨field, rfl, NodeSlot.at?_single.mpr (lookup_of_getD hnull)⟩

theorem slot_of_part_mem_kind (h : .part place part ∈ kindPieces entries tag) :
    ∃ slot : NodeSlot, slot.IsChecked tag ∧ place = slot.place ∧
      (Value.object entries).at? slot.steps = some part := by
  have hother : ∀ v : Value, v.entries? = none → ∃ own, countCasePieces v = [.own own] ∧
      valueCasePieces v = [.own own] ∧ ∃ other, optionPieces v = [.own other] := by
    intro v hv
    cases v with
    | object entries => cases hv
    | _ => exact ⟨_, rfl, rfl, _, rfl⟩
  cases tag with
  | countSwitch =>
      obtain ⟨index, hplace, hpart⟩ := slot_of_part_mem_cases .cases
        (fun fields => ⟨_, rfl⟩) (fun v hv => (hother v hv).imp fun _ hown => hown.1) h
      exact ⟨.case .cases index, .inl rfl, hplace, hpart⟩
  | switch =>
      obtain ⟨index, hplace, hpart⟩ := slot_of_part_mem_cases .cases
        (fun fields => ⟨_, rfl⟩) (fun v hv => (hother v hv).imp fun _ hown => hown.2.1) h
      exact ⟨.case .cases index, .inr rfl, hplace, hpart⟩
  | weightedPick =>
      obtain ⟨index, hplace, hpart⟩ := slot_of_part_mem_cases .options
        (fun fields => ⟨_, rfl⟩) (fun v hv => (hother v hv).elim fun _ hown => hown.2.2) h
      exact ⟨.case .options index, rfl, hplace, hpart⟩
  | pickOne | pickMany =>
      obtain hlist | hown := List.mem_append.mp h
      · obtain ⟨index, hplace, hpart⟩ := slot_of_part_mem_items .candidates hlist
        exact ⟨.item .candidates index, by simp [NodeSlot.IsChecked], hplace, hpart⟩
      · cases List.mem_singleton.mp hown
  | conditional =>
      simp only [kindPieces] at h
      split at h
      · cases h
      · cases List.mem_singleton.mp h
  | article | randomValue | shuffle => cases List.mem_singleton.mp h
  | _ => cases h

/-- **Whatever node the check of a node goes into stands in a slot that is checked.** -/
theorem slot_of_part_mem (kind : ContentTag.ofValue? (Entries.getD entries "type") = some tag)
    (h : .part place part ∈ nodePieces (.object entries)) :
    ∃ slot : NodeSlot, slot.IsChecked tag ∧ place = slot.place ∧
      (Value.object entries).at? slot.steps = some part := by
  simp only [nodePieces_of_kind kind, List.mem_append] at h
  obtain hmissing | hchildren | hparts | hkind := h
  · cases List.mem_singleton.mp hmissing
  · obtain ⟨field, hplace, hpart⟩ := slot_of_part_mem_children hchildren
    exact ⟨.single field, trivial, hplace, hpart⟩
  · obtain ⟨index, hplace, hpart⟩ := slot_of_part_mem_items .parts hparts
    exact ⟨.item .parts index, trivial, hplace, hpart⟩
  · exact slot_of_part_mem_kind hkind

end Slots

end PromptTree
