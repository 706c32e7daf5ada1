import PromptTree.Proofs.Content.CheckedSlots
import PromptTree.Proofs.Content.Children
import PromptTree.Proofs.Content.RoundTrip

/-!
# Documents of nodes, field by field

What stands in the fields of the document of a node: its kind, whatever the kind has to have,
and in the fields for nodes what stands in the slots of the node.  So **a slot of the document
holds the document of what the slot of the node holds** (`exists_child_of_at?`).

## Main Definitions

* `Content.entries` — the entries that a node is written as.
* `Content.listed?`, `Content.labelled?` — the nodes in a field that holds a list of them.
-/

namespace PromptTree.Content

open Schema

/-- The entries that a node is written as. -/
def entries (content : Content) : Entries :=
  content.dump.entries?.getD []

theorem dump_eq_object (content : Content) : content.dump = .object content.entries := by
  cases content with
  | _ => rfl

theorem entries_node (tag : ContentTag) (fields : List (String × Option Value)) :
    (node tag fields).entries? = some (present (("type", some (.str tag.name)) :: fields)) :=
  rfl

/-- The nodes in a field that holds a list of them. -/
def listed? : Content → ListField → Option (List Content)
  | .composite parts, .parts => some parts
  | .pickOne candidates _, .candidates => some candidates
  | .pickMany candidates _ _ _, .candidates => some candidates
  | _, _ => none

/-- The nodes in a field that holds a list of them with labels, and the labels as they are
written. -/
def labelled? : Content → CaseField → Option (List ((String × Value) × Content))
  | .countSwitch _ cases _, .cases => some (cases.map fun case => (("count", case.1.dump), case.2))
  | .switch _ cases _, .cases => some (cases.map fun case => (("value", case.1.toValue), case.2))
  | .weightedPick options, .options =>
    some (options.map fun option => (("weight", .float option.1), option.2))
  | _, _ => none

section Written

variable {content child : Content} {tag : ContentTag} {part : Value}

/-- A node is written with its kind, and with the fields that the kind has to have. -/
theorem entries_of_tag (htag : content.tag? = some tag) :
    ContentTag.ofValue? (Entries.getD content.entries "type") = some tag ∧
      ∀ name ∈ tag.requiredFields, (Entries.getD content.entries name).isNull = false := by
  have hstr : ∀ s, (Value.str s).isNull = false := fun _ => rfl
  have hlist : ∀ items, (Value.list items).isNull = false := fun _ => rfl
  have hcount : ∀ count : PickCount, count.dump.isNull = false := fun count => by
    cases count <;> rfl
  cases content with
  | unknown _ _ => cases htag
  | _ =>
      cases htag
      refine ⟨ofValue?_nodeEntries _ _, ?_⟩
      simp [entries, dump, entries_node, ContentTag.requiredFields, Entries.getD, isNull_dump,
        Condition.isNull_dump, PluralForms.fields, hstr, hlist, hcount]

/-- A field that holds a single node is written as what the node is. -/
theorem lookup_single (htag : content.tag? = some tag) (field : SingleField) :
    content.entries.lookup field.name = (content.child? (.single field)).map dump := by
  cases content with
  | unknown _ _ => cases htag
  | _ =>
      cases field with
      | _ => simp [entries, dump, entries_node, SingleField.name, child?, dump?_eq_map,
          PluralForms.fields]

/-- A field with a list of nodes is written as what they are. -/
theorem lookup_listed (htag : content.tag? = some tag) (field : ListField) :
    content.entries.lookup field.name =
      (content.listed? field).map fun nodes => .list (nodes.map dump) := by
  cases content with
  | unknown _ _ => cases htag
  | _ =>
      cases field with
      | _ => simp [entries, dump, entries_node, ListField.name, listed?, dumps_eq_map,
          PluralForms.fields]

/-- A field with a list of nodes with labels is written as what they are. -/
theorem lookup_labelled (htag : content.tag? = some tag) (field : CaseField) :
    content.entries.lookup field.name =
      (content.labelled? field).map fun cases =>
        .list (cases.map fun case => .object [case.1, ("content", case.2.dump)]) := by
  cases content with
  | unknown _ _ => cases htag
  | _ =>
      cases field with
      | _ => simp [entries, dump, entries_node, CaseField.name, labelled?, dumpCounts_eq_map,
          dumpValues_eq_map, dumpOptions_eq_map, PluralForms.fields, Function.comp_def]

theorem child?_item (content : Content) (field : ListField) (index : Nat) :
    content.child? (.item field index) = (content.listed? field).bind (·[index]?) := by
  cases content with
  | _ =>
      cases field with
      | _ => rfl

theorem child?_case (content : Content) (field : CaseField) (index : Nat) :
    content.child? (.case field index) =
      (content.labelled? field).bind fun cases => cases[index]?.map Prod.snd := by
  cases content with
  | _ =>
      cases field with
      | _ => simp [child?, labelled?, Function.comp_def]

/-- No label is called like the content. -/
theorem label_ne_content {field : CaseField} {cases : List ((String × Value) × Content)}
    (h : content.labelled? field = some cases) : ∀ case ∈ cases, case.1.1 ≠ "content" := by
  unfold labelled? at h
  split at h
  · cases h
    exact List.forall_mem_map.mpr fun _ _ => (by decide : "count" ≠ "content")
  · cases h
    exact List.forall_mem_map.mpr fun _ _ => (by decide : "value" ≠ "content")
  · cases h
    exact List.forall_mem_map.mpr fun _ _ => (by decide : "weight" ≠ "content")
  · cases h

theorem lookup_content {label : String × Value} (hlabel : label.1 ≠ "content") (v : Value) :
    List.lookup "content" [label, ("content", v)] = some v := by
  obtain ⟨name, value⟩ := label
  simp [List.lookup_cons, beq_false_of_ne hlabel.symm]

/-- What stands in a slot of the document of a node is the document of what stands in the slot
of the node. -/
theorem exists_child_of_at? (htag : content.tag? = some tag) {slot : NodeSlot}
    (h : (Value.object content.entries).at? slot.steps = some part) :
    ∃ child, content.child? slot = some child ∧ child.dump = part := by
  cases slot with
  | single field =>
      rw [NodeSlot.at?_single, lookup_single htag] at h
      exact Option.map_eq_some_iff.mp h
  | item field index =>
      obtain ⟨items, hlookup, hitem⟩ := NodeSlot.at?_item.mp h
      rw [lookup_listed htag] at hlookup
      obtain ⟨nodes, hnodes, heq⟩ := Option.map_eq_some_iff.mp hlookup
      cases heq
      rw [List.getElem?_map] at hitem
      obtain ⟨child, hchild, rfl⟩ := Option.map_eq_some_iff.mp hitem
      exact ⟨child, by rw [child?_item, hnodes, Option.bind_some, hchild], rfl⟩
  | case field index =>
      obtain ⟨items, fields, hlookup, hitem, hcontent⟩ := NodeSlot.at?_case.mp h
      rw [lookup_labelled htag] at hlookup
      obtain ⟨cases, hcases, heq⟩ := Option.map_eq_some_iff.mp hlookup
      cases heq
      rw [List.getElem?_map] at hitem
      obtain ⟨case, hcase, heq⟩ := Option.map_eq_some_iff.mp hitem
      cases heq
      have hlabel := label_ne_content hcases case (List.mem_of_getElem? hcase)
      refine ⟨case.2, by rw [child?_case, hcases, Option.bind_some, hcase]; rfl, ?_⟩
      rw [lookup_content hlabel] at hcontent
      exact Option.some_inj.mp hcontent

end Written

end PromptTree.Content
