import PromptTree.Content.Check
import PromptTree.Proofs.Text.Marks
import PromptTree.Proofs.Value.Places

/-!
# Places of nodes

A node stands in a slot of the node above it: in a field that holds a single node, in a list
of nodes, or in a case or an option of such a list.  The slots that lead to a node from the
root are its position.  A position says where the node stands in the document
(`stepsTo`), and how this is told in a path (`pathTo`), where the names of fields are shorter
and the contents of cases are parts of their cases.

**Different positions have different paths** (`pathTo_injective`): steps begin with a point,
no name has a point or a bracket in it, and no field of a node is called like the content of a
case.

## Main Definitions

* `NodeSlot` — the slots for nodes, with their steps in documents and in paths.
* `NodeAt` — the value at a position, if all slots on the way to it are of certain kinds.
* `Problem.within` — a problem of a part as a problem of the whole.
-/

namespace PromptTree

open Schema

/-! ## Slots -/

/-- The fields that hold a single node. -/
inductive SingleField where
  | yes
  | no
  | template
  | fallback
  | word
  | otherwise
  deriving Repr, DecidableEq

/-- The fields that hold a list of nodes. -/
inductive ListField where
  | parts
  | candidates
  deriving Repr, DecidableEq

/-- The fields that hold a list of nodes with labels. -/
inductive CaseField where
  | cases
  | options
  deriving Repr, DecidableEq

/-- The name of a field in documents. -/
def SingleField.name : SingleField → String
  | yes => "then_content"
  | no => "else_content"
  | template => "item_template"
  | fallback => "fallback"
  | word => "word_content"
  | otherwise => "default_content"

/-- The label of a field in paths. -/
def SingleField.label : SingleField → String
  | yes => "then"
  | no => "else"
  | template => "item_template"
  | fallback => "fallback"
  | word => "word_content"
  | otherwise => "default"

/-- The name of a field, in documents and in paths. -/
def ListField.name : ListField → String
  | parts => "parts"
  | candidates => "candidates"

/-- The name of a field, in documents and in paths. -/
def CaseField.name : CaseField → String
  | cases => "cases"
  | options => "options"

/-- A slot for a node in the node above. -/
inductive NodeSlot where
  | single (field : SingleField)
  | item (field : ListField) (index : Nat)
  | case (field : CaseField) (index : Nat)
  deriving Repr, DecidableEq

namespace NodeSlot

/-- The steps to a slot in the document of a node. -/
def steps : NodeSlot → List Step
  | single field => [.field field.name]
  | item field index => [.field field.name, .item index]
  | case field index => [.field field.name, .item index, .field "content"]

/-- The steps to a slot in a path. -/
def place : NodeSlot → List PlaceStep
  | single field => [.field field.label]
  | item field index => [.item field.name index]
  | case field index => [.item field.name index, .field "content"]

section Documents

variable {entries : Entries} {part : Value}

theorem at?_single {field : SingleField} :
    (Value.object entries).at? (single field).steps = some part ↔
      entries.lookup field.name = some part := by
  simp [steps, Value.at?_field, Value.at?_nil]

theorem at?_item {field : ListField} {index : Nat} :
    (Value.object entries).at? (item field index).steps = some part ↔
      ∃ items, entries.lookup field.name = some (.list items) ∧ items[index]? = some part := by
  rw [steps, Value.at?_field]
  constructor
  · rintro ⟨_, u, heq, hlist, hitem⟩
    obtain rfl := Value.object.inj heq
    obtain ⟨items, _, rfl, hpart, hnil⟩ := Value.at?_item.mp hitem
    rw [Value.at?_nil] at hnil
    exact ⟨items, hlist, hpart.trans hnil⟩
  · rintro ⟨items, hlist, hpart⟩
    exact ⟨_, _, rfl, hlist, Value.at?_item.mpr ⟨items, part, rfl, hpart, Value.at?_nil part⟩⟩

theorem at?_case {field : CaseField} {index : Nat} :
    (Value.object entries).at? (case field index).steps = some part ↔
      ∃ items fields, entries.lookup field.name = some (.list items) ∧
        items[index]? = some (.object fields) ∧ fields.lookup "content" = some part := by
  rw [steps, Value.at?_field]
  constructor
  · rintro ⟨_, u, heq, hlist, hitem⟩
    obtain rfl := Value.object.inj heq
    obtain ⟨items, _, rfl, hcase, hcontent⟩ := Value.at?_item.mp hitem
    obtain ⟨fields, _, rfl, hpart, hnil⟩ := Value.at?_field.mp hcontent
    rw [Value.at?_nil] at hnil
    exact ⟨items, fields, hlist, hcase, hpart.trans hnil⟩
  · rintro ⟨items, fields, hlist, hcase, hpart⟩
    have hcontent := Value.at?_field.mpr ⟨fields, part, rfl, hpart, Value.at?_nil part⟩
    exact ⟨_, _, rfl, hlist, Value.at?_item.mpr ⟨items, _, rfl, hcase, hcontent⟩⟩

theorem withAt_single (field : SingleField) (new : Value) :
    (Value.object entries).withAt (single field).steps new =
      .object (Entries.put field.name new entries) := by
  rw [steps, Value.withAt, Value.withAt_nil]

theorem withAt_item {field : ListField} {index : Nat} {items : List Value}
    (h : entries.lookup field.name = some (.list items)) (h' : items[index]? = some part)
    (new : Value) :
    (Value.object entries).withAt (item field index).steps new =
      .object (Entries.put field.name (.list (items.set index new)) entries) := by
  rw [steps, Value.withAt_field _ _ h, Value.withAt_item _ _ h', Value.withAt_nil]

theorem withAt_case {field : CaseField} {index : Nat} {items : List Value} {fields : Entries}
    (h : entries.lookup field.name = some (.list items))
    (h' : items[index]? = some (.object fields)) (new : Value) :
    (Value.object entries).withAt (case field index).steps new =
      .object (Entries.put field.name
        (.list (items.set index (.object (Entries.put "content" new fields)))) entries) := by
  rw [steps, Value.withAt_field _ _ h, Value.withAt_item _ _ h', Value.withAt, Value.withAt_nil]

end Documents

end NodeSlot

/-- The steps to a position in a document. -/
def stepsTo (position : List NodeSlot) : List Step :=
  position.flatMap NodeSlot.steps

/-- The steps to a position in a path. -/
def placeOf (position : List NodeSlot) : List PlaceStep :=
  position.flatMap NodeSlot.place

/-- The path of a position. -/
def pathTo (position : List NodeSlot) : String :=
  "root" ++ Text.join "" ((placeOf position).map PlaceStep.text)

/-- A value stands at a position of a document, and every node on the way there is of a known
kind that has the slot which leads on. -/
inductive NodeAt (has : ContentTag → NodeSlot → Prop) : Value → List NodeSlot → Value → Prop where
  | here (v : Value) : NodeAt has v [] v
  | inside {entries : Entries} {tag : ContentTag} {slot : NodeSlot} {position : List NodeSlot}
      {part inner : Value}
      (kind : ContentTag.ofValue? (Entries.getD entries "type") = some tag)
      (own : has tag slot)
      (there : (Value.object entries).at? slot.steps = some part)
      (deeper : NodeAt has part position inner) :
      NodeAt has (.object entries) (slot :: position) inner

section Positions

variable {has : ContentTag → NodeSlot → Prop} {v part inner : Value} {position more : List NodeSlot}

theorem stepsTo_cons (slot : NodeSlot) (position : List NodeSlot) :
    stepsTo (slot :: position) = slot.steps ++ stepsTo position :=
  List.flatMap_cons

theorem placeOf_cons (slot : NodeSlot) (position : List NodeSlot) :
    placeOf (slot :: position) = slot.place ++ placeOf position :=
  List.flatMap_cons

/-- The steps to a position lead to what stands there. -/
theorem NodeAt.at? (h : NodeAt has v position part) : v.at? (stepsTo position) = some part := by
  induction h with
  | here v => exact Value.at?_nil v
  | inside _ _ there _ ih => rw [stepsTo_cons, Value.at?_append _ there, ih]

/-- Positions go on from each other. -/
theorem NodeAt.append (h : NodeAt has v position part) (h' : NodeAt has part more inner) :
    NodeAt has v (position ++ more) inner := by
  induction h with
  | here v => exact h'
  | inside kind own there _ ih => exact .inside kind own there (ih h')

end Positions

/-! ## Problems of parts -/

namespace Problem

/-- A problem of a part as a problem of the whole. -/
def within (place : List PlaceStep) (problem : Problem) : Problem :=
  { problem with place := place ++ problem.place }

theorem map_within_nil (problems : List Problem) : problems.map (within []) = problems :=
  List.map_id' problems

theorem within_within (place more : List PlaceStep) (problem : Problem) :
    (problem.within more).within place = problem.within (place ++ more) := by
  simp only [within, List.append_assoc]

/-- The path of a problem of a part goes on from that of the part as it does from the root. -/
theorem exists_pathText_within (problem : Problem) (position : List NodeSlot) :
    ∃ rest, problem.pathText = "root" ++ rest ∧
      (problem.within (placeOf position)).pathText = pathTo position ++ rest := by
  refine ⟨Text.join "" (problem.place.map PlaceStep.text), rfl, ?_⟩
  simp only [pathText, within, pathTo, Text.join_blank, List.map_append, String.append_assoc]
  rw [String.join_append]

end Problem

/-! ## Paths -/

namespace PlaceStep

/-- The label of a step. -/
def label : PlaceStep → String
  | field label => label
  | item label _ => label

/-- The label of the step has none of the signs that steps are written with. -/
def IsPlain (step : PlaceStep) : Prop :=
  '.' ∉ step.label.toList ∧ '[' ∉ step.label.toList

instance (step : PlaceStep) : Decidable step.IsPlain :=
  inferInstanceAs (Decidable (_ ∧ _))

/-- A step as it stands in a path, but for the point. -/
def body : PlaceStep → List Char
  | field label => label.toList
  | item label index => label.toList ++ '[' :: ((toString index).toList ++ [']'])

theorem toList_text (step : PlaceStep) : step.text.toList = '.' :: step.body := by
  cases step with
  | field label => simp [text, body]
  | item label index => simp [text, body]

theorem notMem_body (step : PlaceStep) (h : step.IsPlain) : '.' ∉ step.body := by
  cases step with
  | field label => exact h.1
  | item label index =>
      have hindex : '.' ∉ (toString index).toList := Text.notMem_toString (by decide) index
      simp only [body, List.mem_append, List.mem_cons, not_or]
      exact ⟨h.1, by decide, hindex, by decide, nofun⟩

/-- Different steps are written differently. -/
theorem eq_of_body {step other : PlaceStep} (h : step.IsPlain) (h' : other.IsPlain)
    (heq : step.body = other.body) : step = other := by
  cases step with
  | field label =>
      cases other with
      | field label' => rw [String.toList_inj.mp heq]
      | item label' index' =>
          have hmem : '[' ∈ label.toList := by
            rw [show label.toList = _ from heq]
            exact List.mem_append_right _ List.mem_cons_self
          exact absurd hmem h.2
  | item label index =>
      cases other with
      | field label' =>
          have hmem : '[' ∈ label'.toList := by
            rw [← show _ = label'.toList from heq]
            exact List.mem_append_right _ List.mem_cons_self
          exact absurd hmem h'.2
      | item label' index' =>
          obtain ⟨hlabel, hrest⟩ := Text.eq_of_append_mark h.2 h'.2 (.inr rfl) (.inr rfl) heq
          have hindex := List.append_cancel_right (List.cons.inj hrest).2
          obtain rfl : label = label' := String.toList_inj.mp hlabel
          obtain rfl := Text.toString_injective hindex
          rfl

theorem eq_of_map_body {steps others : List PlaceStep} (h : ∀ step ∈ steps, step.IsPlain)
    (h' : ∀ step ∈ others, step.IsPlain) (heq : steps.map body = others.map body) :
    steps = others := by
  induction steps generalizing others with
  | nil => exact (List.map_eq_nil_iff.mp heq.symm).symm
  | cons step steps ih =>
      cases others with
      | nil => cases heq
      | cons other others =>
          obtain ⟨hstep, hsteps⟩ := List.forall_mem_cons.mp h
          obtain ⟨hother, hothers⟩ := List.forall_mem_cons.mp h'
          obtain ⟨hbody, hrest⟩ := List.cons.inj heq
          rw [eq_of_body hstep hother hbody, ih hsteps hothers hrest]

end PlaceStep

/-- The labels of the steps to a position are plain. -/
theorem isPlain_of_mem_placeOf {position : List NodeSlot} :
    ∀ step ∈ placeOf position, step.IsPlain := by
  intro step hstep
  obtain ⟨slot, -, hslot⟩ := List.mem_flatMap.mp hstep
  cases slot with
  | single field =>
      obtain rfl := List.mem_singleton.mp hslot
      cases field <;> decide
  | item field index =>
      obtain rfl := List.mem_singleton.mp hslot
      have hfield : '.' ∉ field.name.toList ∧ '[' ∉ field.name.toList := by cases field <;> decide
      exact hfield
  | case field index =>
      have hfield : '.' ∉ field.name.toList ∧ '[' ∉ field.name.toList := by cases field <;> decide
      obtain rfl | hslot := List.mem_cons.mp hslot
      · exact hfield
      · obtain rfl := List.mem_singleton.mp hslot
        decide

/-- The first slot can be told from the steps to a position. -/
theorem eq_of_place_append {slot other : NodeSlot} {rest more : List PlaceStep}
    (h : slot.place ++ rest = other.place ++ more) : slot = other ∧ rest = more := by
  -- The first step tells the field, and the index if it has one; only cases go one step on, and
  -- no other field is called like theirs.
  cases slot with
  | single field =>
      cases other with
      | single field' =>
          cases field <;> cases field' <;> simp_all [NodeSlot.place, SingleField.label]
      | item field' index' => cases h
      | case field' index' => cases h
  | item field index =>
      cases other with
      | single field' => cases h
      | item field' index' =>
          cases field <;> cases field' <;> simp_all [NodeSlot.place, ListField.name]
      | case field' index' =>
          cases field <;> cases field' <;>
            simp [NodeSlot.place, ListField.name, CaseField.name] at h
  | case field index =>
      cases other with
      | single field' => cases h
      | item field' index' =>
          cases field <;> cases field' <;>
            simp [NodeSlot.place, ListField.name, CaseField.name] at h
      | case field' index' =>
          cases field <;> cases field' <;> simp_all [NodeSlot.place, CaseField.name]

theorem placeOf_injective {position other : List NodeSlot} (h : placeOf position = placeOf other) :
    position = other := by
  induction position generalizing other with
  | nil =>
      cases other with
      | nil => rfl
      | cons slot rest => cases slot with | _ => cases h
  | cons slot rest ih =>
      cases other with
      | nil => cases slot with | _ => cases h
      | cons slot' rest' =>
          obtain ⟨rfl, hrest⟩ := eq_of_place_append h
          rw [ih hrest]

theorem toList_pathTo (position : List NodeSlot) :
    (pathTo position).toList =
      "root".toList ++ ((placeOf position).map PlaceStep.body).flatMap ('.' :: ·) := by
  rw [pathTo, Text.join_blank, String.toList_append, String.toList_join, List.flatMap_map,
    List.flatMap_map]
  simp only [PlaceStep.toList_text]

/-- **Different positions have different paths.** -/
theorem pathTo_injective {position other : List NodeSlot} (h : pathTo position = pathTo other) :
    position = other := by
  -- The points cut the path into steps again, and the steps into slots.
  have hlist := congrArg String.toList h
  rw [toList_pathTo, toList_pathTo] at hlist
  have hbodies := Text.eq_of_flatMap_mark
    (List.forall_mem_map.mpr fun step hstep => step.notMem_body (isPlain_of_mem_placeOf step hstep))
    (List.forall_mem_map.mpr fun step hstep => step.notMem_body (isPlain_of_mem_placeOf step hstep))
    (List.append_cancel_left hlist)
  exact placeOf_injective
    (PlaceStep.eq_of_map_body isPlain_of_mem_placeOf isPlain_of_mem_placeOf hbodies)

end PromptTree
