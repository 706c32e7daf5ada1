import PromptTree.Proofs.Content.TypedConditions

/-!
# Documents of the right types

Two descriptions of content trees are kept apart: what the check of a document asks, and what
its reader asks.  **A document in which the check finds nothing can be read exactly if the
values in its fields are of the right types** (`read_iff_wellTyped`).  So the check settles
all that the reader asks about the structure of a document, and nothing that it asks about
texts, flags and formats.

The proof goes level by level.  One level of the check (`Flawless`) has to go into all the
nodes that one level of the reader goes into (`Flawless.clean_nodesBelow`), and has to leave
over only the types of fields (`Flawless.isOk_readFields`); the rest is by induction on the
depth.

## Main Definitions

* `nodesBelow` — the nodes right below a node, in the fields that its kind has.
* `Value.WellTyped` — the values in a document are of the right types.
* `IsCase` — a value is a case of a choice, with a clean content.
-/

namespace PromptTree

open Schema Findings

/-! ## Parts of a node -/

/-- The cases of a node of a kind that has some. -/
def casesOf (entries : Entries) : ContentTag → List Entries
  | .countSwitch | .switch => Value.objects (listField entries "cases").1
  | .weightedPick => Value.objects (listField entries "options").1
  | _ => []

/-- The nodes right below a node of a kind that stand in its own fields. -/
def nodesIn (entries : Entries) : ContentTag → List Value
  | .composite => (listField entries "parts").1
  | .conditional => Entries.given entries "then_content" ++ Entries.given entries "else_content"
  | .list | .shuffle => Entries.given entries "item_template"
  | .context => Entries.given entries "fallback"
  | .article => Entries.given entries "word_content"
  | .countSwitch | .switch => Entries.given entries "default_content"
  | .pickOne | .pickMany => (listField entries "candidates").1
  | _ => []

/-- The nodes right below a node of a kind. -/
def nodesBelow (entries : Entries) (tag : ContentTag) : List Value :=
  (casesOf entries tag).flatMap (Entries.given · "content") ++ nodesIn entries tag

/-- The values in a document are of the right types. -/
inductive Value.WellTyped : Value → Prop where
  | object {entries : Entries} {tag : ContentTag}
      (kind : ContentTag.ofValue? (Entries.getD entries "type") = some tag)
      (fields : entries.Fit tag.fieldTypes)
      (cases : ∀ fields ∈ casesOf entries tag, fields.Fit tag.caseTypes)
      (condition : tag = .conditional →
        (Entries.getD entries "condition").WellTypedCondition)
      (below : ∀ part ∈ nodesBelow entries tag, part.WellTyped) :
      (Value.object entries).WellTyped

/-! ## Cases -/

/-- A value is a case whose content is clean, and that is read if its label is of the right
type and its content is read. -/
def IsCase {α : Type} (check : Value → Findings) (types : List (String × FieldType))
    (readCase : Reader Content → Reader α) (v : Value) : Prop :=
  ∃ fields : Entries, v = .object fields ∧
    (∀ u ∈ fields.given "content", (check u).Clean) ∧
    ∀ node : Reader Content, (readCase node v).isOk = true ↔
      fields.Fit types ∧ ∀ u ∈ fields.given "content", (node u).isOk = true

section Cases

variable {check : Value → Findings} {v : Value}

/-- A label and a content make a case. -/
theorem isCase_of_label {α : Type} {readLabel : Reader α} {fields : Entries} {label name : String}
    {types : List (String × FieldType)} (hcontent : (checkCaseContent check fields).Clean)
    (hlabel : (required fields label readLabel).isOk = true ↔ fields.Fit types) :
    IsCase check types (fun node => record name fun fields =>
      Prod.mk <$> required fields label readLabel <*> required fields "content" node)
      (.object fields) := by
  obtain ⟨hgiven, hclean⟩ := clean_checkCaseContent hcontent
  refine ⟨fields, rfl, hclean, fun node => ?_⟩
  rw [all_given fun u => (node u).isOk]
  simp only [record_object, Checked.isOk_seq, Checked.isOk_fmap, Bool.and_eq_true, hlabel,
    isOk_required_eq_optional hgiven, isOk_optional]

theorem isCase_of_clean_countCase (h : (checkCountCase check v).Clean) :
    IsCase check ContentTag.countSwitch.caseTypes Content.readCountCase v := by
  cases v with
  | object fields =>
      simp only [checkCountCase, clean_gather_cons] at h
      obtain ⟨hcount, hcontent, -⟩ := h
      refine isCase_of_label hcontent ?_
      have hread := isOk_of_clean_checkCaseCount hcount
      have hgiven : (Entries.getD fields "count").isNull = false := by
        cases hv : Entries.getD fields "count" with
        | null =>
            rw [hv] at hread
            cases hread
        | _ => rfl
      simp [isOk_required_getD hgiven, hread, ContentTag.caseTypes]
  | _ => exact absurd h (not_clean_found _)

theorem isCase_of_clean_valueCase (h : (checkValueCase check v).Clean) :
    IsCase check ContentTag.switch.caseTypes Content.readValueCase v := by
  cases v with
  | object fields =>
      simp only [checkValueCase, clean_gather_cons] at h
      obtain ⟨hvalue, hcontent, -⟩ := h
      refine isCase_of_label hcontent ?_
      have hgiven : (Entries.getD fields "value").isNull = false := by
        split at hvalue
        · exact absurd hvalue (not_clean_found _)
        · rename_i hgiven
          exact Bool.eq_false_iff.mpr hgiven
      have hscalar : ∀ u, (CaseValue.read u).isOk = FieldType.scalar.admits u := by
        intro u
        cases u with
        | _ => rfl
      simp [isOk_required_eq_all hgiven, hscalar, ContentTag.caseTypes]
  | _ => exact absurd h (not_clean_found _)

theorem isCase_of_clean_option (h : (checkOption check v).Clean) :
    IsCase check ContentTag.weightedPick.caseTypes Content.readOption v := by
  cases v with
  | object fields =>
      simp only [checkOption, clean_gather_cons, clean_below] at h
      obtain ⟨hweight, hcontent, -⟩ := h
      refine isCase_of_label hcontent ?_
      simp [isOk_required_eq_all (isNull_of_clean_checkWeight hweight), ContentTag.caseTypes,
        FieldType.admits]
  | _ => exact absurd h (not_clean_found _)

/-- Cases are read if their labels are of the right types and their contents are read. -/
theorem isOk_cases {α : Type} {types : List (String × FieldType)}
    {readCase : Reader Content → Reader α} {items : List Value}
    (h : ∀ v ∈ items, IsCase check types readCase v) :
    (∀ u ∈ (Value.objects items).flatMap (Entries.given · "content"), (check u).Clean) ∧
      ∀ node : Reader Content, (∀ v ∈ items, (readCase node v).isOk = true) ↔
        (∀ fields ∈ Value.objects items, fields.Fit types) ∧
          ∀ u ∈ (Value.objects items).flatMap (Entries.given · "content"),
            (node u).isOk = true := by
  induction items with
  | nil => simp [Value.objects]
  | cons first rest ih =>
      obtain ⟨⟨fields, rfl, hclean, hread⟩, hrest⟩ := List.forall_mem_cons.mp h
      obtain ⟨hclean', hread'⟩ := ih hrest
      have hobjects : Value.objects (.object fields :: rest) = fields :: Value.objects rest := rfl
      rw [hobjects, List.flatMap_cons]
      refine ⟨List.forall_mem_append.mpr ⟨hclean, hclean'⟩, fun node => ?_⟩
      rw [List.forall_mem_cons, List.forall_mem_cons, List.forall_mem_append, hread, hread']
      exact and_and_and_comm

end Cases

/-! ## Nodes -/

section Nodes

attribute [local simp] Content.readFields ContentTag.fieldTypes ContentTag.caseTypes
  FieldType.admits casesOf nodesIn

variable {check : Value → Findings} {entries : Entries}

/-- The cases of a node without flaws, in a field of it that has to be there. -/
theorem all_cases {α : Type} {name : String} {types : List (String × FieldType)}
    {readCase : Reader Content → Reader α} {checkCase : Value → Findings}
    (hgiven : (Entries.getD entries name).isNull = false)
    (h : (checkListField entries name checkCase).Clean)
    (hcase : ∀ v, (checkCase v).Clean → IsCase check types readCase v) :
    (∀ u ∈ (Value.objects (listField entries name).1).flatMap (Entries.given · "content"),
        (check u).Clean) ∧
      ∀ node : Reader Content,
        ((entries.lookup name).all fun v => v.items?.any fun items => items.all fun item =>
          (readCase node item).isOk) = true ↔
          (∀ fields ∈ Value.objects (listField entries name).1, fields.Fit types) ∧
            ∀ u ∈ (Value.objects (listField entries name).1).flatMap (Entries.given · "content"),
              (node u).isOk = true := by
  obtain ⟨hlist, hitems⟩ := clean_checkListField.mp h
  have hcases := isOk_cases fun v hv => hcase v (hitems v hv)
  refine ⟨hcases.1, fun node => ?_⟩
  rw [all_items hgiven hlist, hcases.2]

/-- The check goes into all nodes right below a node. -/
theorem Flawless.clean_nodesBelow {tag : ContentTag} (h : Flawless check entries tag) :
    ∀ u ∈ nodesBelow entries tag, (check u).Clean := by
  have hrequired := h.required
  have hchild := h.children
  rw [nodesBelow, List.forall_mem_append]
  cases tag with
  | composite => exact ⟨nofun, (clean_checkListField.mp h.parts).2⟩
  | conditional =>
      refine ⟨nofun, List.forall_mem_append.mpr ⟨?_, ?_⟩⟩
      · exact hchild ("then_content", "then") (by decide)
      · exact hchild ("else_content", "else") (by decide)
  | list | shuffle => exact ⟨nofun, hchild ("item_template", "item_template") (by decide)⟩
  | context => exact ⟨nofun, hchild ("fallback", "fallback") (by decide)⟩
  | article => exact ⟨nofun, hchild ("word_content", "word_content") (by decide)⟩
  | countSwitch =>
      have hcases := all_cases (hrequired "cases" (by decide)) h.kind
        fun _ => isCase_of_clean_countCase
      exact ⟨hcases.1, hchild ("default_content", "default") (by decide)⟩
  | switch =>
      have hcases := all_cases (hrequired "cases" (by decide)) h.kind
        fun _ => isCase_of_clean_valueCase
      exact ⟨hcases.1, hchild ("default_content", "default") (by decide)⟩
  | weightedPick =>
      have hcases := all_cases (hrequired "options" (by decide)) h.kind
        fun _ => isCase_of_clean_option
      exact ⟨hcases.1, nofun⟩
  | pickOne | pickMany =>
      have hcandidates := (clean_gather_cons.mp h.kind).1
      exact ⟨nofun, (clean_checkListField.mp hcandidates).2⟩
  | text | «variable» | sectionRef | plural | randomValue => exact ⟨nofun, nofun⟩

/-- A kind is named by its name only. -/
theorem eq_name_of_ofValue? {v : Value} {tag : ContentTag} (h : ContentTag.ofValue? v = some tag) :
    v = .str tag.name := by
  have hnames : ∀ entry ∈ ContentTag.names, entry.1 = entry.2.name := by decide
  cases v with
  | str s =>
      obtain ⟨before, after, hsplit, -⟩ := List.lookup_eq_some_iff.mp h
      have hmem : (s, tag) ∈ ContentTag.names := by
        rw [hsplit]
        exact List.mem_append_right _ List.mem_cons_self
      rw [← hnames (s, tag) hmem]
  | _ => cases h

/-- The style of an article without flaws is one that is known, if it is a text. -/
theorem all_style (h : (checkArticle entries).Clean) :
    ((entries.lookup "style").all fun v => (v.str?.bind fun s =>
      List.lookup s ArticleStyle.names).isSome) =
        (entries.lookup "style").all fun v => v.str?.isSome := by
  cases hlookup : entries.lookup "style" with
  | none => rfl
  | some v =>
      cases v with
      | str name =>
          have hstyle : Entries.getD entries "style" = .str name := by
            rw [Entries.getD, hlookup]
            rfl
          exact isSome_of_clean_checkArticle h hstyle
      | _ => rfl

/-- One level: a node without flaws is read if its fields and those of its cases are of the
right types, its condition is read, and the nodes right below it are read. -/
theorem Flawless.isOk_readFields {tag : ContentTag} (h : Flawless check entries tag)
    (hkind : ContentTag.ofValue? (Entries.getD entries "type") = some tag)
    (node : Reader Content) :
    (Content.readFields node entries tag).isOk = true ↔
      entries.Fit tag.fieldTypes ∧ (∀ fields ∈ casesOf entries tag, fields.Fit tag.caseTypes) ∧
        (tag = .conditional → (Condition.read (Entries.getD entries "condition")).isOk = true) ∧
        ∀ u ∈ nodesBelow entries tag, (node u).isOk = true := by
  have hrequired := h.required
  have hgiven (name : String) := @all_given entries name fun u => (node u).isOk
  rw [nodesBelow, List.forall_mem_append]
  cases tag with
  | text =>
      have hvalue := hrequired "value" (by decide)
      simp [isOk_required_eq_optional hvalue]
  | «variable» =>
      have hid := hrequired "variable_id" (by decide)
      simp [isOk_required_eq_optional hid, and_assoc]
  | sectionRef =>
      have hid := hrequired "section_id" (by decide)
      simp [isOk_required_eq_optional hid]
  | composite =>
      have hparts := hrequired "parts" (by decide)
      simp [all_items hparts (clean_checkListField.mp h.parts).1]
  | conditional =>
      have hcondition := hrequired "condition" (by decide)
      have hyes := hrequired "then_content" (by decide)
      rw [nodesIn, List.forall_mem_append, hgiven, hgiven]
      simp [isOk_required_getD hcondition, isOk_required_eq_optional hyes, and_assoc]
  | list =>
      have hid := hrequired "variable_id" (by decide)
      have hset := hrequired "separator_set_id" (by decide)
      simp [isOk_required_eq_optional hid, isOk_required_eq_optional hset, hgiven, and_assoc]
  | context =>
      have hkey := hrequired "context_key" (by decide)
      simp [isOk_required_eq_optional hkey, hgiven]
  | plural =>
      -- The reader takes the kind of a plural for one of its fields.
      have hcount := hrequired "count_variable" (by decide)
      have hone := hrequired "one" (by decide)
      have hother := hrequired "other" (by decide)
      have hname := eq_name_of_ofValue? hkind
      have htype := @lookup_of_given entries "type" (by rw [hname]; rfl)
      simp [PluralForms.readEntries, htype, hname, Value.str?, ContentTag.name,
        isOk_required_eq_optional hcount, isOk_required_eq_optional hone,
        isOk_required_eq_optional hother, and_assoc]
  | article =>
      simp [all_style h.kind, hgiven, and_assoc, and_comm, and_left_comm]
  | countSwitch =>
      have hcount := hrequired "count_variable" (by decide)
      have hcases := (all_cases (hrequired "cases" (by decide)) h.kind
        fun _ => isCase_of_clean_countCase).2 node
      simp [isOk_required_eq_optional hcount, hcases, hgiven, and_assoc]
  | switch =>
      have hid := hrequired "variable_id" (by decide)
      have hcases := (all_cases (hrequired "cases" (by decide)) h.kind
        fun _ => isCase_of_clean_valueCase).2 node
      simp [isOk_required_eq_optional hid, hcases, hgiven, and_assoc]
  | pickOne =>
      have hcandidates := hrequired "candidates" (by decide)
      have hlist := (clean_checkListField.mp (clean_gather_cons.mp h.kind).1).1
      simp [all_items hcandidates hlist, and_comm]
  | pickMany =>
      have hcandidates := hrequired "candidates" (by decide)
      have hcount := hrequired "count" (by decide)
      obtain ⟨hitems, hpick⟩ := clean_gather_cons.mp h.kind
      have hlist := (clean_checkListField.mp hitems).1
      have hread := isOk_of_clean_checkPickCount (clean_gather_cons.mp hpick).1 hcount
      simp [all_items hcandidates hlist, isOk_required_getD hcount, hread, and_assoc, and_comm,
        and_left_comm]
  | randomValue =>
      simp [and_assoc]
  | weightedPick =>
      have hcases := (all_cases (hrequired "options" (by decide)) h.kind
        fun _ => isCase_of_clean_option).2 node
      simp [hcases]
  | shuffle =>
      -- The number to keep may be missing, so what is checked is its value or `null`.
      have hid := hrequired "variable_id" (by decide)
      have hcount := isOk_of_clean_checkShuffleCount h.kind
      rw [← all_getD fun v => (integer v).isOk] at hcount
      simp [isOk_required_eq_optional hid, hcount, hgiven, and_assoc]

/-- The check goes into the condition of a node. -/
theorem Flawless.clean_condition (h : Flawless check entries .conditional) :
    (checkCondition (Entries.getD entries "condition")).Clean := by
  have hgiven := h.required "condition" (by decide)
  have hkind := h.kind
  rw [checkKind] at hkind
  cases hv : Entries.getD entries "condition" with
  | null => simp [hv, Value.isNull] at hgiven
  | _ => simpa [hv] using hkind

/-- A node of a known kind is read field by field. -/
theorem isOk_readWith {tag : ContentTag}
    (hkind : ContentTag.ofValue? (Entries.getD entries "type") = some tag)
    (node : Reader Content) :
    (Content.readWith node (.object entries)).isOk =
      (Content.readFields node entries tag).isOk := by
  simp only [Content.readWith, Value.entries?, hkind, Checked.isOk_below]

/-- **One more level** of a document: it is read if it is well typed, if that is so of the
nodes right below. -/
theorem Flawless.isOk_readWith_iff {tag : ContentTag} (h : Flawless check entries tag)
    (hkind : ContentTag.ofValue? (Entries.getD entries "type") = some tag) {node : Reader Content}
    (hnode : ∀ u, (check u).Clean → ((node u).isOk = true ↔ u.WellTyped)) :
    (Content.readWith node (.object entries)).isOk = true ↔ (Value.object entries).WellTyped := by
  have hbelow : (∀ u ∈ nodesBelow entries tag, (node u).isOk = true) ↔
      ∀ u ∈ nodesBelow entries tag, u.WellTyped :=
    forall₂_congr fun u hu => hnode u (h.clean_nodesBelow u hu)
  have hcondition : tag = .conditional →
      ((Condition.read (Entries.getD entries "condition")).isOk = true ↔
        (Entries.getD entries "condition").WellTypedCondition) := by
    rintro rfl
    exact isOk_read_condition h.clean_condition
  rw [isOk_readWith hkind, h.isOk_readFields hkind, hbelow]
  constructor
  · rintro ⟨hfields, hcases, hread, hparts⟩
    exact .object hkind hfields hcases (fun htag => (hcondition htag).mp (hread htag)) hparts
  · rintro ⟨hkind', hfields, hcases, htyped, hparts⟩
    -- A document has one kind only.
    obtain rfl := Option.some_inj.mp (hkind.symm.trans hkind')
    exact ⟨hfields, hcases, fun htag => (hcondition htag).mpr (htyped htag), hparts⟩

end Nodes

/-- A document without flaws is read exactly if it is well typed, by induction on the depth
to which it is checked and read. -/
theorem isOk_readWithin_iff {depth : Nat} {v : Value} (h : (checkWithin depth v).Clean) :
    (Content.readWithin depth v).isOk = true ↔ v.WellTyped := by
  induction depth generalizing v with
  | zero => cases h
  | succ depth ih =>
      obtain ⟨entries, tag, rfl, hkind, hflawless⟩ := flawless_of_clean h
      exact hflawless.isOk_readWith_iff hkind fun u hu => ih hu

/-- A text with a value. -/
def textDocument (value : Value) : Value :=
  .object [("type", .str "text"), ("value", value)]

/-- A salutation that depends on a condition. -/
def salutationDocument : Value :=
  .object
    [("type", .str "conditional"),
     ("condition", .object [("variable", .str "formal"), ("operator", .str "exists")]),
     ("then_content", textDocument (.str "Dear "))]

end PromptTree
