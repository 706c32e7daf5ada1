import PromptTree.Proofs.Content.Legible
import PromptTree.Proofs.Content.Parts
import PromptTree.Proofs.Content.Rewriting
import PromptTree.Render.Walk

/-!
# Trees that are written and read again

What can be read can be written and read again (`roundTrip`): **the document of a tree that
was read is read as the same tree**, except that it has no `null` among the fields of nodes
of no known kind, and lists in place of tuples, which no document has.  So nothing else is
lost by storing trees as documents, and storing them again changes nothing.

Two kinds of values need care.  Typed fields are read as what they were written from; that
a field without a value is left out, and that a text for a count is no number, is settled
field by field (`readWith_dump`).  Values of any shape are written as JSON can carry them,
so the tree that comes back has those that its document carries, `Content.reshaped portable`.

A node is taken together with what is known of the nodes right below it.  Both the reader
and the documents then go down by one level, and the induction is on the depth.

## Main Definitions

* `Content.freeValues` — the values of any shape in a node.
* `Content.reshaped` — a tree without fields that are `null`, with other values of any shape.
* `Content.withoutNullFields` — a tree without fields that are `null`, and no other change.
* `Content.stored` — a tree as it is after it was written and read.
-/

namespace PromptTree.Content

open Schema

/-! ## What a document carries -/

/-- The values in a node that may be of any shape: those that its condition compares with,
and the fields of a node of no known kind. -/
def freeValues : Content → List Value
  | .conditional condition _ _ => condition.values
  | .unknown _ fields => fields.map Prod.snd
  | _ => []

/-- The fields that are not `null`. -/
def withoutNulls (fields : List (String × Value)) : List (String × Value) :=
  fields.filter fun field => !field.2.isNull

/-- The fields that are not `null`, with other values. -/
def reshapedFields (shape : Value → Value) (fields : List (String × Value)) : Entries :=
  (withoutNulls fields).map fun field => (field.1, shape field.2)

/-- A node without fields that are `null`, with other values of any shape. -/
def reshapedNode (shape : Value → Value) : Content → Content
  | .conditional condition yes no => .conditional (condition.mapValues shape) yes no
  | .unknown tag fields => .unknown tag (reshapedFields shape fields)
  | node => node

/-- A tree without fields that are `null`, with other values of any shape. -/
def reshaped (shape : Value → Value) : Content → Content :=
  map (reshapedNode shape)

/-- A node without the fields that are `null`, if it is of no known kind. -/
def withoutNullsNode : Content → Content
  | .unknown tag fields => .unknown tag (withoutNulls fields)
  | node => node

/-- A tree whose nodes of no known kind have no fields that are `null`. -/
def withoutNullFields : Content → Content :=
  map withoutNullsNode

/-- A tree as it is after it was written and read: without fields that are `null`, and with
lists in place of tuples. -/
def stored : Content → Content :=
  reshaped Value.withLists

theorem children_reshapedNode (shape : Value → Value) (content : Content) :
    (content.reshapedNode shape).children = content.children := by
  cases content with
  | _ => rfl

theorem reshaped_eq (shape : Value → Value) (content : Content) :
    content.reshaped shape = (content.reshapedNode shape).mapChildren (reshaped shape) :=
  map_eq (children_reshapedNode shape content)

/-- Functions that change the values of a tree alike reshape it alike. -/
theorem reshaped_congr {f g : Value → Value} {content : Content}
    (h : content.Everywhere fun node => ∀ v ∈ node.freeValues, f v = g v) :
    content.reshaped f = content.reshaped g := by
  refine map_congr (h.imp fun node hnode => ?_)
  match node with
  | .conditional condition yes no =>
      simp only [reshapedNode, condition.mapValues_congr hnode]
  | .unknown tag fields =>
      have hfields : reshapedFields f fields = reshapedFields g fields := by
        refine List.map_congr_left fun field hfield => ?_
        rw [hnode field.2 (List.mem_map_of_mem (List.mem_of_mem_filter hfield))]
      simp only [reshapedNode, hfields]
  | .text _ | .variable _ _ _ | .sectionRef _ | .composite _ | .list _ _ _ | .context _ _
  | .plural _ _ | .article _ _ _ _ | .countSwitch _ _ _ | .switch _ _ _ | .pickOne _ _
  | .pickMany _ _ _ _ | .randomValue _ _ _ _ | .weightedPick _ | .shuffle _ _ _ _ => rfl

theorem reshaped_id (content : Content) : content.reshaped id = content.withoutNullFields := by
  have hnode : reshapedNode id = withoutNullsNode := by
    funext node
    cases node with
    | conditional condition yes no =>
        rw [reshapedNode, condition.mapValues_id]
        rfl
    | unknown tag fields => exact congrArg (Content.unknown tag) (List.map_id' _)
    | _ => rfl
  rw [reshaped, hnode, withoutNullFields]

/-! ## The documents of nodes below -/

theorem dumps_eq_map (contents : List Content) : dumps contents = contents.map dump := by
  induction contents with
  | nil => rfl
  | cons first rest ih => rw [dumps, ih, List.map_cons]

theorem dump?_eq_map (content : Option Content) : dump? content = content.map dump := by
  cases content with
  | none => rfl
  | some content => rw [dump?, Option.map_some]

theorem dumpCounts_eq_map (cases : List (CaseCount × Content)) :
    dumpCounts cases =
      cases.map fun p => .object [("count", p.1.dump), ("content", p.2.dump)] := by
  induction cases with
  | nil => rfl
  | cons first rest ih => rw [dumpCounts, ih, List.map_cons]

theorem dumpValues_eq_map (cases : List (CaseValue × Content)) :
    dumpValues cases =
      cases.map fun p => .object [("value", p.1.toValue), ("content", p.2.dump)] := by
  induction cases with
  | nil => rfl
  | cons first rest ih => rw [dumpValues, ih, List.map_cons]

theorem dumpOptions_eq_map (options : List (Float × Content)) :
    dumpOptions options =
      options.map fun p => .object [("weight", .float p.1), ("content", p.2.dump)] := by
  induction options with
  | nil => rfl
  | cons first rest ih => rw [dumpOptions, ih, List.map_cons]

theorem isNull_dump (content : Content) : content.dump.isNull = false := by
  cases content with
  | _ => rfl

/-! ## Reading -/

section Reading

variable {node : Reader Content} {f : Content → Content}

/-- The entries that a node of a kind is written as. -/
def nodeEntries (tag : ContentTag) (fields : List (String × Option Value)) : Entries :=
  present (("type", some (.str tag.name)) :: fields)

/-- The kind of a node is that which it is written with. -/
theorem ofValue?_nodeEntries (tag : ContentTag) (fields : List (String × Option Value)) :
    ContentTag.ofValue? (Entries.getD (nodeEntries tag fields) "type") = some tag := by
  simp only [Entries.getD, nodeEntries, lookup_present_cons]
  cases tag with
  | _ => rfl

theorem readWith_node {tag : ContentTag} {fields : List (String × Option Value)} {content : Content}
    (h : readFields node (nodeEntries tag fields) tag = .ok content) :
    readWith node (Content.node tag fields) = .ok content := by
  have hentries : (Content.node tag fields).entries? = some (nodeEntries tag fields) := rfl
  simp only [readWith, hentries, ofValue?_nodeEntries]
  exact Checked.below_eq_ok.mpr h

variable {entries : Entries}

theorem optional_part (name : String) {part : Option Content} (h : entries.lookup name = dump? part)
    (hpart : ∀ child ∈ part.toList, node child.dump = .ok (f child)) :
    Schema.optional entries name node = .ok (part.map f) := by
  rw [dump?_eq_map] at h
  exact optional_of_lookup name dump f h isNull_dump fun child hchild =>
    hpart child (Option.mem_toList.mpr hchild)

theorem list_parts (name : String) {parts : List Content}
    (h : entries.lookup name = some (.list (dumps parts)))
    (hparts : ∀ child ∈ parts, node child.dump = .ok (f child)) :
    withDefault entries name [] (Schema.list node) = .ok (parts.map f) := by
  rw [dumps_eq_map] at h
  exact withDefault_of_lookup name h (list_map dump f hparts)

/-- Nodes with labels: cases and options. -/
theorem list_labelled {α : Type} (name : String) {cases : List (α × Content)} (write : α → Value)
    {label : Reader α} {recordName first second : String} (hne : second ≠ first)
    (h : entries.lookup name =
      some (.list (cases.map fun p => .object [(first, write p.1), (second, p.2.dump)])))
    (hlabel : ∀ a, label (write a) = .ok a)
    (hparts : ∀ child ∈ cases.map Prod.snd, node child.dump = .ok (f child)) :
    withDefault entries name [] (Schema.list (record recordName fun entries =>
      Prod.mk <$> required entries first label <*> required entries second node)) =
      .ok (cases.map fun p => (p.1, f p.2)) := by
  refine withDefault_of_lookup name h (list_map _ _ fun p hp => ?_)
  have hfirst : required [(first, write p.1), (second, p.2.dump)] first label = .ok p.1 :=
    required_of_lookup first (by simp) (hlabel p.1)
  have hsecond : required [(first, write p.1), (second, p.2.dump)] second node = .ok (f p.2) :=
    required_of_lookup second (by simp [List.lookup_cons, beq_false_of_ne hne])
      (hparts p.2 (List.mem_map_of_mem hp))
  simp only [record, Value.entries?, hfirst, hsecond]
  rfl

theorem present_free (fields : List (String × Value)) :
    present (fields.map fun (name, v) => (name, if v.isNull then none else some (portable v))) =
      reshapedFields portable fields := by
  induction fields with
  | nil => rfl
  | cons field rest ih =>
      obtain ⟨name, v⟩ := field
      cases hnull : v.isNull with
      | true => simpa [present, reshapedFields, withoutNulls, hnull] using ih
      | false => simpa [present, reshapedFields, withoutNulls, hnull] using ih

/-- The entries of a node of no known kind: the tag, if there is one, and the other fields. -/
def taggedFields (tag : Option String) (fields : Entries) : Entries :=
  (tag.map fun name => ("type", .str name)).toList ++ fields

theorem lookup_taggedFields (tag : Option String) {fields : Entries}
    (h : ∀ field ∈ fields, field.1 ≠ "type") :
    (taggedFields tag fields).lookup "type" = tag.map .str := by
  cases tag with
  | none =>
      exact List.lookup_eq_none_iff.mpr fun field hfield => by simpa using (h field hfield).symm
  | some name => rfl

theorem filter_taggedFields (tag : Option String) {fields : Entries}
    (h : ∀ field ∈ fields, field.1 ≠ "type") :
    (taggedFields tag fields).filter (fun entry => entry.1 ≠ "type") = fields := by
  have hfields : fields.filter (fun entry => entry.1 ≠ "type") = fields :=
    List.filter_eq_self.mpr fun field hfield => by simpa using h field hfield
  cases tag with
  | _ => exact hfields

theorem dump_unknown (tag : Option String) (fields : List (String × Value)) :
    (unknown tag fields).dump = .object (taggedFields tag (reshapedFields portable fields)) := by
  rw [dump, recordOf, ← present_free]
  cases tag with
  | _ => rfl

section Unknown

variable {tag : Option String} {fields : List (String × Value)}
  (hlegible : (unknown tag fields).Legible)
include hlegible

/-- The tag is not among the other fields. -/
theorem ne_type_of_mem_reshapedFields :
    ∀ field ∈ reshapedFields portable fields, field.1 ≠ "type" := by
  intro field hfield
  obtain ⟨original, horiginal, rfl⟩ := List.mem_map.mp hfield
  exact hlegible.2 original (List.mem_of_mem_filter horiginal)

/-- What a node of no known kind is written with is no known kind. -/
theorem ofValue?_taggedFields :
    ContentTag.ofValue?
      (Entries.getD (taggedFields tag (reshapedFields portable fields)) "type") = none := by
  rw [Entries.getD, lookup_taggedFields tag (ne_type_of_mem_reshapedFields hlegible)]
  cases tag with
  | none => rfl
  | some name => exact hlegible.1 name rfl

/-- A node of no known kind is read as it was written, but for what its document does not
carry of its fields. -/
theorem readWith_unknown :
    readWith node (unknown tag fields).dump =
      .ok (.unknown tag (reshapedFields portable fields)) := by
  have hothers := ne_type_of_mem_reshapedFields hlegible
  rw [dump_unknown]
  simp only [readWith, Value.entries?, ofValue?_taggedFields hlegible]
  refine Checked.below_eq_ok.mpr ?_
  simp only [readUnknown, record, Value.entries?]
  rw [optional_string "type" tag (lookup_taggedFields tag hothers), filter_taggedFields tag hothers]
  rfl

end Unknown

/-- **A node is read as it was written**, if the nodes right below it are. -/
theorem readWith_dump {content : Content} (hlegible : content.Legible)
    (h : ∀ child ∈ content.children, node child.dump = .ok (f child)) :
    readWith node content.dump = .ok ((content.reshapedNode portable).mapChildren f) := by
  match content with
  | .text value =>
      refine readWith_node ?_
      rw [readFields, required_of_lookup "value" (by simp [nodeEntries]) (string_str value)]
      rfl
  | .variable id path format =>
      refine readWith_node ?_
      rw [readFields, required_of_lookup "variable_id" (by simp [nodeEntries]) (string_str id),
        optional_string "path" path (by simp [nodeEntries]),
        optional_self "format" format Format.dump (by simp [nodeEntries]) (fun _ => rfl)
          Format.read_dump]
      rfl
  | .sectionRef id =>
      refine readWith_node ?_
      rw [readFields, required_of_lookup "section_id" (by simp [nodeEntries]) (string_str id)]
      rfl
  | .composite parts =>
      have hparts : ∀ child ∈ parts, node child.dump = .ok (f child) := h
      refine readWith_node ?_
      rw [readFields, list_parts "parts" (by simp [nodeEntries]) hparts]
      rfl
  | .conditional condition yes no =>
      obtain ⟨hyes, hno⟩ := List.forall_mem_cons.mp h
      refine readWith_node ?_
      rw [readFields, required_of_lookup "condition" (by simp [nodeEntries]) condition.read_dump,
        required_of_lookup "then_content" (by simp [nodeEntries]) hyes,
        optional_part "else_content" (by simp [nodeEntries]) hno]
      rfl
  | .list id set template =>
      refine readWith_node ?_
      rw [readFields, required_of_lookup "variable_id" (by simp [nodeEntries]) (string_str id),
        required_of_lookup "separator_set_id" (by simp [nodeEntries]) (string_str set),
        optional_part "item_template" (by simp [nodeEntries]) h]
      rfl
  | .context key fallback =>
      refine readWith_node ?_
      rw [readFields, required_of_lookup "context_key" (by simp [nodeEntries]) (string_str key),
        optional_part "fallback" (by simp [nodeEntries]) h]
      rfl
  | .plural countVariable forms =>
      refine readWith_node ?_
      change (PluralForms.readEntries _).map _ = _
      rw [nodeEntries, ContentTag.name, PluralForms.readEntries_fields]
      rfl
  | .article wordVariable word style capitalize =>
      have hstyle : oneOf ArticleStyle.names (.str style.name) = .ok style := by
        cases style with
        | _ => rfl
      refine readWith_node ?_
      rw [readFields, optional_string "word_variable" wordVariable (by simp [nodeEntries]),
        optional_part "word_content" (by simp [nodeEntries]) h,
        withDefault_of_lookup "style" (by simp [nodeEntries]) hstyle,
        withDefault_of_lookup "capitalize" (by simp [nodeEntries]) (boolean_bool capitalize)]
      rfl
  | .countSwitch id cases otherwise =>
      obtain ⟨hcases, hotherwise⟩ := List.forall_mem_append.mp h
      refine readWith_node ?_
      rw [readFields, required_of_lookup "count_variable" (by simp [nodeEntries]) (string_str id),
        readCountCase,
        list_labelled "cases" CaseCount.dump (by decide)
          (by simp [nodeEntries, dumpCounts_eq_map]) CaseCount.read_dump hcases,
        optional_part "default_content" (by simp [nodeEntries]) hotherwise]
      rfl
  | .switch id cases otherwise =>
      obtain ⟨hcases, hotherwise⟩ := List.forall_mem_append.mp h
      refine readWith_node ?_
      rw [readFields, required_of_lookup "variable_id" (by simp [nodeEntries]) (string_str id),
        readValueCase,
        list_labelled "cases" CaseValue.toValue (by decide)
          (by simp [nodeEntries, dumpValues_eq_map]) CaseValue.read_toValue hcases,
        optional_part "default_content" (by simp [nodeEntries]) hotherwise]
      rfl
  | .pickOne candidates weights =>
      have hcandidates : ∀ child ∈ candidates, node child.dump = .ok (f child) := h
      refine readWith_node ?_
      rw [readFields, list_parts "candidates" (by simp [nodeEntries]) hcandidates,
        optional_self "weights" weights (fun ws => .list (ws.map .float)) (by simp [nodeEntries])
          (fun _ => rfl) fun ws => list_self .float fun x _ => number_float x]
      rfl
  | .pickMany candidates count set duplicates =>
      have hcandidates : ∀ child ∈ candidates, node child.dump = .ok (f child) := h
      have hcount : PickCount.read count.dump = .ok count := by
        refine PickCount.read_dump fun low high heq => ?_
        rw [heq] at hlegible
        exact hlegible
      refine readWith_node ?_
      rw [readFields, list_parts "candidates" (by simp [nodeEntries]) hcandidates,
        required_of_lookup "count" (by simp [nodeEntries]) hcount,
        optional_string "separator_set_id" set (by simp [nodeEntries]),
        withDefault_of_lookup "allow_duplicates" (by simp [nodeEntries]) (boolean_bool duplicates)]
      rfl
  | .randomValue pool poolVariable dataType format =>
      refine readWith_node ?_
      rw [readFields,
        optional_self "pool" pool Value.ofStrings (by simp [nodeEntries]) (fun _ => rfl)
          fun texts => list_self .str fun text _ => string_str text,
        optional_string "pool_variable" poolVariable (by simp [nodeEntries]),
        optional_string "data_type_id" dataType (by simp [nodeEntries]),
        optional_self "format" format Format.dump (by simp [nodeEntries]) (fun _ => rfl)
          Format.read_dump]
      rfl
  | .weightedPick options =>
      have hoptions : ∀ child ∈ options.map Prod.snd, node child.dump = .ok (f child) := h
      refine readWith_node ?_
      rw [readFields, readOption,
        list_labelled "options" .float (by decide) (by simp [nodeEntries, dumpOptions_eq_map])
          number_float hoptions]
      rfl
  | .shuffle id count set template =>
      refine readWith_node ?_
      rw [readFields, required_of_lookup "variable_id" (by simp [nodeEntries]) (string_str id),
        optional_self "count" count .int (by simp [nodeEntries]) (fun _ => rfl) integer_int,
        optional_string "separator_set_id" set (by simp [nodeEntries]),
        optional_part "item_template" (by simp [nodeEntries]) h]
      rfl
  | .unknown tag fields => exact readWith_unknown hlegible

end Reading

/-! ## Depth -/

section Depth

variable {entries : Entries}

theorem depth_part (name : String) {part : Option Content} (h : entries.lookup name = dump? part) :
    ∀ child ∈ part.toList, child.dump.depth ≤ Value.depthOfEntries entries := by
  intro child hchild
  rw [dump?_eq_map, Option.mem_toList.mp hchild] at h
  exact depth_le_of_lookup h

theorem depth_parts (name : String) {parts : List Content}
    (h : entries.lookup name = some (.list (dumps parts))) :
    ∀ child ∈ parts, child.dump.depth ≤ Value.depthOfEntries entries := by
  intro child hchild
  rw [dumps_eq_map] at h
  exact Nat.le_of_lt (depth_lt_of_lookup_list h (List.mem_map_of_mem hchild))

theorem depth_labelled (name first second : String) {α : Type} (write : α → Value)
    {cases : List (α × Content)} (hne : second ≠ first)
    (h : entries.lookup name =
      some (.list (cases.map fun p => .object [(first, write p.1), (second, p.2.dump)]))) :
    ∀ child ∈ cases.map Prod.snd, child.dump.depth ≤ Value.depthOfEntries entries := by
  intro child hchild
  obtain ⟨p, hp, rfl⟩ := List.mem_map.mp hchild
  have hcase := depth_lt_of_lookup_list h (List.mem_map_of_mem hp)
  have hsecond : ([(first, write p.1), (second, p.2.dump)] : Entries).lookup second =
      some p.2.dump := by
    simp [List.lookup_cons, beq_false_of_ne hne]
  exact Nat.le_trans (Nat.le_of_lt (Nat.lt_succ_of_le (depth_le_of_lookup hsecond)))
    (Nat.le_of_lt hcase)

theorem depth_node (tag : ContentTag) (fields : List (String × Option Value)) :
    (Content.node tag fields).depth = Value.depthOfEntries (nodeEntries tag fields) + 1 := rfl

/-- The documents of the nodes right below a node are less deep than its own. -/
theorem depth_dump_lt {content child : Content} (h : child ∈ content.children) :
    child.dump.depth < content.dump.depth := by
  match content with
  | .text _ | .variable _ _ _ | .sectionRef _ | .plural _ _ | .randomValue _ _ _ _
  | .unknown _ _ => cases h
  | .composite parts =>
      rw [dump, depth_node, Nat.lt_succ_iff]
      have hpart : child ∈ parts := h
      exact depth_parts "parts" (by simp [nodeEntries]) child hpart
  | .conditional _ yes no =>
      rw [dump, depth_node, Nat.lt_succ_iff]
      rcases List.mem_cons.mp h with rfl | hno
      · exact @depth_le_of_lookup _ "then_content" _ (by simp [nodeEntries])
      · exact depth_part "else_content" (by simp [nodeEntries]) child hno
  | .list _ _ _ =>
      rw [dump, depth_node, Nat.lt_succ_iff]
      exact depth_part "item_template" (by simp [nodeEntries]) child h
  | .context _ _ =>
      rw [dump, depth_node, Nat.lt_succ_iff]
      exact depth_part "fallback" (by simp [nodeEntries]) child h
  | .article _ _ _ _ =>
      rw [dump, depth_node, Nat.lt_succ_iff]
      exact depth_part "word_content" (by simp [nodeEntries]) child h
  | .countSwitch _ cases _ =>
      rw [dump, depth_node, Nat.lt_succ_iff]
      rcases List.mem_append.mp h with hcases | hotherwise
      · exact depth_labelled "cases" "count" "content" CaseCount.dump (by decide)
          (by simp [nodeEntries, dumpCounts_eq_map]) child hcases
      · exact depth_part "default_content" (by simp [nodeEntries]) child hotherwise
  | .switch _ _ _ =>
      rw [dump, depth_node, Nat.lt_succ_iff]
      rcases List.mem_append.mp h with hcases | hotherwise
      · exact depth_labelled "cases" "value" "content" CaseValue.toValue (by decide)
          (by simp [nodeEntries, dumpValues_eq_map]) child hcases
      · exact depth_part "default_content" (by simp [nodeEntries]) child hotherwise
  | .pickOne candidates _ | .pickMany candidates _ _ _ =>
      have hcandidate : child ∈ candidates := h
      rw [dump, depth_node, Nat.lt_succ_iff]
      exact depth_parts "candidates" (by simp [nodeEntries]) child hcandidate
  | .weightedPick _ =>
      rw [dump, depth_node, Nat.lt_succ_iff]
      exact depth_labelled "options" "weight" "content" .float (by decide)
        (by simp [nodeEntries, dumpOptions_eq_map]) child h
  | .shuffle _ _ _ _ =>
      rw [dump, depth_node, Nat.lt_succ_iff]
      exact depth_part "item_template" (by simp [nodeEntries]) child h

end Depth

/-! ## Round trips -/

/-- A legible tree is read from its document as what the document carries of it. -/
theorem readWithin_dump {depth : Nat} {content : Content} (hlegible : content.Everywhere Legible)
    (hdepth : content.dump.depth < depth) :
    readWithin depth content.dump = .ok (content.reshaped portable) := by
  induction depth generalizing content with
  | zero => exact absurd hdepth (Nat.not_lt_zero _)
  | succ depth ih =>
      obtain ⟨hown, hbelow⟩ := hlegible
      rw [readWithin, reshaped_eq]
      refine readWith_dump hown fun child hchild => ih (hbelow child hchild) ?_
      exact Nat.lt_of_lt_of_le (depth_dump_lt hchild) (Nat.le_of_lt_succ hdepth)

/-- A node is written alike with nodes below it that are. -/
theorem dump_mapChildren {f : Content → Content} {content : Content}
    (h : ∀ child ∈ content.children, (f child).dump = child.dump) :
    (content.mapChildren f).dump = content.dump := by
  have hparts : ∀ parts : List Content, (∀ child ∈ parts, (f child).dump = child.dump) →
      dumps (parts.map f) = dumps parts := by
    intro parts hparts
    rw [dumps_eq_map, dumps_eq_map, List.map_map]
    exact List.map_congr_left hparts
  have hpart : ∀ part : Option Content, (∀ child ∈ part.toList, (f child).dump = child.dump) →
      dump? (part.map f) = dump? part := by
    intro part hpart
    rw [dump?_eq_map, dump?_eq_map, Option.map_map]
    exact Option.map_congr fun child hchild => hpart child (Option.mem_toList.mpr hchild)
  have hlabelled : ∀ {α : Type} (cases : List (α × Content)) (write : α → Value)
      (first second : String), (∀ child ∈ cases.map Prod.snd, (f child).dump = child.dump) →
      (cases.map fun p => (p.1, f p.2)).map
        (fun p => Value.object [(first, write p.1), (second, p.2.dump)]) =
      cases.map fun p => .object [(first, write p.1), (second, p.2.dump)] := by
    intro α cases write first second hcases
    rw [List.map_map]
    refine List.map_congr_left fun p hp => ?_
    simp only [Function.comp_apply, hcases p.2 (List.mem_map_of_mem hp)]
  match content with
  | .text _ | .variable _ _ _ | .sectionRef _ | .plural _ _ | .randomValue _ _ _ _
  | .unknown _ _ => rfl
  | .composite parts => simp only [mapChildren, dump, hparts parts h]
  | .conditional _ yes no =>
      obtain ⟨hyes, hno⟩ := List.forall_mem_cons.mp h
      simp only [mapChildren, dump, hyes, hpart no hno]
  | .list _ _ part | .context _ part | .article _ part _ _ | .shuffle _ _ _ part =>
      simp only [mapChildren, dump, hpart part h]
  | .countSwitch _ cases otherwise =>
      obtain ⟨hcases, hotherwise⟩ := List.forall_mem_append.mp h
      simp only [mapChildren, dump, dumpCounts_eq_map, hlabelled cases _ _ _ hcases,
        hpart otherwise hotherwise]
  | .switch _ cases otherwise =>
      obtain ⟨hcases, hotherwise⟩ := List.forall_mem_append.mp h
      simp only [mapChildren, dump, dumpValues_eq_map, hlabelled cases _ _ _ hcases,
        hpart otherwise hotherwise]
  | .pickOne candidates _ | .pickMany candidates _ _ _ =>
      simp only [mapChildren, dump, hparts candidates h]
  | .weightedPick options =>
      simp only [mapChildren, dump, dumpOptions_eq_map, hlabelled options _ _ _ h]

theorem reshapedFields_portable_idem {fields : List (String × Value)}
    (h : ∀ field ∈ fields, field.2.IsFinite) :
    reshapedFields portable (reshapedFields portable fields) = reshapedFields portable fields := by
  have hkept : ∀ field ∈ reshapedFields portable fields, field.2.isNull = false := by
    intro field hfield
    obtain ⟨original, horiginal, rfl⟩ := List.mem_map.mp hfield
    obtain ⟨hmem, hnull⟩ := List.mem_filter.mp horiginal
    rw [isNull_portable (h original hmem)]
    simpa using hnull
  have hall : withoutNulls (reshapedFields portable fields) = reshapedFields portable fields :=
    List.filter_eq_self.mpr fun field hfield => by simpa using hkept field hfield
  rw [reshapedFields, hall, reshapedFields, List.map_map]
  refine List.map_congr_left fun field _ => ?_
  simp only [Function.comp_apply, portable_portable]

theorem dump_reshapedNode {node : Content} (h : ∀ v ∈ node.freeValues, v.IsFinite) :
    (node.reshapedNode portable).dump = node.dump := by
  match node with
  | .conditional condition yes no =>
      have hcondition := condition.dump_mapValues portable fun v hv =>
        ⟨isNull_portable (h v hv), portable_portable v⟩
      simp only [reshapedNode, dump, hcondition]
  | .unknown tag fields =>
      have hfields : reshapedFields portable (reshapedFields portable fields) =
          reshapedFields portable fields :=
        reshapedFields_portable_idem fun field hfield => h field.2 (List.mem_map_of_mem hfield)
      simp only [reshapedNode, dump_unknown, hfields]
  | .text _ | .variable _ _ _ | .sectionRef _ | .composite _ | .list _ _ _ | .context _ _
  | .plural _ _ | .article _ _ _ _ | .countSwitch _ _ _ | .switch _ _ _ | .pickOne _ _
  | .pickMany _ _ _ _ | .randomValue _ _ _ _ | .weightedPick _ | .shuffle _ _ _ _ => rfl

/-- **What the document of a tree carries is written alike**, if all numbers are finite. -/
theorem dump_reshaped {content : Content}
    (h : content.Everywhere fun node => ∀ v ∈ node.freeValues, v.IsFinite) :
    (content.reshaped portable).dump = content.dump := by
  induction h with
  | @node content own _ ih =>
      rw [reshaped_eq, dump_mapChildren (by rwa [children_reshapedNode]), dump_reshapedNode own]

/-- The document of a text for many, and of a node of no known kind for fewer. -/
def bannerDocument : Value :=
  .object
    [("type", .str "conditional"),
     ("condition", .object
       [("variable", .str "count"), ("operator", .str "greater_than"), ("value", .int 2)]),
     ("then_content", .object [("type", .str "text"), ("value", .str "many")]),
     ("else_content", .object
       [("type", .str "banner"), ("width", .int 3), ("note", .null)])]

/-- A choice of a text or of a node of no known kind with some fields. -/
def banner (fields : List (String × Value)) : Content :=
  .conditional
    (.mk { variableId := some "count", operator := some "greater_than", value := .int 2 }
      none none none)
    (.text "many") (some (.unknown (some "banner") fields))

/-- The document of a test whether a point is at a corner. -/
def cornerDocument (corner : Value) : Value :=
  .object
    [("type", .str "conditional"),
     ("condition", .object
       [("variable", .str "point"), ("operator", .str "equals"), ("value", corner)]),
     ("then_content", .object [("type", .str "text"), ("value", .str "corner")]),
     ("else_content", .object [("type", .str "text"), ("value", .str "inside")])]

/-- A test whether a point is at a corner. -/
def cornerTest (corner : Value) : Content :=
  .conditional
    (.mk { variableId := some "point", operator := some "equals", value := corner }
      none none none)
    (.text "corner") (some (.text "inside"))

end PromptTree.Content
