import Mathlib.Data.List.Basic
import PromptTree.Content.Reader
import PromptTree.Proofs.Content.Children
import PromptTree.Proofs.Schema.Fields

/-!
# Reading a document with another part

Whether a node can be read depends on its own kind and its own fields, and on whether the
nodes below it can be read, but not on what they are.  So in a document that was read any
node can be replaced by whatever can be read, and the tree is the same but for that node
(`read_withAt`).  An object of no known kind can always be read, whatever else is in it:
**it is harmless at any depth** (`read_withAt_unknownObject`).

A single step is shown for the three shapes of slots: a field with a single node, a list of
nodes, and a list of nodes with labels.  The law for a whole document is then an induction on
the position.
-/

namespace PromptTree

open Schema

namespace Content

/-! ## Reading at any depth -/

section Depth

variable {node node' : Reader Content} {entries : Entries}

/-- A case or an option is read alike if its content is. -/
theorem labelled_congr {α : Type} {name first : String} {label : Reader α} {v : Value}
    (h : ∀ u : Value, u.depth < v.depth → node u = node' u) :
    record name (fun fields =>
        Prod.mk <$> required fields first label <*> required fields "content" node) v =
      record name (fun fields =>
        Prod.mk <$> required fields first label <*> required fields "content" node') v := by
  cases v with
  | object fields =>
      have hcontent : required fields "content" node = required fields "content" node' :=
        required_congr fun u hu => h u (Nat.lt_succ_of_le hu)
      simp only [record, Value.entries?, hcontent]
  | _ => rfl

/-- A node is read alike if the nodes below it are. -/
theorem readFields_congr
    (h : ∀ v : Value, v.depth ≤ Value.depthOfEntries entries → node v = node' v)
    (tag : ContentTag) : readFields node entries tag = readFields node' entries tag := by
  have hless : ∀ v item : Value, v.depth ≤ Value.depthOfEntries entries → item.depth < v.depth →
      node item = node' item :=
    fun v item hv hitem => h item (Nat.le_trans (Nat.le_of_lt hitem) hv)
  have hsingle : ∀ name, optional entries name node = optional entries name node' :=
    fun name => withDefaultAs_congr fun v hv => nullable_congr (h v hv)
  have hlist : ∀ name, withDefault entries name [] (Schema.list node) =
      withDefault entries name [] (Schema.list node') :=
    fun name => withDefaultAs_congr fun v hv => list_congr fun item => hless v item hv
  have hlabelled : ∀ {α : Type} name kind first (label : Reader α),
      withDefault entries name [] (Schema.list (record kind fun fields =>
        Prod.mk <$> required fields first label <*> required fields "content" node)) =
      withDefault entries name [] (Schema.list (record kind fun fields =>
        Prod.mk <$> required fields first label <*> required fields "content" node')) :=
    fun name kind first label => withDefaultAs_congr fun v hv => list_congr fun item hitem =>
      labelled_congr fun u hu => hless v u hv (Nat.lt_trans hu hitem)
  cases tag with
  | conditional =>
      have hyes : required entries "then_content" node = required entries "then_content" node' :=
        required_congr h
      simp only [readFields, hsingle, hyes]
  | composite | pickOne | pickMany => simp only [readFields, hlist]
  | list | context | article | shuffle => simp only [readFields, hsingle]
  | countSwitch =>
      have hcases := hlabelled "cases" "CountCase" "count" CaseCount.read
      simp only [readFields, hsingle]
      rw [show withDefault entries "cases" [] (Schema.list (readCountCase node)) = _ from hcases]
      rfl
  | switch =>
      have hcases := hlabelled "cases" "SwitchCase" "value" CaseValue.read
      simp only [readFields, hsingle]
      rw [show withDefault entries "cases" [] (Schema.list (readValueCase node)) = _ from hcases]
      rfl
  | weightedPick =>
      exact congrArg (Content.weightedPick <$> ·)
        (hlabelled "options" "WeightedOption" "weight" number)
  | _ => rfl

theorem readWith_congr
    (h : ∀ v : Value, v.depth ≤ Value.depthOfEntries entries → node v = node' v) :
    readWith node (.object entries) = readWith node' (.object entries) := by
  simp only [readWith, Value.entries?, readFields_congr h]

/-- How deep a reader goes does not matter, if it is deep enough. -/
theorem readWithin_congr {depth depth' : Nat} {v : Value} (h : v.depth < depth)
    (h' : v.depth < depth') : readWithin depth v = readWithin depth' v := by
  induction depth generalizing depth' v with
  | zero => exact absurd h (Nat.not_lt_zero _)
  | succ depth ih =>
      cases depth' with
      | zero => exact absurd h' (Nat.not_lt_zero _)
      | succ depth' =>
          rw [readWithin, readWithin]
          cases v with
          | object entries =>
              rw [Value.depth] at h h'
              exact readWith_congr fun u hdepth => ih (by omega) (by omega)
          | _ => rfl

/-- A node is read by reading the nodes below it. -/
theorem read_object (entries : Entries) :
    read (.object entries) = readWith read (.object entries) := by
  rw [read, readWithin]
  refine readWith_congr fun v hdepth => readWithin_congr ?_ (Nat.lt_succ_self _)
  rw [Value.depth]
  omega

/-- A node of a known kind is read field by field. -/
theorem read_eq_ok_of_kind {tag : ContentTag}
    (kind : ContentTag.ofValue? (Entries.getD entries "type") = some tag) {content : Content} :
    read (.object entries) = .ok content ↔ readFields read entries tag = .ok content := by
  simp only [read_object, readWith, Value.entries?, kind, Checked.below_eq_ok]

end Depth

/-! ## A single step -/

section Steps

variable {node : Reader Content} {entries fields : Entries} {tag : ContentTag}
  {content child : Content} {part new : Value}

/-- A case or an option with another content. -/
theorem labelled_put {α : Type} {name first : String} {label : Reader α} (hne : first ≠ "content")
    {case : α × Content}
    (h : record name (fun fields =>
      Prod.mk <$> required fields first label <*> required fields "content" node)
      (.object fields) = .ok case) (hlookup : fields.lookup "content" = some part) :
    node part = .ok case.2 ∧ ∀ new child, node new = .ok child →
      record name (fun fields =>
        Prod.mk <$> required fields first label <*> required fields "content" node)
        (.object (Entries.put "content" new fields)) = .ok (case.1, child) := by
  -- The label is read from another field, and the content from the field that was put.
  obtain ⟨_, found, hlabel, hcontent, rfl⟩ := Checked.seq_eq_ok.mp h
  obtain ⟨a, ha, rfl⟩ := Checked.map_eq_ok.mp hlabel
  obtain ⟨v, hv, hread⟩ := required_eq_ok.mp hcontent
  obtain rfl := Option.some_inj.mp (hv.symm.trans hlookup)
  refine ⟨hread, ?_⟩
  intro new child hnew
  exact Checked.seq_ok (Checked.map_ok _ (required_put_of_ne hne ha)) (required_put hnew)

/-- A field with a single node. -/
theorem readFields_single {field : SingleField} (own : (NodeSlot.single field).IsOwn tag)
    (h : readFields node entries tag = .ok content)
    (hlookup : entries.lookup field.name = some part) :
    (part.isNull = true ∧ content.child? (.single field) = none ∨
      ∃ child, node part = .ok child ∧ content.child? (.single field) = some child) ∧
    ∀ new child, new.isNull = false → node new = .ok child →
      readFields node (Entries.put field.name new entries) tag =
        .ok (content.putChild (.single field) child) := by
  cases field with
  | yes =>
      obtain rfl := own
      simp only [readFields, Checked.seq_eq_ok, Checked.map_eq_ok] at h
      obtain ⟨_, no, ⟨_, yes, ⟨condition, hcondition, rfl⟩, hyes, rfl⟩, hno, rfl⟩ := h
      obtain ⟨v, hv, hread⟩ := required_eq_ok.mp hyes
      obtain rfl := Option.some_inj.mp (hv.symm.trans hlookup)
      refine ⟨.inr ⟨yes, hread, rfl⟩, ?_⟩
      intro new child hnull hnew
      exact Checked.seq_ok (Checked.seq_ok
        (Checked.map_ok _ (required_put_of_ne (by decide) hcondition)) (required_put hnew))
        ((optional_put_of_ne (by decide)).trans hno)
  | no =>
      obtain rfl := own
      simp only [readFields, Checked.seq_eq_ok, Checked.map_eq_ok] at h
      obtain ⟨_, no, ⟨_, yes, ⟨condition, hcondition, rfl⟩, hyes, rfl⟩, hno, rfl⟩ := h
      refine ⟨cases_of_optional hlookup hno, ?_⟩
      intro new child hnull hnew
      exact Checked.seq_ok (Checked.seq_ok
        (Checked.map_ok _ (required_put_of_ne (by decide) hcondition))
        (required_put_of_ne (by decide) hyes)) (optional_put hnew hnull)
  | template =>
      obtain rfl | rfl := own
      · simp only [readFields, Checked.seq_eq_ok, Checked.map_eq_ok] at h
        obtain ⟨_, template, ⟨_, separatorSet, ⟨id, hid, rfl⟩, hset, rfl⟩, htemplate, rfl⟩ := h
        refine ⟨cases_of_optional hlookup htemplate, ?_⟩
        intro new child hnull hnew
        exact Checked.seq_ok (Checked.seq_ok
          (Checked.map_ok _ (required_put_of_ne (by decide) hid))
          (required_put_of_ne (by decide) hset)) (optional_put hnew hnull)
      · simp only [readFields, Checked.seq_eq_ok, Checked.map_eq_ok] at h
        obtain ⟨_, template, ⟨_, separatorSet, ⟨_, count, ⟨id, hid, rfl⟩, hcount, rfl⟩, hset, rfl⟩,
          htemplate, rfl⟩ := h
        refine ⟨cases_of_optional hlookup htemplate, ?_⟩
        intro new child hnull hnew
        exact Checked.seq_ok (Checked.seq_ok (Checked.seq_ok
          (Checked.map_ok _ (required_put_of_ne (by decide) hid))
          ((optional_put_of_ne (by decide)).trans hcount))
          ((optional_put_of_ne (by decide)).trans hset)) (optional_put hnew hnull)
  | fallback =>
      obtain rfl := own
      simp only [readFields, Checked.seq_eq_ok, Checked.map_eq_ok] at h
      obtain ⟨_, fallback, ⟨key, hkey, rfl⟩, hfallback, rfl⟩ := h
      refine ⟨cases_of_optional hlookup hfallback, ?_⟩
      intro new child hnull hnew
      exact Checked.seq_ok (Checked.map_ok _ (required_put_of_ne (by decide) hkey))
        (optional_put hnew hnull)
  | word =>
      obtain rfl := own
      simp only [readFields, Checked.seq_eq_ok, Checked.map_eq_ok] at h
      obtain ⟨_, capitalize, ⟨_, style, ⟨_, word, ⟨wordVariable, hvariable, rfl⟩, hword, rfl⟩,
        hstyle, rfl⟩, hcapitalize, rfl⟩ := h
      refine ⟨cases_of_optional hlookup hword, ?_⟩
      intro new child hnull hnew
      exact Checked.seq_ok (Checked.seq_ok (Checked.seq_ok
        (Checked.map_ok _ ((optional_put_of_ne (by decide)).trans hvariable))
        (optional_put hnew hnull)) ((withDefault_put_of_ne (by decide)).trans hstyle))
        ((withDefault_put_of_ne (by decide)).trans hcapitalize)
  | otherwise =>
      obtain rfl | rfl := own
      all_goals
        simp only [readFields, Checked.seq_eq_ok, Checked.map_eq_ok] at h
        obtain ⟨_, otherwise, ⟨_, cases, ⟨id, hid, rfl⟩, hcases, rfl⟩, hotherwise, rfl⟩ := h
        refine ⟨cases_of_optional hlookup hotherwise, ?_⟩
        intro new child hnull hnew
        exact Checked.seq_ok (Checked.seq_ok
          (Checked.map_ok _ (required_put_of_ne (by decide) hid))
          ((withDefault_put_of_ne (by decide)).trans hcases)) (optional_put hnew hnull)

/-- A field with a list of nodes. -/
theorem readFields_item {field : ListField} {index : Nat} {items : List Value}
    (own : (NodeSlot.item field index).IsOwn tag) (h : readFields node entries tag = .ok content)
    (hlookup : entries.lookup field.name = some (.list items)) (hitem : items[index]? = some part) :
    (∃ child, node part = .ok child ∧ content.child? (.item field index) = some child) ∧
    ∀ new child, node new = .ok child →
      readFields node (Entries.put field.name (.list (items.set index new)) entries) tag =
        .ok (content.putChild (.item field index) child) := by
  have hlist : ∀ nodes, withDefault entries field.name [] (Schema.list node) = .ok nodes →
      (∃ child, node part = .ok child ∧ nodes[index]? = some child) ∧
      ∀ new child, node new = .ok child →
        withDefault (Entries.put field.name (.list (items.set index new)) entries) field.name []
          (Schema.list node) = .ok (nodes.set index child) := by
    intro nodes hnodes
    rw [withDefault_eq_ok_of_lookup hlookup] at hnodes
    obtain ⟨child, hchild, hread⟩ := list_getElem? hnodes hitem
    exact ⟨⟨child, hread, hchild⟩, fun new child hnew => withDefault_put (list_set hnodes hnew)⟩
  cases field with
  | parts =>
      obtain rfl := own
      simp only [readFields, Checked.map_eq_ok] at h
      obtain ⟨parts, hparts, rfl⟩ := h
      obtain ⟨hchild, hset⟩ := hlist parts hparts
      exact ⟨hchild, fun new child hnew => Checked.map_ok _ (hset new child hnew)⟩
  | candidates =>
      obtain rfl | rfl := own
      · simp only [readFields, Checked.seq_eq_ok, Checked.map_eq_ok] at h
        obtain ⟨_, weights, ⟨candidates, hcandidates, rfl⟩, hweights, rfl⟩ := h
        obtain ⟨hchild, hset⟩ := hlist candidates hcandidates
        refine ⟨hchild, ?_⟩
        intro new child hnew
        exact Checked.seq_ok (Checked.map_ok _ (hset new child hnew))
          ((optional_put_of_ne (by decide)).trans hweights)
      · simp only [readFields, Checked.seq_eq_ok, Checked.map_eq_ok] at h
        obtain ⟨_, duplicates, ⟨_, separatorSet, ⟨_, count, ⟨candidates, hcandidates, rfl⟩, hcount,
          rfl⟩, hset, rfl⟩, hduplicates, rfl⟩ := h
        obtain ⟨hchild, hcandidate⟩ := hlist candidates hcandidates
        refine ⟨hchild, ?_⟩
        intro new child hnew
        exact Checked.seq_ok (Checked.seq_ok (Checked.seq_ok
          (Checked.map_ok _ (hcandidate new child hnew)) (required_put_of_ne (by decide) hcount))
          ((optional_put_of_ne (by decide)).trans hset))
          ((withDefault_put_of_ne (by decide)).trans hduplicates)

/-- A field with a list of nodes with labels. -/
theorem readFields_case {field : CaseField} {index : Nat} {items : List Value}
    (own : (NodeSlot.case field index).IsOwn tag) (h : readFields node entries tag = .ok content)
    (hlookup : entries.lookup field.name = some (.list items))
    (hitem : items[index]? = some (.object fields))
    (hcontent : fields.lookup "content" = some part) :
    (∃ child, node part = .ok child ∧ content.child? (.case field index) = some child) ∧
    ∀ new child, node new = .ok child →
      readFields node (Entries.put field.name
          (.list (items.set index (.object (Entries.put "content" new fields)))) entries) tag =
        .ok (content.putChild (.case field index) child) := by
  have hlist : ∀ {α : Type} {name first : String} {label : Reader α}, first ≠ "content" →
      ∀ cases : List (α × Content), withDefault entries field.name [] (Schema.list
        (record name fun fields =>
          Prod.mk <$> required fields first label <*> required fields "content" node)) = .ok cases →
      (∃ child, node part = .ok child ∧ cases[index]?.map Prod.snd = some child) ∧
      ∀ new child, node new = .ok child →
        withDefault (Entries.put field.name
            (.list (items.set index (.object (Entries.put "content" new fields)))) entries)
          field.name [] (Schema.list (record name fun fields =>
            Prod.mk <$> required fields first label <*> required fields "content" node)) =
          .ok (cases.modify index fun case => (case.1, child)) := by
    intro α name first label hne cases hcases
    rw [withDefault_eq_ok_of_lookup hlookup] at hcases
    obtain ⟨case, hcase, hread⟩ := list_getElem? hcases hitem
    obtain ⟨hchild, hput⟩ := labelled_put hne hread hcontent
    refine ⟨⟨case.2, hchild, by rw [hcase]; rfl⟩, ?_⟩
    intro new child hnew
    rw [List.modify_eq_set_getElem?, hcase]
    exact withDefault_put (list_set hcases (hput new child hnew))
  cases field with
  | cases =>
      obtain rfl | rfl := own
      all_goals
        simp only [readFields, Checked.seq_eq_ok, Checked.map_eq_ok] at h
        obtain ⟨_, otherwise, ⟨_, cases, ⟨id, hid, rfl⟩, hcases, rfl⟩, hotherwise, rfl⟩ := h
        obtain ⟨hchild, hset⟩ := hlist (by decide) cases hcases
        refine ⟨hchild, ?_⟩
        intro new child hnew
        exact Checked.seq_ok (Checked.seq_ok
          (Checked.map_ok _ (required_put_of_ne (by decide) hid)) (hset new child hnew))
          ((optional_put_of_ne (by decide)).trans hotherwise)
  | options =>
      obtain rfl := own
      simp only [readFields, Checked.map_eq_ok] at h
      obtain ⟨options, hoptions, rfl⟩ := h
      obtain ⟨hchild, hset⟩ := hlist (by decide) options hoptions
      exact ⟨hchild, fun new child hnew => Checked.map_ok _ (hset new child hnew)⟩

/-- **A single step**: a node that was read, with another value in a slot of its kind. -/
theorem read_withAt_slot {slot : NodeSlot}
    (kind : ContentTag.ofValue? (Entries.getD entries "type") = some tag) (own : slot.IsOwn tag)
    (there : (Value.object entries).at? slot.steps = some part)
    (h : read (.object entries) = .ok content) :
    (part.isNull = true ∧ content.child? slot = none ∨
      ∃ child, read part = .ok child ∧ content.child? slot = some child) ∧
    ∀ new child, new.isNull = false → read new = .ok child →
      read ((Value.object entries).withAt slot.steps new) = .ok (content.putChild slot child) := by
  -- No slot is in the field of the kind, so that the node with another part is of the same kind.
  rw [read_eq_ok_of_kind kind] at h
  have hkind : ∀ field v, field ≠ "type" →
      ContentTag.ofValue? (Entries.getD (Entries.put field v entries) "type") = some tag := by
    intro field v hfield
    rwa [Entries.getD_put, if_neg hfield.symm]
  cases slot with
  | single field =>
      obtain ⟨hchild, hput⟩ := readFields_single own h (NodeSlot.at?_single.mp there)
      refine ⟨hchild, ?_⟩
      intro new child hnull hnew
      rw [NodeSlot.withAt_single, read_eq_ok_of_kind (hkind _ _ (by cases field <;> decide))]
      exact hput new child hnull hnew
  | item field index =>
      obtain ⟨items, hlookup, hitem⟩ := NodeSlot.at?_item.mp there
      obtain ⟨hchild, hput⟩ := readFields_item own h hlookup hitem
      refine ⟨.inr hchild, ?_⟩
      intro new child hnull hnew
      rw [NodeSlot.withAt_item hlookup hitem,
        read_eq_ok_of_kind (hkind _ _ (by cases field <;> decide))]
      exact hput new child hnew
  | case field index =>
      obtain ⟨items, fields, hlookup, hitem, hcontent⟩ := NodeSlot.at?_case.mp there
      obtain ⟨hchild, hput⟩ := readFields_case own h hlookup hitem hcontent
      refine ⟨.inr hchild, ?_⟩
      intro new child hnull hnew
      rw [NodeSlot.withAt_case hlookup hitem,
        read_eq_ok_of_kind (hkind _ _ (by cases field <;> decide))]
      exact hput new child hnew

end Steps

/-! ## Whole documents -/

/-- **A document that was read, with another part that can be read.** -/
theorem read_withAt {v inner new : Value} {position : List NodeSlot} {content child : Content}
    (hposition : NodeAt NodeSlot.IsOwn v position inner) (h : read v = .ok content)
    (hnull : new.isNull = false) (hnew : read new = .ok child) :
    read (v.withAt (stepsTo position) new) = .ok (content.withAt position child) := by
  induction hposition generalizing content with
  | here v =>
      rw [stepsTo, List.flatMap_nil, Value.withAt_nil, hnew]
      rfl
  | @inside entries tag slot position part inner kind own there deeper ih =>
      obtain ⟨hslot, hput⟩ := read_withAt_slot kind own there h
      rw [stepsTo_cons, Value.withAt_append _ new there, withAt]
      obtain ⟨hmissing, hnone⟩ | ⟨found, hread, hsome⟩ := hslot
      · -- There is nothing below a null, so the position ends here.
        rw [hnone]
        cases deeper with
        | here =>
            rw [stepsTo, List.flatMap_nil, Value.withAt_nil]
            exact hput new child hnull hnew
        | inside => cases hmissing
      · rw [hsome]
        refine hput _ _ ?_ (ih hread)
        cases deeper with
        | here => rwa [stepsTo, List.flatMap_nil, Value.withAt_nil]
        | inside => exact Value.isNull_withAt hnull rfl

/-- An object that is read as a node of no known kind: its type is missing or `null`, or a text
that names no kind. -/
def IsUnknownObject (fields : Entries) : Prop :=
  Entries.getD fields "type" = .null ∨
    ∃ name, Entries.getD fields "type" = .str name ∧ ContentTag.names.lookup name = none

/-- **An object of no known kind can be read, whatever else is in it.** -/
theorem read_unknownObject {fields : Entries} (h : IsUnknownObject fields) :
    read (.object fields) =
      .ok (.unknown (Entries.getD fields "type").str?
        (fields.filter fun entry => entry.1 ≠ "type")) := by
  have hkind : ContentTag.ofValue? (Entries.getD fields "type") = none := by
    obtain hnull | ⟨name, hname, hunknown⟩ := h
    · rw [hnull]
      rfl
    · rw [hname]
      exact hunknown
  have htype : Schema.optional fields "type" string = .ok (Entries.getD fields "type").str? := by
    rw [IsUnknownObject] at h
    unfold Entries.getD at h ⊢
    cases hlookup : fields.lookup "type" with
    | none => exact withDefault_of_missing "type" hlookup
    | some v =>
        rw [hlookup, Option.getD_some] at h
        refine (withDefault_eq_ok_of_lookup hlookup).mpr ?_
        obtain rfl | ⟨name, rfl, -⟩ := h
        · rfl
        · rfl
  rw [read_object]
  simp only [readWith, Value.entries?, hkind, asMember, readUnknown, record, htype]
  rfl

/-- **Objects of no known kind are harmless at any depth.**  Let a document be read as a tree,
and let something stand at a position of the document that nodes of known kinds lead to.  If
it is replaced by any object whose type is missing, or `null`, or a text that names no kind,
then the document can still be read, and the tree is the same but for the node at the
position.  That node has the type of the object, and all its other fields as they are. -/
theorem read_withAt_unknownObject {v inner : Value} {position : List NodeSlot} {content : Content}
    (h : read v = .ok content) (hposition : NodeAt NodeSlot.IsOwn v position inner)
    {fields : Entries} (hfields : IsUnknownObject fields) :
    read (v.withAt (stepsTo position) (.object fields)) =
      .ok (content.withAt position (.unknown (Entries.getD fields "type").str?
        (fields.filter fun entry => entry.1 ≠ "type"))) :=
  read_withAt hposition h rfl (read_unknownObject hfields)

/-- The last word of a letter, as a choice that has a default. -/
def closingDocument : Value :=
  .object [("type", .str "composite"), ("parts", .list
    [.object [("type", .str "text"), ("value", .str "Yours ")],
     .object [("type", .str "count-switch"), ("count_variable", .str "senders"),
       ("cases", .list
         [.object [("count", .int 1),
           ("content", .object [("type", .str "text"), ("value", .str "truly")])]]),
       ("default_content", .object [("type", .str "text"), ("value", .str "all")])]])]

/-- The tree of the letter, with another node for a single sender. -/
def closing (single : Content) : Content :=
  .composite [.text "Yours ",
    .countSwitch "senders" [(.exactly 1, single)] (some (.text "all"))]

/-- A case of a choice in a part may hold an object of no known kind. -/
theorem read_closing_withAt_unknownObject :
    read closingDocument = .ok (closing (.text "truly")) ∧
      read (closingDocument.withAt (stepsTo [.item .parts 1, .case .cases 0])
        (.object [("type", .str "glyph"), ("value", .list [.null])])) =
          .ok (closing (.unknown (some "glyph") [("value", .list [.null])])) := by
  have hread : read closingDocument = .ok (closing (.text "truly")) := rfl
  have hposition : NodeAt NodeSlot.IsOwn closingDocument [.item .parts 1, .case .cases 0]
      (.object [("type", .str "text"), ("value", .str "truly")]) :=
    .inside (show _ = some ContentTag.composite from rfl) rfl rfl
      (.inside (show _ = some ContentTag.countSwitch from rfl) (.inl rfl) rfl (.here _))
  exact ⟨hread, read_withAt_unknownObject hread hposition (.inr ⟨"glyph", rfl, rfl⟩)⟩

end Content

end PromptTree
