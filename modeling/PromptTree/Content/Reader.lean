import PromptTree.Content.Basic

/-!
# Reading content trees

A node is an object whose `type` names its kind; everything else is read field by field as
that kind asks.  Whether a node can be read depends on its own kind and fields, never on
what surrounds it.

## Main Definitions

* `Content.readWith` — a node, given how the nodes below it are read.
* `Content.read` — a whole tree.

## Design Notes

The depth of a document bounds the depth of the tree read from it, so the reader of the
nodes below is one for documents of a smaller depth.

A guard that refuses documents nested a few hundred levels deep is left out: here they are read.
-/

namespace PromptTree

open Schema

/-- The count of a case: an integer, or a word. -/
def CaseCount.read : Reader CaseCount :=
  orElse (asMember "int" fun v => (integer v).map .exactly)
    (asMember "literal['zero','one','other']"
      (oneOf [("zero", .zero), ("one", .one), ("other", .other)]))

/-- The value of a case: a boolean, a number or a text, each as it is. -/
def CaseValue.read : Reader CaseValue
  | .bool b => .ok (.bool b)
  | .int n => .ok (.int n)
  | .float x => .ok (.float x)
  | .str s => .ok (.str s)
  | v => .faulty
      [⟨[.field "bool"], .notBoolean, v⟩, ⟨[.field "int"], .notInteger, v⟩,
       ⟨[.field "float"], .notNumber, v⟩, ⟨[.field "str"], .notString, v⟩]

/-- A range of numbers to pick. -/
def PickCount.readRange : Reader PickCount := fun v =>
  let bounds := record "CountRange" (fun entries =>
    Prod.mk <$> required entries "min" (atLeast 0) <*> required entries "max" (atLeast 0)) v
  bounds.andThen fun (low, high) =>
    if high < low then .fail (.reversedRange low high) v else .ok (.between low.toNat high.toNat)

/-- How many to pick: an integer, or a range. -/
def PickCount.read : Reader PickCount :=
  orElse (asMember "int" fun v => (integer v).map .exactly)
    (asMember "function-after[validate_range(), CountRange]" readRange)

/-- The phrases of counts, with the variable that holds the count. -/
def PluralForms.readEntries (entries : Entries) : Checked (String × PluralForms) :=
  (fun _ countVariable zero one two few many other =>
      (countVariable, PluralForms.mk zero one two few many other))
    <$> withDefault entries "type" .plural (oneOf [("plural", ContentTag.plural)])
    <*> required entries "count_variable" string
    <*> optional entries "zero" string
    <*> required entries "one" string
    <*> optional entries "two" string
    <*> optional entries "few" string
    <*> optional entries "many" string
    <*> required entries "other" string

/-- The phrases of counts of a document. -/
def PluralForms.read : Reader PluralForms :=
  record "PluralContent" fun entries => (PluralForms.readEntries entries).map Prod.snd

namespace Content

/-- A case of a choice by count. -/
def readCountCase (node : Reader Content) : Reader (CaseCount × Content) :=
  record "CountCase" fun entries =>
    Prod.mk <$> required entries "count" CaseCount.read <*> required entries "content" node

/-- A case of a choice by value. -/
def readValueCase (node : Reader Content) : Reader (CaseValue × Content) :=
  record "SwitchCase" fun entries =>
    Prod.mk <$> required entries "value" CaseValue.read <*> required entries "content" node

/-- An option with a weight. -/
def readOption (node : Reader Content) : Reader (Float × Content) :=
  record "WeightedOption" fun entries =>
    Prod.mk <$> required entries "weight" number <*> required entries "content" node

/-- The fields of a node of a kind, given how the nodes below it are read. -/
def readFields (node : Reader Content) (entries : Entries) : ContentTag → Checked Content
  | .text => Content.text <$> required entries "value" string
  | .variable =>
    Content.variable <$> required entries "variable_id" string
      <*> optional entries "path" string
      <*> optional entries "format" Format.read
  | .sectionRef => Content.sectionRef <$> required entries "section_id" string
  | .composite => Content.composite <$> withDefault entries "parts" [] (Schema.list node)
  | .conditional =>
    Content.conditional <$> required entries "condition" Condition.read
      <*> required entries "then_content" node
      <*> optional entries "else_content" node
  | .list =>
    Content.list <$> required entries "variable_id" string
      <*> required entries "separator_set_id" string
      <*> optional entries "item_template" node
  | .context =>
    Content.context <$> required entries "context_key" string
      <*> optional entries "fallback" node
  | .plural =>
    (PluralForms.readEntries entries).map fun (countVariable, forms) =>
      .plural countVariable forms
  | .article =>
    Content.article <$> optional entries "word_variable" string
      <*> optional entries "word_content" node
      <*> withDefault entries "style" .indefinite (oneOf ArticleStyle.names)
      <*> withDefault entries "capitalize" false boolean
  | .countSwitch =>
    Content.countSwitch <$> required entries "count_variable" string
      <*> withDefault entries "cases" [] (Schema.list (readCountCase node))
      <*> optional entries "default_content" node
  | .switch =>
    Content.switch <$> required entries "variable_id" string
      <*> withDefault entries "cases" [] (Schema.list (readValueCase node))
      <*> optional entries "default_content" node
  | .pickOne =>
    Content.pickOne <$> withDefault entries "candidates" [] (Schema.list node)
      <*> optional entries "weights" (Schema.list number)
  | .pickMany =>
    Content.pickMany <$> withDefault entries "candidates" [] (Schema.list node)
      <*> required entries "count" PickCount.read
      <*> optional entries "separator_set_id" string
      <*> withDefault entries "allow_duplicates" false boolean
  | .randomValue =>
    Content.randomValue <$> optional entries "pool" (Schema.list string)
      <*> optional entries "pool_variable" string
      <*> optional entries "data_type_id" string
      <*> optional entries "format" Format.read
  | .weightedPick =>
    Content.weightedPick <$> withDefault entries "options" [] (Schema.list (readOption node))
  | .shuffle =>
    Content.shuffle <$> required entries "variable_id" string
      <*> optional entries "count" integer
      <*> optional entries "separator_set_id" string
      <*> optional entries "item_template" node

/-- A node of no known kind. -/
def readUnknown : Reader Content :=
  record "UnknownContent" fun entries =>
    (optional entries "type" string).map fun tag =>
      .unknown tag (entries.filter fun entry => entry.1 ≠ "type")

/-- A node, given how the nodes below it are read.  Its kind stands in the places of its
faults. -/
def readWith (node : Reader Content) : Reader Content := fun v =>
  match v.entries? with
  | some entries =>
    match ContentTag.ofValue? (Entries.getD entries "type") with
    | some tag => (readFields node entries tag).below (.field tag.name)
    | none => asMember "unknown" readUnknown v
  | none => asMember "unknown" readUnknown v

/-- A tree of a document nested up to a depth. -/
def readWithin : Nat → Reader Content
  | 0, v => asMember "unknown" readUnknown v
  | depth + 1, v => readWith (readWithin depth) v

/-- The tree of a document. -/
def read : Reader Content := fun v =>
  readWithin (v.depth + 1) v

end Content

end PromptTree
