import PromptTree.Content.Basic

/-!
# Writing content trees

The document of a tree.  Fields without a value are left out; those with a default are
always written.

## Main Definitions

* `Content.dump` — the document of a tree.
-/

namespace PromptTree

open Schema

/-- The value that a case count is written as. -/
def CaseCount.dump : CaseCount → Value
  | .exactly n => .int n
  | .zero => .str "zero"
  | .one => .str "one"
  | .other => .str "other"

/-- The value that a number to pick is written as. -/
def PickCount.dump : PickCount → Value
  | .exactly n => .int n
  | .between low high => .object [("min", .int low), ("max", .int high)]

/-- The fields of phrases with the values they are written with. -/
def PluralForms.fields (forms : PluralForms) : List (String × Option Value) :=
  [("zero", forms.zero.map .str), ("one", some (.str forms.one)), ("two", forms.two.map .str),
   ("few", forms.few.map .str), ("many", forms.many.map .str),
   ("other", some (.str forms.other))]

namespace Content

/-- The object of a node of a kind. -/
def node (tag : ContentTag) (fields : List (String × Option Value)) : Value :=
  recordOf (("type", some (.str tag.name)) :: fields)

mutual

/-- The document of a tree. -/
def dump : Content → Value
  | .text value => node .text [("value", some (.str value))]
  | .variable id path format =>
    node .variable
      [("variable_id", some (.str id)), ("path", path.map .str), ("format", format.map Format.dump)]
  | .sectionRef id => node .sectionRef [("section_id", some (.str id))]
  | .composite parts => node .composite [("parts", some (.list (dumps parts)))]
  | .conditional condition yes no =>
    node .conditional
      [("condition", some condition.dump), ("then_content", some (dump yes)),
       ("else_content", dump? no)]
  | .list variableId separatorSet template =>
    node .list
      [("variable_id", some (.str variableId)), ("separator_set_id", some (.str separatorSet)),
       ("item_template", dump? template)]
  | .context key fallback =>
    node .context [("context_key", some (.str key)), ("fallback", dump? fallback)]
  | .plural countVariable forms =>
    node .plural (("count_variable", some (.str countVariable)) :: forms.fields)
  | .article wordVariable word style capitalize =>
    node .article
      [("word_variable", wordVariable.map .str), ("word_content", dump? word),
       ("style", some (.str style.name)), ("capitalize", some (.bool capitalize))]
  | .countSwitch countVariable cases otherwise =>
    node .countSwitch
      [("count_variable", some (.str countVariable)), ("cases", some (.list (dumpCounts cases))),
       ("default_content", dump? otherwise)]
  | .switch variableId cases otherwise =>
    node .switch
      [("variable_id", some (.str variableId)), ("cases", some (.list (dumpValues cases))),
       ("default_content", dump? otherwise)]
  | .pickOne candidates weights =>
    node .pickOne
      [("candidates", some (.list (dumps candidates))),
       ("weights", weights.map fun ws => .list (ws.map .float))]
  | .pickMany candidates count separatorSet allowDuplicates =>
    node .pickMany
      [("candidates", some (.list (dumps candidates))), ("count", some count.dump),
       ("separator_set_id", separatorSet.map .str),
       ("allow_duplicates", some (.bool allowDuplicates))]
  | .randomValue pool poolVariable dataType format =>
    node .randomValue
      [("pool", pool.map Value.ofStrings), ("pool_variable", poolVariable.map .str),
       ("data_type_id", dataType.map .str), ("format", format.map Format.dump)]
  | .weightedPick options =>
    node .weightedPick [("options", some (.list (dumpOptions options)))]
  | .shuffle variableId count separatorSet template =>
    node .shuffle
      [("variable_id", some (.str variableId)), ("count", count.map .int),
       ("separator_set_id", separatorSet.map .str), ("item_template", dump? template)]
  | .unknown tag fields =>
    recordOf (("type", tag.map .str) ::
      fields.map fun (name, v) => (name, if v.isNull then none else some (portable v)))

/-- The document of a tree that may be missing. -/
def dump? : Option Content → Option Value
  | none => none
  | some content => some (dump content)

/-- The documents of trees. -/
def dumps : List Content → List Value
  | [] => []
  | content :: rest => dump content :: dumps rest

/-- The documents of cases by count. -/
def dumpCounts : List (CaseCount × Content) → List Value
  | [] => []
  | (count, content) :: rest =>
    .object [("count", count.dump), ("content", dump content)] :: dumpCounts rest

/-- The documents of cases by value. -/
def dumpValues : List (CaseValue × Content) → List Value
  | [] => []
  | (value, content) :: rest =>
    .object [("value", value.toValue), ("content", dump content)] :: dumpValues rest

/-- The documents of options. -/
def dumpOptions : List (Float × Content) → List Value
  | [] => []
  | (weight, content) :: rest =>
    .object [("weight", .float weight), ("content", dump content)] :: dumpOptions rest

end

end Content

end PromptTree
