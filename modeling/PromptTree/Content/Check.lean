import PromptTree.Content.Dump
import PromptTree.Content.Problem
import PromptTree.Value.Writing

/-!
# Checking content trees

Every structural problem of a document that is meant to be a content tree, found without
any bindings and without reading it.

## Main Definitions

* `checkCondition` — the problems of a condition.
* `checkNodeWith` — the problems of a node, given those of the nodes below it.
* `checkWithin` — the problems of a document, with room for so many nodes inside each other.
* `checkContent` — the problems of a whole document.
* `Content.check` — the problems of a tree that was read: those of its document.

## Design Notes

A check fails, rather than finding a problem, in three cases: the count of a case is a list or
an object, or a tuple that holds one, for such a value cannot be looked up among words; the
message of a problem shows a value that cannot be written; or nodes are nested so deep that
there is no room to go into them.

`checkContent` has as much room as the document takes.  Conditions are gone into with as much
room as they take in every check; a document has the depth of the conditions in it.
-/

namespace PromptTree

/-- The problems found, unless the check failed. -/
abbrev Findings := Except Failure (List Problem)

/-- The failure to go into a node or a condition. -/
def noRoom : Failure :=
  .nestedTooDeeply ""

namespace Findings

/-- The problems of all, in order, up to the first failure. -/
def gather : List Findings → Findings
  | [] => .ok []
  | .error failure :: _ => .error failure
  | .ok problems :: rest => (gather rest).map (problems ++ ·)

/-- The problems of a part. -/
def below (step : PlaceStep) (findings : Findings) : Findings :=
  findings.map (·.map (Problem.below step))

/-- A single problem at the node itself. -/
def found (kind : ProblemKind) : Findings :=
  .ok [.here kind]

/-- A single problem of a field. -/
def foundAt (label : String) (kind : ProblemKind) : Findings :=
  below (.field label) (found kind)

/-- Findings with a message that shows a value. -/
def showing (v : Value) (findings : Findings) : Findings :=
  v.writing.bind fun _ => findings

end Findings

open Findings

/-- The findings of items, each below its own step. -/
def checkItems (label : String) (check : Value → Findings) (index : Nat) :
    List Value → List Findings
  | [] => []
  | v :: rest => below (.item label index) (check v) :: checkItems label check (index + 1) rest

/-! ## Conditions -/

/-- The operators of conditions. -/
def conditionOperators : List String :=
  ["exists", "not_exists", "equals", "not_equals", "contains", "starts_with", "ends_with",
   "greater_than", "less_than", "has_items", "is_empty", "matches"]

/-- The operators that compare with no value. -/
def valuelessOperators : List String :=
  ["exists", "not_exists", "has_items", "is_empty"]

/-- The problems of a test of one value. -/
def checkTest (entries : Entries) : Findings :=
  let source :=
    if (Entries.getD entries "variable").isTruthy || (Entries.getD entries "context_key").isTruthy
    then .ok []
    else found .conditionWithoutSource
  let operator :=
    match Entries.getD entries "operator" with
    | .null => found .withoutOperator
    | v =>
      match v.str?.filter conditionOperators.contains with
      | none => showing v (foundAt "operator" (.unknownOperator v.plain))
      | some name =>
        if !valuelessOperators.contains name && (Entries.getD entries "value").isNull then
          found (.withoutComparison name)
        else .ok []
  gather [source, operator]

/-- The problems of conditions under a key that joins them. -/
def checkJoined (part : Value → Findings) (key : String) (v : Value) : Findings :=
  match v with
  | .null => .ok []
  | .list (first :: rest) => gather (checkItems key part 0 (first :: rest))
  | _ => foundAt key (.emptyCompound key)

/-- The problems of a condition, given those of the conditions in it. -/
def checkConditionWith (part : Value → Findings) (v : Value) : Findings :=
  match v with
  | .object entries =>
    let all := Entries.getD entries "and"
    let any := Entries.getD entries "or"
    let negated := Entries.getD entries "not"
    gather
      [checkJoined part "and" all,
       checkJoined part "or" any,
       if negated.isNull then .ok [] else below (.field "not") (part negated),
       if all.isNull && any.isNull && negated.isNull then checkTest entries else .ok []]
  | _ => found .conditionNotObject

/-- The problems of a condition, with room for so many inside each other. -/
def checkConditionWithin : Nat → Value → Findings
  | 0, _ => .error noRoom
  | room + 1, v => checkConditionWith (checkConditionWithin room) v

/-- The problems of a condition. -/
def checkCondition (v : Value) : Findings :=
  checkConditionWithin (v.depth + 1) v

/-! ## Nodes -/

/-- The fields that a node of a kind has to have. -/
def ContentTag.requiredFields : ContentTag → List String
  | .text => ["value"]
  | .variable => ["variable_id"]
  | .sectionRef => ["section_id"]
  | .composite => ["parts"]
  | .conditional => ["condition", "then_content"]
  | .list => ["variable_id", "separator_set_id"]
  | .context => ["context_key"]
  | .plural => ["count_variable", "one", "other"]
  | .article => []
  | .countSwitch => ["count_variable", "cases"]
  | .switch => ["variable_id", "cases"]
  | .pickOne => ["candidates"]
  | .pickMany => ["candidates", "count"]
  | .randomValue => []
  | .weightedPick => ["options"]
  | .shuffle => ["variable_id"]

/-- The fields that hold a single node, with their labels in paths. -/
def childFields : List (String × String) :=
  [("then_content", "then"), ("else_content", "else"), ("item_template", "item_template"),
   ("fallback", "fallback"), ("word_content", "word_content"), ("default_content", "default")]

/-- A field that holds a list: its items, or the problem that it holds none. -/
def listField (entries : Entries) (name : String) : List Value × Findings :=
  match Entries.getD entries name with
  | .null => ([], .ok [])
  | .list items => (items, .ok [])
  | _ => ([], foundAt name (.notList name))

/-- The problems of a field that holds a list. -/
def checkListField (entries : Entries) (name : String) (check : Value → Findings) : Findings :=
  let (items, findings) := listField entries name
  gather (findings :: checkItems name check 0 items)

/-- The problems of the content of a case or an option. -/
def checkCaseContent (node : Value → Findings) (entries : Entries) : Findings :=
  match Entries.getD entries "content" with
  | .null => found .withoutContent
  | v => below (.field "content") (node v)

mutual

/-- The kind of the first value inside a value that cannot be looked up among words. -/
def unhashable? : Value → Option String
  | .list _ => some "list"
  | .object _ => some "dict"
  | .tuple items => unhashableItem? items
  | _ => none

/-- The kind of the first value inside values that cannot be looked up among words. -/
def unhashableItem? : List Value → Option String
  | [] => none
  | v :: rest => (unhashable? v).orElse fun _ => unhashableItem? rest

end

/-- The problems of the count of a case. -/
def checkCaseCount (v : Value) : Findings :=
  match v with
  | .int _ => .ok []
  | v =>
    match unhashable? v with
    | some kind => .error (.unhashable kind)
    | none =>
      if v.str?.any ["zero", "one", "other"].contains then .ok []
      else showing v (foundAt "count" (.badCaseCount v.literal))

/-- The problems of a case of a choice by count. -/
def checkCountCase (node : Value → Findings) (v : Value) : Findings :=
  match v with
  | .object entries =>
    gather [checkCaseCount (Entries.getD entries "count"), checkCaseContent node entries]
  | _ => found .caseNotObject

/-- The problems of a case of a choice by value. -/
def checkValueCase (node : Value → Findings) (v : Value) : Findings :=
  match v with
  | .object entries =>
    gather
      [if (Entries.getD entries "value").isNull then found .caseWithoutValue else .ok [],
       checkCaseContent node entries]
  | _ => found .caseNotObject

/-- The problems of a weight. -/
def checkWeight (v : Value) : Findings :=
  match v.number? with
  | none => showing v (found (.weightNotNumber v.literal))
  | some n => if n.less (.int 0) then showing v (found (.negativeWeight v.literal)) else .ok []

/-- The problems of an option with a weight. -/
def checkOption (node : Value → Findings) (v : Value) : Findings :=
  match v with
  | .object entries =>
    gather
      [below (.field "weight") (checkWeight (Entries.getD entries "weight")),
       checkCaseContent node entries]
  | _ => found .optionNotObject

/-- The problems of the weights for a number of candidates. -/
def checkWeights (candidates : Nat) (v : Value) : Findings :=
  match v with
  | .null => .ok []
  | .list weights =>
    gather
      ((if weights.length = candidates then .ok []
        else foundAt "weights" (.weightCount weights.length candidates)) ::
        checkItems "weights" checkWeight 0 weights)
  | _ => foundAt "weights" .weightsNotList

/-- The problems of a number to pick. -/
def checkPickCount (v : Value) : Findings :=
  match v with
  | .null => .ok []
  | .object entries =>
    match Entries.getD entries "min", Entries.getD entries "max" with
    | .int low, .int high =>
      if low < 0 || high < 0 then foundAt "count" .rangeNegative
      else if high < low then
        showing (.int low) (showing (.int high) (foundAt "count" (.rangeReversed low high)))
      else .ok []
    | _, _ => foundAt "count" .rangeNotIntegers
  | .int n =>
    if n < 0 then showing (.int n) (foundAt "count" (.badPickCount (toString n))) else .ok []
  | v => showing v (foundAt "count" (.badPickCount v.literal))

/-- The problems of the number of items to keep of a shuffled list. -/
def checkShuffleCount (v : Value) : Findings :=
  match v with
  | .null => .ok []
  | .int n =>
    if n < 0 then showing (.int n) (foundAt "count" (.badShuffleCount (toString n))) else .ok []
  | v => showing v (foundAt "count" (.badShuffleCount v.literal))

/-- The problems of the word and the style of an article. -/
def checkArticle (entries : Entries) : Findings :=
  gather
    [if (Entries.getD entries "word_variable").isTruthy
        || !(Entries.getD entries "word_content").isNull then .ok []
      else found .articleWithoutWord,
     match Entries.getD entries "style" with
     | .null => .ok []
     | v =>
       if v.str?.any fun name => (ArticleStyle.names.lookup name).isSome then .ok []
       else showing v (foundAt "style" (.unknownStyle v.plain))]

/-- The problems of the sources of a random value. -/
def checkSources (entries : Entries) : Findings :=
  let sources := ["pool", "pool_variable", "data_type_id"].filter fun name =>
    !(Entries.getD entries name).isNull
  match sources with
  | [] => found .withoutSource
  | [_] => .ok []
  | used :: _ => found (.severalSources used)

/-- The problems that only a node of a kind can have, given those of the nodes below it. -/
def checkKind (node : Value → Findings) (entries : Entries) : ContentTag → Findings
  | .conditional =>
    match Entries.getD entries "condition" with
    | .null => .ok []
    | v => below (.field "condition") (checkCondition v)
  | .article => checkArticle entries
  | .countSwitch => checkListField entries "cases" (checkCountCase node)
  | .switch => checkListField entries "cases" (checkValueCase node)
  | .pickOne =>
    gather
      [checkListField entries "candidates" node,
       checkWeights (listField entries "candidates").1.length (Entries.getD entries "weights")]
  | .pickMany =>
    gather
      [checkListField entries "candidates" node, checkPickCount (Entries.getD entries "count")]
  | .randomValue => checkSources entries
  | .weightedPick => checkListField entries "options" (checkOption node)
  | .shuffle => checkShuffleCount (Entries.getD entries "count")
  | _ => .ok []

/-- The problems of a single node in a field. -/
def checkChild (node : Value → Findings) (entries : Entries) (field label : String) : Findings :=
  match Entries.getD entries field with
  | .null => .ok []
  | v => below (.field label) (node v)

/-- The problems of a node, given those of the nodes below it: required fields first, then
single nodes and parts, whatever the kind, then what the kind asks. -/
def checkNodeWith (node : Value → Findings) (v : Value) : Findings :=
  match v with
  | .object entries =>
    let type := Entries.getD entries "type"
    match ContentTag.ofValue? type with
    | none => showing type (found (.unknownType type.plain))
    | some tag =>
      let missing := tag.requiredFields.filter fun name => (Entries.getD entries name).isNull
      gather
        [.ok (missing.map fun name => .here (.missingField tag.name name)),
         gather (childFields.map fun (field, label) => checkChild node entries field label),
         checkListField entries "parts" node,
         checkKind node entries tag]
  | v => found (.nodeNotObject v.kindName)

/-- The problems of a document, with room for so many nodes inside each other. -/
def checkWithin : Nat → Value → Findings
  | 0, _ => .error noRoom
  | room + 1, v => checkNodeWith (checkWithin room) v

/-- The problems of a document. -/
def checkContent (v : Value) : Findings :=
  checkWithin (v.depth + 1) v

/-- The problems of a tree that was read. -/
def Content.check (content : Content) : Findings :=
  checkContent content.dump

end PromptTree
