import PromptTree.Condition.Basic
import PromptTree.Format.Basic
import PromptTree.Grammar.Article
import PromptTree.Grammar.Plural

/-!
# Content trees

A prompt is a tree of nodes: texts and bound values, references to stored sections,
choices by conditions and counts, and random selections.

## Main Definitions

* `Content` — a node with everything below it.
* `ContentTag` — the kinds of nodes, and their names in documents.
* `CaseCount`, `CaseValue`, `PickCount` — what cases are compared with; how many to pick.
* `Content.children` — the nodes right below a node.

## Design Notes

A node of a kind that is not known is kept with all its fields, so that a document can be
read, checked and written although a part of it will render as nothing.
-/

namespace PromptTree

/-- The kinds of nodes that are known. -/
inductive ContentTag where
  | text
  | variable
  | sectionRef
  | composite
  | conditional
  | list
  | context
  | plural
  | article
  | countSwitch
  | switch
  | pickOne
  | pickMany
  | randomValue
  | weightedPick
  | shuffle
  deriving Repr, DecidableEq

namespace ContentTag

/-- The names of the kinds in documents. -/
def names : List (String × ContentTag) :=
  [("text", .text), ("variable", .variable), ("section-ref", .sectionRef),
   ("composite", .composite), ("conditional", .conditional), ("list", .list),
   ("context", .context), ("plural", .plural), ("article", .article),
   ("count-switch", .countSwitch), ("switch", .switch), ("pick-one", .pickOne),
   ("pick-many", .pickMany), ("random-value", .randomValue),
   ("weighted-pick", .weightedPick), ("shuffle", .shuffle)]

/-- The name of a kind in documents. -/
def name : ContentTag → String
  | .text => "text"
  | .variable => "variable"
  | .sectionRef => "section-ref"
  | .composite => "composite"
  | .conditional => "conditional"
  | .list => "list"
  | .context => "context"
  | .plural => "plural"
  | .article => "article"
  | .countSwitch => "count-switch"
  | .switch => "switch"
  | .pickOne => "pick-one"
  | .pickMany => "pick-many"
  | .randomValue => "random-value"
  | .weightedPick => "weighted-pick"
  | .shuffle => "shuffle"

/-- The kind of a value that names one. -/
def ofValue? (v : Value) : Option ContentTag :=
  v.str?.bind (names.lookup ·)

end ContentTag

/-- The count that a case stands for: a number, or the words for none, one and more. -/
inductive CaseCount where
  | exactly (n : Int)
  | zero
  | one
  | other
  deriving Repr, DecidableEq

/-- The value that a case stands for. -/
inductive CaseValue where
  | bool (b : Bool)
  | int (n : Int)
  | float (x : Float)
  | str (s : String)
  deriving Repr

/-- How many to pick: a number, or any number of a range. -/
inductive PickCount where
  | exactly (n : Int)
  | between (low high : Nat)
  deriving Repr, DecidableEq

/-- A node. -/
inductive Content where
  | text (value : String)
  | variable (id : String) (path : Option String) (format : Option Format)
  | sectionRef (id : String)
  | composite (parts : List Content)
  | conditional (condition : Condition) (yes : Content) (no : Option Content)
  | list (variableId separatorSet : String) (template : Option Content)
  | context (key : String) (fallback : Option Content)
  | plural (countVariable : String) (forms : PluralForms)
  | article (wordVariable : Option String) (word : Option Content) (style : ArticleStyle)
      (capitalize : Bool)
  | countSwitch (countVariable : String) (cases : List (CaseCount × Content))
      (otherwise : Option Content)
  | switch (variableId : String) (cases : List (CaseValue × Content))
      (otherwise : Option Content)
  | pickOne (candidates : List Content) (weights : Option (List Float))
  | pickMany (candidates : List Content) (count : PickCount) (separatorSet : Option String)
      (allowDuplicates : Bool)
  | randomValue (pool : Option (List String)) (poolVariable dataType : Option String)
      (format : Option Format)
  | weightedPick (options : List (Float × Content))
  | shuffle (variableId : String) (count : Option Int) (separatorSet : Option String)
      (template : Option Content)
  /-- A node of no known kind: its tag, if it has one, and its other fields. -/
  | unknown (tag : Option String) (fields : List (String × Value))
  deriving Inhabited

namespace CaseValue

/-- The value. -/
def toValue : CaseValue → Value
  | .bool b => .bool b
  | .int n => .int n
  | .float x => .float x
  | .str s => .str s

end CaseValue

namespace Content

/-- The kind of a node. -/
def tag? : Content → Option ContentTag
  | .text _ => some .text
  | .variable _ _ _ => some .variable
  | .sectionRef _ => some .sectionRef
  | .composite _ => some .composite
  | .conditional _ _ _ => some .conditional
  | .list _ _ _ => some .list
  | .context _ _ => some .context
  | .plural _ _ => some .plural
  | .article _ _ _ _ => some .article
  | .countSwitch _ _ _ => some .countSwitch
  | .switch _ _ _ => some .switch
  | .pickOne _ _ => some .pickOne
  | .pickMany _ _ _ _ => some .pickMany
  | .randomValue _ _ _ _ => some .randomValue
  | .weightedPick _ => some .weightedPick
  | .shuffle _ _ _ _ => some .shuffle
  | .unknown _ _ => none

/-- The nodes right below a node. -/
def children : Content → List Content
  | .composite parts => parts
  | .conditional _ yes no => yes :: no.toList
  | .list _ _ template => template.toList
  | .context _ fallback => fallback.toList
  | .article _ word _ _ => word.toList
  | .countSwitch _ cases otherwise => cases.map Prod.snd ++ otherwise.toList
  | .switch _ cases otherwise => cases.map Prod.snd ++ otherwise.toList
  | .pickOne candidates _ => candidates
  | .pickMany candidates _ _ _ => candidates
  | .weightedPick options => options.map Prod.snd
  | .shuffle _ _ _ template => template.toList
  | _ => []

end Content

end PromptTree
