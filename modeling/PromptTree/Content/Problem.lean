import PromptTree.Value.Display

/-!
# Problems of content trees

What a check of a document can find, and where.

## Main Definitions

* `PlaceStep` — a step from a node to a part of it.
* `ProblemKind` — what is wrong, with its code and its wording.
* `Problem` — a kind and a place.
* `Problem.pathText` — the place as a path from the root.

## Design Notes

A check of a node knows only the place inside that node; the nodes above put their steps in
front.  The problems of a part are therefore the same wherever the part stands.
-/

namespace PromptTree

/-- A step from a node to a part of it: a field, or an item of one. -/
inductive PlaceStep where
  | field (label : String)
  | item (label : String) (index : Nat)
  deriving Repr, DecidableEq

/-- What is wrong. -/
inductive ProblemKind where
  | nodeNotObject (kind : String)
  | unknownType (shown : String)
  | missingField (tag field : String)
  | notList (field : String)
  | articleWithoutWord
  | unknownStyle (shown : String)
  | caseNotObject
  | optionNotObject
  | badCaseCount (shown : String)
  | caseWithoutValue
  | withoutContent
  | weightsNotList
  | weightCount (weights candidates : Nat)
  | weightNotNumber (shown : String)
  | negativeWeight (shown : String)
  | rangeNotIntegers
  | rangeNegative
  | rangeReversed (low high : Int)
  | badPickCount (shown : String)
  | badShuffleCount (shown : String)
  | withoutSource
  | severalSources (used : String)
  | conditionNotObject
  | emptyCompound (key : String)
  | conditionWithoutSource
  | withoutOperator
  | unknownOperator (shown : String)
  | withoutComparison (operator : String)
  deriving Repr, DecidableEq

namespace ProblemKind

/-- The code of a problem. -/
def code : ProblemKind → String
  | .nodeNotObject _ => "INVALID_NODE"
  | .unknownType _ => "UNKNOWN_CONTENT_TYPE"
  | .missingField _ _ => "MISSING_FIELD"
  | .notList _ => "INVALID_VALUE"
  | .articleWithoutWord => "MISSING_FIELD"
  | .unknownStyle _ => "INVALID_VALUE"
  | .caseNotObject => "INVALID_NODE"
  | .optionNotObject => "INVALID_NODE"
  | .badCaseCount _ => "INVALID_VALUE"
  | .caseWithoutValue => "MISSING_FIELD"
  | .withoutContent => "MISSING_FIELD"
  | .weightsNotList => "INVALID_VALUE"
  | .weightCount _ _ => "WEIGHT_COUNT_MISMATCH"
  | .weightNotNumber _ => "INVALID_WEIGHT"
  | .negativeWeight _ => "INVALID_WEIGHT"
  | .rangeNotIntegers => "INVALID_COUNT"
  | .rangeNegative => "INVALID_COUNT"
  | .rangeReversed _ _ => "INVALID_COUNT"
  | .badPickCount _ => "INVALID_COUNT"
  | .badShuffleCount _ => "INVALID_COUNT"
  | .withoutSource => "MISSING_FIELD"
  | .severalSources _ => "AMBIGUOUS_SOURCE"
  | .conditionNotObject => "INVALID_CONDITION"
  | .emptyCompound _ => "INVALID_CONDITION"
  | .conditionWithoutSource => "INVALID_CONDITION"
  | .withoutOperator => "MISSING_FIELD"
  | .unknownOperator _ => "UNKNOWN_OPERATOR"
  | .withoutComparison _ => "MISSING_FIELD"

/-- The problem in words. -/
def message : ProblemKind → String
  | .nodeNotObject kind => "Content node must be an object, got " ++ kind
  | .unknownType shown => "Unknown content type: " ++ shown
  | .missingField tag field => "'" ++ tag ++ "' node is missing required field '" ++ field ++ "'"
  | .notList field => "'" ++ field ++ "' must be a list"
  | .articleWithoutWord => "'article' node needs word_variable or word_content"
  | .unknownStyle shown => "Invalid article style '" ++ shown ++ "'"
  | .caseNotObject => "Case must be an object"
  | .optionNotObject => "Option must be an object"
  | .badCaseCount shown =>
    "Case count must be an integer or one of zero/one/other, got " ++ shown
  | .caseWithoutValue => "Switch case is missing required field 'value'"
  | .withoutContent => "Missing required field 'content'"
  | .weightsNotList => "weights must be a list"
  | .weightCount weights candidates =>
    toString weights ++ " weights given for " ++ toString candidates ++ " candidates"
  | .weightNotNumber shown => "Weight must be a number, got " ++ shown
  | .negativeWeight shown => "Weight must be non-negative, got " ++ shown
  | .rangeNotIntegers => "Count range needs integer min and max"
  | .rangeNegative => "Count range must be non-negative"
  | .rangeReversed low high =>
    "Count range min (" ++ toString low ++ ") is greater than max (" ++ toString high ++ ")"
  | .badPickCount shown =>
    "Count must be a non-negative integer or a min/max range, got " ++ shown
  | .badShuffleCount shown => "Shuffle count must be a non-negative integer, got " ++ shown
  | .withoutSource => "'random-value' node needs pool, pool_variable or data_type_id"
  | .severalSources used => "'random-value' node has several sources; only " ++ used ++ " is used"
  | .conditionNotObject => "Condition must be an object"
  | .emptyCompound key => "'" ++ key ++ "' must be a non-empty list of conditions"
  | .conditionWithoutSource => "Condition needs a variable, a context_key, or and/or/not"
  | .withoutOperator => "Condition is missing an operator"
  | .unknownOperator shown => "Unknown condition operator '" ++ shown ++ "'"
  | .withoutComparison operator => "Operator '" ++ operator ++ "' needs a comparison value"

end ProblemKind

/-- A problem and its place. -/
structure Problem where
  place : List PlaceStep
  kind : ProblemKind
  deriving Repr, DecidableEq

/-- A step as it stands in a path. -/
def PlaceStep.text : PlaceStep → String
  | .field label => "." ++ label
  | .item label index => "." ++ label ++ "[" ++ toString index ++ "]"

namespace Problem

/-- A problem at the node itself. -/
def here (kind : ProblemKind) : Problem :=
  ⟨[], kind⟩

/-- A problem of a part. -/
def below (step : PlaceStep) (problem : Problem) : Problem :=
  { problem with place := step :: problem.place }

/-- The place as a path from the root. -/
def pathText (problem : Problem) : String :=
  "root" ++ Text.join "" (problem.place.map PlaceStep.text)

end Problem

end PromptTree
