import PromptTree.Schema.Dump
import PromptTree.Schema.Record
import PromptTree.Separator.Template

/-!
# Separator rules

How to join one, two or many items into a text: three tiers, since "X", "X and Y" and
"X, Y, and Z" differ in more than a separator.

## Main Definitions

* `SeparatorRules` — the rules of all three tiers.
* `SeparatorRules.join` — items joined by rules.
* `SeparatorRules.read`, `SeparatorRules.dump` — rules from a document and back.
-/

namespace PromptTree

open Schema Separator

/-- The tier of two items. -/
structure PairRule where
  separator : String
  template : String
  deriving Repr, DecidableEq

/-- The tier of three items and more. -/
structure ManyRule where
  itemSeparator : String
  lastSeparator : String
  template : String
  /-- Whether items are numbered on lines of their own instead. -/
  numbered : Bool := false
  deriving Repr, DecidableEq

/-- The rules of all tiers. -/
structure SeparatorRules where
  /-- The template of a single item. -/
  single : String
  pair : PairRule
  many : ManyRule
  deriving Repr, DecidableEq

namespace SeparatorRules

/-- Lines with a number before each item. -/
def numberedFrom (number : Nat) : List String → List String
  | [] => []
  | item :: rest => (toString number ++ ". " ++ item) :: numberedFrom (number + 1) rest

/-- The filling of the template for many items, the last one apart. -/
def manyFilling (rule : ManyRule) (front : List String) (last : String) : Slot → Option String
  | .items => some (Text.join rule.itemSeparator front)
  | .lastSeparator => some rule.lastSeparator
  | .last => some last
  | _ => none

/-- Items joined by rules. -/
def join (rules : SeparatorRules) : List String → String
  | [] => ""
  | [item] =>
    fill rules.single fun
      | .item => some item
      | _ => none
  | [first, second] =>
    fill rules.pair.template fun
      | .first => some first
      | .separator => some rules.pair.separator
      | .second => some second
      | _ => none
  | items =>
    if rules.many.numbered then Text.join "\n" (numberedFrom 1 items)
    else fill rules.many.template (manyFilling rules.many items.dropLast (items.getLastD ""))

/-- The template of a single item in a document. -/
def readSingle : Reader String :=
  record "SingleItemRule" fun entries => required entries "template" string

/-- The rule of two items in a document. -/
def readPair : Reader PairRule :=
  record "TwoItemRule" fun entries =>
    PairRule.mk <$> required entries "separator" string <*> required entries "template" string

/-- The rule of many items in a document. -/
def readMany : Reader ManyRule :=
  record "ManyItemRule" fun entries =>
    ManyRule.mk <$> required entries "item_separator" string
      <*> required entries "last_separator" string
      <*> required entries "template" string
      <*> withDefault entries "numbered" false boolean

/-- Rules of a document. -/
def read : Reader SeparatorRules :=
  record "SeparatorRules" fun entries =>
    SeparatorRules.mk <$> required entries "single" readSingle
      <*> required entries "two" readPair
      <*> required entries "many" readMany

/-- The document of rules. -/
def dump (rules : SeparatorRules) : Value :=
  .object
    [("single", .object [("template", .str rules.single)]),
     ("two", .object [("separator", .str rules.pair.separator),
        ("template", .str rules.pair.template)]),
     ("many", .object [("item_separator", .str rules.many.itemSeparator),
        ("last_separator", .str rules.many.lastSeparator),
        ("template", .str rules.many.template), ("numbered", .bool rules.many.numbered)])]

end SeparatorRules

end PromptTree
