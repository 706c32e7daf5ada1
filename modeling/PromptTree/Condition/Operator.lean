import PromptTree.Text.Cut
import PromptTree.Value.Equality
import PromptTree.Value.Text

/-!
# Operators of conditions

The tests of a value that need nothing but the value and what it is compared with.  A value
of a kind that an operator is not meant for fails its test.

## Main Definitions

* `holdsOperator` — whether a value passes the test of an operator.
-/

namespace PromptTree

namespace Value

/-- Whether a value is missing or the empty text. -/
def isBlank : Value → Bool
  | .null => true
  | .str s => s.isEmpty
  | _ => false

/-- Whether a list has an item equal to a value, or a text the text of the value in it. -/
def holds (v expected : Value) : Bool :=
  match v.items?, v.str? with
  | some items, _ => items.any fun item => item.strictEquals expected
  | none, some s => !expected.isNull && Text.contains expected.text s
  | none, none => false

/-- Whether two numbers compare in a given way. -/
def comparesAs (relation : Number → Number → Bool) (v expected : Value) : Bool :=
  match v.number?, expected.number? with
  | some a, some b => relation a b
  | _, _ => false

/-- Whether a text has the text of a value at one of its ends. -/
def hasEnd (atEnd : String → String → Bool) (v expected : Value) : Bool :=
  match v.str? with
  | some s => !expected.isNull && atEnd expected.text s
  | none => false

/-- Whether a value is a list with items. -/
def hasItems (v : Value) : Bool :=
  v.items?.any fun items => !items.isEmpty

end Value

/-- Whether a value passes the test of an operator.  No value passes an unknown one. -/
def holdsOperator (operator : String) (v expected : Value) : Bool :=
  match operator with
  | "exists" => !v.isBlank
  | "not_exists" => v.isBlank
  | "equals" => v.strictEquals expected
  | "not_equals" => !v.strictEquals expected
  | "contains" => v.holds expected
  | "starts_with" => v.hasEnd Text.startsWith expected
  | "ends_with" => v.hasEnd Text.endsWith expected
  | "greater_than" => v.comparesAs (fun a b => b.less a) expected
  | "less_than" => v.comparesAs Number.less expected
  | "has_items" => v.hasItems
  | "is_empty" => !v.isTruthy
  | _ => false

end PromptTree
