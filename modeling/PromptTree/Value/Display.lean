import PromptTree.Numeral.Decimal
import PromptTree.Text.Cut
import PromptTree.Text.Quoted
import PromptTree.Value.Basic

/-!
# Texts of values

Three ways to show a value in a text that is not JSON.

## Main Definitions

* `Value.literal` — the value as a literal, texts in quotes: the form of offending
  values in messages.
* `Value.plain` — a text as it is, any other value as its literal.
* `Number.text` — a count: whole floating point numbers without their point.
-/

namespace PromptTree

/-- The literal of a floating point number. -/
def floatLiteral (x : Float) : String :=
  Numeral.plainStyle.write "inf" "nan" x

namespace Value

mutual

/-- The value as a literal. -/
def literal : Value → String
  | .null => "None"
  | .bool b => if b then "True" else "False"
  | .int n => toString n
  | .float x => floatLiteral x
  | .str s => Text.quoted s
  | .list items => "[" ++ Text.join ", " (literals items) ++ "]"
  | .tuple [item] => "(" ++ literal item ++ ",)"
  | .tuple items => "(" ++ Text.join ", " (literals items) ++ ")"
  | .object entries => "\x7b" ++ Text.join ", " (entryLiterals entries) ++ "\x7d"

/-- The literals of values. -/
def literals : List Value → List String
  | [] => []
  | v :: rest => literal v :: literals rest

/-- The literals of entries. -/
def entryLiterals : List (String × Value) → List String
  | [] => []
  | (key, v) :: rest => (Text.quoted key ++ ": " ++ literal v) :: entryLiterals rest

end

/-- A text as it is, any other value as its literal. -/
def plain : Value → String
  | .str s => s
  | v => v.literal

end Value

/-- The text of a number: a whole one has no point. -/
def Number.text : Number → String
  | .int n => toString n
  | .float x =>
    match Numeral.integer? x with
    | some n => toString n
    | none => floatLiteral x

end PromptTree
