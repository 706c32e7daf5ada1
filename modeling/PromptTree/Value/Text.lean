import PromptTree.Json.Printer
import PromptTree.Value.Display

/-!
# The text of a bound value

How a value appears in a rendered prompt: booleans in lower case, whole numbers
without a point, lists with commas between their items, objects as JSON.

## Main Definitions

* `Value.text` — the text of a value.

## Design Notes

Every value has a text here, whatever the size of its integers and however deep it is nested.  An
integer of too many digits has none in a run: what may come to one asks whether the value can be
written before it takes the text (`Value.writing`).  In renderings of texts with variables this
is left out: bindings that were read have no such integers.
-/

namespace PromptTree.Value

mutual

/-- The text of a value. -/
def text : Value → String
  | .null => ""
  | .bool b => if b then "true" else "false"
  | .int n => toString n
  | .float x => (Number.float x).text
  | .str s => s
  | .list items => Text.join "," (texts items)
  | .tuple items => Text.join "," (texts items)
  | .object entries => Json.line false (.object entries)

/-- The texts of values. -/
def texts : List Value → List String
  | [] => []
  | v :: rest => text v :: texts rest

end

end PromptTree.Value
