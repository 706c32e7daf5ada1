import PromptTree.Value.Basic
import PromptTree.Numeral.Dyadic

/-!
# Writing records

The documents of definitions: fields that are missing are left out, and values of any
shape are made fit for JSON.

## Main Definitions

* `present` — the entries of the fields that are there.
* `portable` — a value as JSON can carry it.
-/

namespace PromptTree.Schema

/-- The entries of the fields that are there, in order. -/
def present (fields : List (String × Option Value)) : Entries :=
  fields.filterMap fun (name, v) => v.map fun v => (name, v)

/-- The object of the fields that are there. -/
def recordOf (fields : List (String × Option Value)) : Value :=
  .object (present fields)

mutual

/-- A value as JSON can carry it: a tuple becomes a list, and a number that is not finite
becomes `null`. -/
def portable : Value → Value
  | .float x =>
    match Numeral.decode x with
    | .finite _ => .float x
    | _ => .null
  | .list items => .list (portableItems items)
  | .tuple items => .list (portableItems items)
  | .object entries => .object (portableEntries entries)
  | v => v

/-- Values as JSON can carry them. -/
def portableItems : List Value → List Value
  | [] => []
  | v :: rest => portable v :: portableItems rest

/-- Entries as JSON can carry them. -/
def portableEntries : List (String × Value) → List (String × Value)
  | [] => []
  | (key, v) :: rest => (key, portable v) :: portableEntries rest

end

end PromptTree.Schema
