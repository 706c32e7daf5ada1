import PromptTree.Failure
import PromptTree.Numeral.Literal
import PromptTree.Value.Basic

/-!
# Values that can be written

An integer is written only if it takes no more digits than are read.  A value with a longer one
in it has neither a text, nor a literal, nor a JSON text.

## Main Definitions

* `Value.isWritable` — whether the integers in a value can be written.
* `Value.writing`, `Number.writing` — the failure to write a value, or a count.

## Design Notes

The texts themselves (`Value.text`, `Value.literal`, `Json.line`) are functions of every value.
Where a run may come to a value that cannot be written, it asks before it writes.  Reports,
results and identities are written without asking: they come from documents, and no integer of
a document that was read is too long.
-/

namespace PromptTree

/-- Whether an integer takes no more digits than are written.  The sign is none. -/
def Numeral.isWritable (n : Int) : Bool :=
  decide ((Nat.toDigits 10 n.natAbs).length ≤ digitLimit)

namespace Value

mutual

/-- Whether the integers in a value can be written. -/
def isWritable : Value → Bool
  | .int n => Numeral.isWritable n
  | .list items => areWritable items
  | .tuple items => areWritable items
  | .object entries => entriesWritable entries
  | _ => true

/-- Whether the integers in values can be written. -/
def areWritable : List Value → Bool
  | [] => true
  | v :: rest => isWritable v && areWritable rest

/-- Whether the integers in entries can be written. -/
def entriesWritable : List (String × Value) → Bool
  | [] => true
  | (_, v) :: rest => isWritable v && entriesWritable rest

end

/-- Fails if a value cannot be written. -/
def writing (v : Value) : Except Failure Unit :=
  if v.isWritable then .ok () else .error .integerTooLong

end Value

/-- Fails if a count cannot be written. -/
def Number.writing : Number → Except Failure Unit
  | .int n => (Value.int n).writing
  | .float _ => .ok ()

end PromptTree
