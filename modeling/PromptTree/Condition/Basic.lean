import PromptTree.Schema.Dump
import PromptTree.Schema.Record

/-!
# Conditions

The predicates that decide between the branches of a prompt: a test of one value, or
conditions joined by *and*, *or* and *not*.

## Main Definitions

* `Test` — the parts of a test of one value.
* `Condition` — a condition with the parts that were given.
* `Condition.read`, `Condition.dump` — a condition from a document and back.

## Design Notes

A document may give several parts at once.  All are kept, and the first of *and*, *or*
and *not* that was given decides; the test counts only where none of them was.
-/

namespace PromptTree

open Schema

/-- A test: where the value comes from, what is asked of it, and what it is compared with. -/
structure Test where
  variableId : Option String := none
  path : Option String := none
  contextKey : Option String := none
  operator : Option String := none
  value : Value := .null
  deriving Repr, Inhabited

/-- A condition. -/
inductive Condition where
  | mk (test : Test) (all any : Option (List Condition)) (negated : Option Condition)
  deriving Repr, Inhabited

namespace Condition

/-- A condition of a document whose parts are read by a given reader. -/
def readWith (part : Reader Condition) : Reader Condition :=
  record "Condition" fun entries =>
    let test := Test.mk <$> optional entries "variable" string
      <*> optional entries "path" string
      <*> optional entries "context_key" string
      <*> optional entries "operator" string
      <*> withDefault entries "value" .null anything
    Condition.mk <$> test
      <*> withDefaultAs entries ["and", "and_"] none (nullable (list part))
      <*> withDefaultAs entries ["or", "or_"] none (nullable (list part))
      <*> withDefaultAs entries ["not", "not_"] none (nullable part)

/-- A condition of a document nested up to a depth. -/
def readWithin : Nat → Reader Condition
  | 0, v => .fail (.notRecord "Condition") v
  | depth + 1, v => readWith (readWithin depth) v

/-- A condition of a document. -/
def read : Reader Condition := fun v =>
  readWithin (v.depth + 1) v

mutual

/-- The document of a condition. -/
def dump : Condition → Value
  | .mk test all any negated =>
    recordOf
      [("variable", test.variableId.map .str),
       ("path", test.path.map .str),
       ("context_key", test.contextKey.map .str),
       ("operator", test.operator.map .str),
       ("value", if test.value.isNull then none else some (portable test.value)),
       ("and", match all with
          | some conditions => some (.list (dumps conditions))
          | none => none),
       ("or", match any with
          | some conditions => some (.list (dumps conditions))
          | none => none),
       ("not", match negated with
          | some condition => some (dump condition)
          | none => none)]

/-- The documents of conditions. -/
def dumps : List Condition → List Value
  | [] => []
  | condition :: rest => dump condition :: dumps rest

end

end Condition

end PromptTree
