import PromptTree.Condition.Basic
import PromptTree.Condition.Operator
import PromptTree.Pattern.Matcher
import PromptTree.Render.Run
import PromptTree.Value.Path
import PromptTree.Value.Writing

/-!
# Evaluating conditions

Conditions are evaluated from left to right and only as far as needed; what is not
evaluated records no use and no issue.

The text of a value that is compared with is written where a text is searched for it, and only
there; an evaluation fails at a value that cannot be written.

## Main Definitions

* `Test.value?` — the value that a test reads.
* `Test.evaluate` — whether a test is passed.
* `Condition.evaluate` — whether a condition holds.
-/

namespace PromptTree

namespace Test

/-- The value of a context key: an entry of the system or of the constraints, named by the
first segment after the category. -/
def contextValue (b : Bindings) (key : String) : Value :=
  let (category, rest) := Text.cut '.' key
  let (name, _) := Text.cut '.' (rest.getD "")
  match category with
  | "system" => Entries.getD b.system name
  | "constraints" => Entries.getD b.constraints name
  | _ => .null

/-- The value that a test reads: of its variable, or else of its context key. -/
def subject (test : Test) (b : Bindings) : Run Value :=
  match test.variableId.filter (!·.isEmpty), test.contextKey.filter (!·.isEmpty) with
  | some id, _ => do
    let v ← Run.readVariable b id
    liftM (v.resolve test.path)
  | none, some key => return contextValue b key
  | none, none => return .null

/-- Whether a pattern matches somewhere in a value that is a text.  A faulty pattern matches
nothing. -/
def matchesPattern [NestingLimits] (v pattern : Value) : Run Bool :=
  match v with
  | .str s =>
    if pattern.isTruthy then do
      liftM pattern.writing
      match Pattern.parse pattern.text with
      | .ok parsed => return parsed.search s
      | .error (.faulty fault) => do
        Run.warn (.badPattern pattern.plain pattern.text fault)
        return false
      | .error (.failed failure) => throw failure
    else return false
  | _ => return false

/-- The operators that search a text for that of a value. -/
def searchOperators : List String :=
  ["contains", "starts_with", "ends_with"]

/-- Fails if the operator searches a text for that of a value that cannot be written. -/
def writeSought (operator : String) (v expected : Value) : Except Failure Unit :=
  if searchOperators.contains operator && v.str?.isSome then expected.writing else .ok ()

/-- Whether a test is passed. -/
def evaluate [NestingLimits] (test : Test) (b : Bindings) : Run Bool := do
  let v ← test.subject b
  match test.operator with
  | some "matches" => matchesPattern v test.value
  | some operator => do
    liftM (writeSought operator v test.value)
    return holdsOperator operator v test.value
  | none => return false

end Test

namespace Condition

mutual

/-- Whether a condition holds. -/
def evaluate [NestingLimits] : Condition → Bindings → Run Bool
  | .mk test all any negated, b =>
    match all with
    | some conditions => evaluateAll conditions b
    | none =>
      match any with
      | some conditions => evaluateAny conditions b
      | none =>
        match negated with
        | some condition => do return !(← evaluate condition b)
        | none => test.evaluate b

/-- Whether all conditions hold, evaluated up to the first that does not. -/
def evaluateAll [NestingLimits] : List Condition → Bindings → Run Bool
  | [], _ => return true
  | condition :: rest, b => do
    if ← evaluate condition b then evaluateAll rest b else return false

/-- Whether some condition holds, evaluated up to the first that does. -/
def evaluateAny [NestingLimits] : List Condition → Bindings → Run Bool
  | [], _ => return false
  | condition :: rest, b => do
    if ← evaluate condition b then return true else evaluateAny rest b

end

end Condition

end PromptTree
