import PromptTree.Render.Run
import PromptTree.Schema.Dump

/-!
# Results

What a batch of outputs comes to: outputs, errors and what was used.

## Main Definitions

* `Rendered` — one output: its text, the variables it had and its warnings.
* `BatchError` — an error of a batch: of the whole request, or of one output.
* `Result` — the result of a request.
* `Result.dump` — the document of a result.
-/

namespace PromptTree

open Schema

/-- One output. -/
structure Rendered where
  text : String
  vars : Entries
  issues : List Issue := []
  deriving Inhabited

namespace Rendered

/-- The warnings of an output. -/
def warnings (rendered : Rendered) : List String :=
  rendered.issues.map Issue.message

/-- The warnings as a value, `null` if there are none. -/
def warningsValue (rendered : Rendered) : Value :=
  if rendered.issues.isEmpty then .null else Value.ofStrings rendered.warnings

/-- The document of an output. -/
def dump (rendered : Rendered) : Value :=
  .object
    [("text", .str rendered.text),
     ("variable_values", portable (.object rendered.vars)),
     ("warnings", rendered.warningsValue)]

end Rendered

/-- An error of a batch. -/
inductive BatchError where
  /-- The request cannot be answered at all. -/
  | fatal (message : String)
  /-- An output, counted from one, could not be rendered. -/
  | output (number : Nat) (message : String)
  deriving Repr, DecidableEq

namespace BatchError

/-- The name of an error. -/
def code : BatchError → String
  | .fatal _ => "FATAL_ERROR"
  | .output _ _ => "RENDER_ERROR"

/-- The error in words. -/
def message : BatchError → String
  | .fatal message => message
  | .output _ message => message

/-- Where the error arose. -/
def location? : BatchError → Option String
  | .fatal _ => none
  | .output number _ => some ("output " ++ toString number)

/-- The document of an error. -/
def dump (e : BatchError) : Value :=
  .object
    [("code", .str e.code), ("message", .str e.message), ("location", Value.ofString? e.location?),
     ("suggestion", .null), ("severity", .str "error")]

end BatchError

/-- The result of a request. -/
structure Result where
  templateId : String
  outputs : List Rendered := []
  errors : List BatchError := []
  variablesUsed : NameSet := []
  sectionsUsed : NameSet := []
  deriving Inhabited

/-- When a result was made, and how long that took in milliseconds. -/
structure Timing where
  timestamp : String
  duration : Value

namespace Result

/-- Whether all outputs were rendered. -/
def success (result : Result) : Bool :=
  result.errors.isEmpty

/-- The texts of the outputs. -/
def texts (result : Result) : List String :=
  result.outputs.map (·.text)

/-- What a result says about how it was made. -/
def metadata (result : Result) (timing : Option Timing) : Value :=
  recordOf
    [("template_id", some (.str result.templateId)),
     ("timestamp", timing.map fun t => .str t.timestamp),
     ("duration_ms", timing.map (·.duration)),
     ("variables_used", some (Value.ofStrings result.variablesUsed)),
     ("sections_used", some (Value.ofStrings result.sectionsUsed))]

/-- The document of a result, with its timing if that is known. -/
def dump (result : Result) (timing : Option Timing) : Value :=
  .object
    [("success", .bool result.success),
     ("outputs", .list (result.outputs.map Rendered.dump)),
     ("errors", if result.errors.isEmpty then .null
       else .list (result.errors.map BatchError.dump)),
     ("metadata", result.metadata timing)]

end Result

end PromptTree
