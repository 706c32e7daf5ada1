import PromptTree.Failure
import PromptTree.Schema.Fault

/-!
# Errors

What a caller of the library is told when a document or a request cannot be accepted.

## Main Definitions

* `ErrorKind` — the kinds of errors, each a special case of another one up to the base.
* `PromptError` — a kind, a message and the context it arose in.
* `PromptError.text` — the error in one line.
* `Stop` — an error, faults of settings or options, or a failure of a run.
-/

namespace PromptTree

/-- The kinds of errors. -/
inductive ErrorKind where
  | base
  | contentParse
  | packageLoad
  | separatorRules
  | renderFailure
  | entryPointNotFound
  | notAnEntryPoint
  | outputLimit
  deriving Repr, DecidableEq

namespace ErrorKind

/-- The kind that a kind is a special case of. -/
def parent? : ErrorKind → Option ErrorKind
  | .base => none
  | .contentParse => some .base
  | .packageLoad => some .base
  | .separatorRules => some .base
  | .renderFailure => some .base
  | .entryPointNotFound => some .renderFailure
  | .notAnEntryPoint => some .renderFailure
  | .outputLimit => some .renderFailure

/-- A kind and the kinds it is a special case of, itself first. -/
def lineage (kind : ErrorKind) : List ErrorKind :=
  match kind.parent? with
  | none => [kind]
  | some parent =>
    match parent.parent? with
    | none => [kind, parent]
    | some top => [kind, parent, top]

end ErrorKind

/-- An error with its context. -/
structure PromptError where
  kind : ErrorKind
  message : String
  context : Entries := []
  deriving Repr

namespace PromptError

/-- The error in one line: the message, and the context if there is any. -/
def text (e : PromptError) : String :=
  if e.context.isEmpty then e.message
  else e.message ++ " | context=" ++ (Value.object e.context).literal

end PromptError

namespace Schema

/-- A step as a value. -/
def Step.toValue : Step → Value
  | .field name => .str name
  | .item index => .int index

/-- A fault as a value. -/
def Fault.toValue (fault : Fault) : Value :=
  .object
    [("type", .str fault.kind.code), ("loc", .tuple (fault.path.map Step.toValue)),
     ("msg", .str fault.kind.message), ("input", fault.found)]

/-- How many faults there are, in words. -/
def countText (faults : List Fault) : String :=
  toString faults.length ++ " validation error(s)"

/-- The context of an error that comes from faults. -/
def faultContext (faults : List Fault) : Entries :=
  [("errors", .list (faults.map Fault.toValue))]

end Schema

namespace PromptError

/-- The error of a document that is no content tree. -/
def unreadableContent (faults : List Schema.Fault) : PromptError :=
  ⟨.contentParse, "Invalid prompt content: " ++ Schema.countText faults,
    Schema.faultContext faults⟩

/-- The error of a document that is no package. -/
def unreadablePackage (faults : List Schema.Fault) : PromptError :=
  ⟨.packageLoad, "Invalid package export: " ++ Schema.countText faults,
    Schema.faultContext faults⟩

/-- The error of a package file that cannot be read, given why. -/
def unavailablePackage (path reason : String) : PromptError :=
  ⟨.packageLoad, "Cannot read package file: " ++ path, [("error", .str reason)]⟩

/-- The error of a package file that is no JSON text, given why. -/
def malformedPackage (path reason : String) : PromptError :=
  ⟨.packageLoad, "Package file is not valid JSON: " ++ path, [("error", .str reason)]⟩

/-- The error of a document that holds no separator rules. -/
def unreadableRules (faults : List Schema.Fault) : PromptError :=
  ⟨.separatorRules, "Separator rules must define single, two and many",
    Schema.faultContext faults⟩

/-- The error of a name that is none of the built-in separator sets, given those. -/
def unknownRules (name : String) (available : List String) : PromptError :=
  ⟨.separatorRules, "Unknown built-in separator set: " ++ name,
    [("available", Value.ofStrings available)]⟩

end PromptError

/-- Why a computation stopped: an error, values that are no settings or options, or a failure
of a run. -/
inductive Stop where
  | refused (error : PromptError)
  | faulty (faults : List Schema.Fault)
  | failed (failure : Failure)
  deriving Repr

end PromptTree
