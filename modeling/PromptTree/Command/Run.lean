import PromptTree.Command.Basic
import PromptTree.Content.Check
import PromptTree.Engine.Preview
import PromptTree.Json.Printer
import PromptTree.Log.Record
import PromptTree.Settings.Environment
import PromptTree.Store.Load

/-!
# Running commands

What a command writes and how it ends, from the files and the environment it finds.

## Main Definitions

* `Surroundings` — files, environment, the draws of renderings without a seed, and the time.
* `Report` — an exit status and what was written.
* `Command.run` — the report of a command.

## Design Notes

Errors of files and documents are told in the report.  Settings and options out of bounds and
failures of the run are not: they stop it.

Arguments, paths and file names are texts, and both outputs take every text: they are written
in UTF-8.
-/

namespace PromptTree

/-- What a run finds: files, the environment, the draws of renderings without a seed for each
output, and when a rendering was made. -/
structure Surroundings where
  files : Directory := []
  environment : List (String × String) := []
  entropy : Nat → Nat → Float := fun _ _ => 0
  timing : Timing

/-- How a run ends: its exit status, and what it wrote to its two outputs. -/
structure Report where
  status : Nat
  output : String := ""
  errors : String := ""
  deriving Repr, DecidableEq

/-- Why an action did not come to its end: something to tell, or a reason to stop. -/
inductive Trouble where
  | told (message : String)
  | stopped (stop : Stop)

namespace Trouble

/-- The trouble of a stop.  Errors are told. -/
def ofStop : Stop → Trouble
  | .refused e => .told e.text
  | stop => .stopped stop

/-- The trouble of a document that cannot be read. -/
def ofUnreadable : Unreadable → Trouble
  | .missing fault path => .told (fault.message path)
  | .malformed fault => .told fault.message
  | .failed failure => .stopped (.failed failure)

end Trouble

/-- A line of a report. -/
def asLine (text : String) : String :=
  text ++ "\n"

/-- Lines of a report. -/
def asLines (texts : List String) : String :=
  Text.join "" (texts.map asLine)

namespace Command

/-- An action of a command. -/
abbrev Action := Except Trouble Report

/-- The JSON document of an argument, or of the file that it names. -/
def readArgument [NestingLimits] (files : Directory) (argument : String) : Except Trouble Value :=
  (match fileOf? argument with
    | some file => files.readJson (.ofString file)
    | none => readJsonText argument).mapError .ofUnreadable

/-- The variables that an argument gives. -/
def readVariables [NestingLimits] (files : Directory) : Option String → Except Trouble Value
  | none => .ok (.object [])
  | some argument => if argument.isEmpty then .ok (.object []) else readArgument files argument

/-! ## Rendering -/

/-- The texts of outputs, with a headline each if there are several. -/
def outputLines (outputs : List Rendered) : List String :=
  match outputs with
  | [rendered] => [rendered.text]
  | outputs =>
    outputs.zipIdx.flatMap fun (rendered, index) =>
      ["--- output " ++ toString (index + 1) ++ " ---", rendered.text]

/-- The warnings of outputs. -/
def warningLines (outputs : List Rendered) : List String :=
  outputs.flatMap fun rendered => rendered.warnings.map fun warning => "warning: " ++ warning

/-- An error of a batch. -/
def errorLine (e : BatchError) : String :=
  let place := match e.location? with
    | some location => " (" ++ location ++ ")"
    | none => ""
  "error: [" ++ e.code ++ "] " ++ e.message ++ place

/-- The report of a result. -/
def reportOf (json : Bool) (timing : Timing) (result : Result) : Report :=
  let status := if result.success then 0 else 1
  if json then { status, output := asLine (Json.indented (result.dump (some timing))) }
  else
    { status, output := asLines (outputLines result.outputs)
      errors := asLines (warningLines result.outputs ++ result.errors.map errorLine) }

/-- Renders an entry point of a package. -/
def renderAction [NestingLimits] (s : Surroundings) (settings : Settings)
    (options : RenderOptions) : Action := do
  match ← readVariables s.files options.vars with
  | .object vars =>
    let store ← (s.files.loadPackage options.package).mapError .ofStop
    match PromptTree.Request.readOptions (.object [("count", .int options.count)]) with
    | .faulty faults => throw (.stopped (.faulty faults))
    | .ok (count, _) =>
      let request : PromptTree.Request :=
        { templateId := options.entry, bindings := { vars }, count := count
          randomize := options.seed.map fun seed => { seed := some seed } }
      let engine : Engine := { resolver := store.resolver, settings, entropy := s.entropy }
      return reportOf options.json s.timing (engine.render request)
  | _ => return { status := 2, errors := asLine "--vars must be a JSON object" }

/-! ## The other commands -/

/-- The rules of a preview: a name that is not empty, or the document in a file. -/
def previewRules [NestingLimits] (files : Directory) (set rules : Option String) :
    Except Trouble Value :=
  match set.filter (!·.isEmpty), rules with
  | some name, _ => .ok (.str name)
  | none, some file => (files.readJson (.ofString file)).mapError .ofUnreadable
  | none, none => .error (.stopped (.failed .noRules))

/-- Joins sample items. -/
def previewAction [NestingLimits] (s : Surroundings) (set rules : Option String)
    (items : List String) : Action := do
  let rules ← previewRules s.files set rules
  let text ← (previewSeparator rules (Value.ofStrings items)).mapError .ofStop
  return { status := 0, output := asLine text }

/-- The tree of a document: the document, or its content if it is no node itself. -/
def treeOf (document : Value) : Value :=
  match document with
  | .object entries =>
    if Entries.has entries "type" then document
    else (Entries.get? entries "content").getD document
  | _ => document

/-- A problem of a tree. -/
def problemLine (problem : Problem) : String :=
  problem.pathText ++ ": [" ++ problem.kind.code ++ "] " ++ problem.kind.message

/-- Checks the tree in a file. -/
def validateAction [limits : NestingLimits] (s : Surroundings) (file : String) : Action := do
  let document ← (s.files.readJson (.ofString file)).mapError .ofUnreadable
  let problems ← (checkWithin limits.nodes (treeOf document)).mapError (.stopped ∘ .failed)
  if problems.isEmpty then return { status := 0, output := asLine "OK" }
  else return { status := 1, output := asLines (problems.map problemLine) }

/-- Says where a package is served. -/
def serveAction [NestingLimits] (s : Surroundings) (settings : Settings) (package : String)
    (host : Option String) (port : Option Int) : Action := do
  let _ ← (s.files.loadPackage package).mapError .ofStop
  let host := (host.filter (!·.isEmpty)).getD settings.apiHost
  let port := (port.filter (· ≠ 0)).getD settings.apiPort
  return { status := 0, output := asLine ("serving on " ++ host ++ ":" ++ toString port) }

/-- What a command does. -/
def action [NestingLimits] (s : Surroundings) (settings : Settings) : Command → Action
  | .render options => renderAction s settings options
  | .preview set rules items => previewAction s set rules items
  | .validate file => validateAction s file
  | .serve package host port => serveAction s settings package host port

/-- The report of a command. -/
def run [NestingLimits] (s : Surroundings) (command : Command) : Except Stop Report := do
  let settings ← Settings.load s.files s.environment
  let _ ← (Log.Configuration.make settings.logLevel settings.jsonLogs).mapError .failed
  match command.action s settings with
  | .ok report => return report
  | .error (.told message) => return { status := 1, errors := asLine ("error: " ++ message) }
  | .error (.stopped stop) => throw stop

end Command

end PromptTree
