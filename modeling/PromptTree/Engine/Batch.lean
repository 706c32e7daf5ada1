import PromptTree.Content.Reader
import PromptTree.Engine.Request
import PromptTree.Engine.Result
import PromptTree.Error
import PromptTree.Render.Walk
import PromptTree.Settings.Basic

/-!
# Rendering requests

An entry point rendered one or more times, each time in a world of its own.

## Main Definitions

* `Engine` — lookups, settings and the draws of renderings without a seed.
* `Engine.renderOnce` — one rendering of a tree.
* `Engine.renderBatch`, `Engine.render` — the outputs of a request.
* `Engine.renderSection`, `Engine.renderContent` — a single rendering outside a request.
* `quickRender` — a tree rendered without lookups and without a seed.

## Design Notes

Errors come in three tiers.  A request that cannot be answered at all has one fatal error
and no outputs.  A rendering that fails costs its own output only.  Whatever else goes
wrong leaves a warning at its output.
-/

namespace PromptTree

/-- Lookups, settings, and the draws of renderings without a seed, for each output. -/
structure Engine where
  resolver : Resolver := Resolver.empty
  settings : Settings := {}
  entropy : Nat → Nat → Float := fun _ _ => 0

namespace Engine

/-- The world of a rendering. -/
def world (engine : Engine) (source : Random.Source) : World where
  resolver := engine.resolver
  source := source
  depthLimit := engine.settings.maxSectionDepth
  separatorSet := engine.settings.defaultSeparatorSet

end Engine

/-- Renders a tree from the beginning, inside sections being expanded: the text or a failure,
and what the rendering leaves behind. -/
def World.renderOnce (world : World) (entropy : Nat → Float) (stack : List String)
    (content : Content) (b : Bindings) : Except Failure String × RunState :=
  world.renderTree stack content b { generator := world.source.shared entropy }

/-! ## Requests -/

/-- The results of the outputs of a batch so far. -/
structure Batch where
  outputs : List Rendered := []
  errors : List BatchError := []
  variablesUsed : NameSet := []
  sectionsUsed : NameSet := []

namespace Batch

/-- A batch with one more output, counted from one. -/
def add (batch : Batch) (number : Nat) (vars : Entries)
    (outcome : Except Failure String × RunState) : Batch :=
  let (result, s) := outcome
  let used := { batch with
    variablesUsed := batch.variablesUsed.union s.variablesUsed
    sectionsUsed := batch.sectionsUsed.union s.sectionsUsed }
  match result with
  | .ok text => { used with outputs := used.outputs ++ [⟨text, vars, s.issues⟩] }
  | .error failure => { used with errors := used.errors ++ [.output number failure.message] }

end Batch

namespace Engine

/-- The result of a request that cannot be answered. -/
def fatal (templateId message : String) : Result :=
  { templateId := templateId, errors := [.fatal message] }

/-- The section that a request asks for, or why there is none. -/
def findEntryPoint (engine : Engine) (templateId : String) : Except String Section :=
  match engine.resolver.findSection templateId with
  | .error failure => .error failure.message
  | .ok none => .error ("Entry point not found: " ++ templateId)
  | .ok (some found) =>
    if found.body.isEntryPoint then .ok found
    else .error ("Section is not an entry point: " ++ templateId)

/-- Renders one output of a request, counted from zero. -/
def renderOutput (engine : Engine) (request : Request) (entry : Section) (index : Nat) :
    Except Failure String × RunState :=
  let source := Random.Source.forOutput request.seed index request.reseeds
  (engine.world source).renderOnce (engine.entropy index) [entry.identity.scopedId]
    entry.body.content request.bindings

/-- Renders the outputs of a request. -/
def renderBatch (engine : Engine) (request : Request) (entry : Section) : Result :=
  let batch := (List.range request.count.toNat).foldl
    (fun batch index =>
      batch.add (index + 1) request.bindings.vars
        (engine.renderOutput request entry index))
    ({} : Batch)
  { templateId := request.templateId, outputs := batch.outputs, errors := batch.errors
    variablesUsed := batch.variablesUsed, sectionsUsed := batch.sectionsUsed }

/-- The message that more outputs are asked for than allowed, or why it cannot be written. -/
def outputLimitText (count limit : Int) : String :=
  if Numeral.isWritable count && Numeral.isWritable limit then
    "Requested " ++ toString count ++ " outputs; the maximum is " ++ toString limit
  else Failure.integerTooLong.message

/-- Answers a request. -/
def render (engine : Engine) (request : Request) : Result :=
  let limit := engine.settings.maxOutputCount
  if limit < request.count then
    fatal request.templateId (outputLimitText request.count limit)
  else
    match engine.findEntryPoint request.templateId with
    | .error message => fatal request.templateId message
    | .ok entry => engine.renderBatch request entry

/-- How many faults a document has that is no request, in words. -/
def requestFaultText (faults : List Schema.Fault) : String :=
  let count := toString faults.length ++ " validation error" ++
    (if faults.length = 1 then "" else "s")
  "Invalid render request: " ++ count ++ " for RenderRequest"

/-- Answers a request of a document. -/
def renderDocument (engine : Engine) (v : Value) : Result :=
  match Request.read v with
  | .ok request => engine.render request
  | .faulty faults =>
    let id := ((v.entries?.map fun entries => Entries.getD entries "template_id").bind
      Value.str?).getD ""
    fatal id (requestFaultText faults)

/-! ## Single renderings -/

/-- Renders a tree outside a request. -/
def renderTree (engine : Engine) (stack : List String) (content : Content) (b : Bindings)
    (seed : Option Int) : Except Failure Rendered :=
  let (result, s) :=
    (engine.world (.make seed false)).renderOnce (engine.entropy 0) stack content b
  result.map fun text => ⟨text, b.vars, s.issues⟩

/-- Renders a section outside a request.  It counts as being expanded. -/
def renderSection (engine : Engine) (entry : Section) (b : Bindings) (seed : Option Int) :
    Except Failure Rendered :=
  engine.renderTree [entry.identity.scopedId] entry.body.content b seed

/-- Renders a tree of a document outside a request. -/
def renderContent (engine : Engine) (v : Value) (b : Bindings) (seed : Option Int) :
    Except Stop Rendered :=
  match Content.read v with
  | .faulty faults => .error (.refused (.unreadableContent faults))
  | .ok content => (engine.renderTree [] content b seed).mapError .failed

end Engine

/-- The text of a tree of a document, rendered without lookups and without a seed. -/
def quickRender (entropy : Nat → Float) (v : Value) (vars : Entries) : Except Stop String :=
  let engine : Engine := { entropy := fun _ => entropy }
  (engine.renderContent v { vars := vars } none).map (·.text)

end PromptTree
