import PromptTree.Random.Source
import PromptTree.Render.Issue
import PromptTree.Store.Basic

/-!
# Runs

The surroundings and the effects of a rendering.

## Main Definitions

* `Bindings` — the values that nodes read.
* `World` — what stays the same during a rendering: lookups, the way of drawing, limits.
* `RunState` — what a rendering leaves behind: issues, what was used, draws taken, and the
  sections it went through.
* `Run` — a computation with these effects that may fail.
* `stackAfter` — the sections being expanded after a number of moves.

## Design Notes

What a rendering records it never reads again.  A failure leaves the state as it was at
that moment, so that what was used before it still counts.
-/

namespace PromptTree

/-! ## Surroundings -/

/-- The values that nodes read. -/
structure Bindings where
  vars : Entries := []
  system : Entries := []
  constraints : Entries := []
  deriving Inhabited

namespace Bindings

/-- The bindings with more variables, which hide those of the same name. -/
def withVariables (b : Bindings) (more : Entries) : Bindings :=
  { b with vars := Entries.overlay b.vars more }

/-- The value of a variable, `null` if there is none. -/
def variableOf (b : Bindings) (id : String) : Value :=
  Entries.getD b.vars id

end Bindings

/-- The nesting of sections that is allowed unless another limit is set. -/
def defaultDepthLimit : Int := 32

/-- The separator set of nodes that name none, unless another one is set. -/
def defaultSeparatorSet : String := "oxford-comma"

/-- What stays the same during a rendering. -/
structure World where
  resolver : Resolver := Resolver.empty
  source : Random.Source := {}
  depthLimit : Int := defaultDepthLimit
  separatorSet : String := defaultSeparatorSet

/-! ## Effects -/

/-- Names in order, none of them twice. -/
abbrev NameSet := List String

namespace NameSet

/-- A set with a name added. -/
def insert (name : String) : NameSet → NameSet
  | [] => [name]
  | first :: rest =>
    if name = first then first :: rest
    else if name < first then name :: first :: rest
    else first :: insert name rest

/-- The names of two sets. -/
def union (a b : NameSet) : NameSet :=
  b.foldl (fun set name => insert name set) a

end NameSet

/-- A move into a section or out of it. -/
inductive Move where
  | enter (key : String)
  | leave
  deriving Repr, DecidableEq

/-- The sections being expanded after moves, the innermost last. -/
def stackAfter (stack : List String) : List Move → List String
  | [] => stack
  | .enter key :: moves => stackAfter (stack ++ [key]) moves
  | .leave :: moves => stackAfter stack.dropLast moves

/-- What a rendering leaves behind. -/
structure RunState where
  generator : Random.Generator
  issues : List Issue := []
  variablesUsed : NameSet := []
  sectionsUsed : NameSet := []
  moves : List Move := []

/-- A computation of a rendering. -/
abbrev Run := ExceptT Failure (StateM RunState)

namespace Run

/-- Records an issue. -/
def warn (issue : Issue) : Run Unit :=
  modify fun s => { s with issues := s.issues ++ [issue] }

/-- Records the use of a variable; the empty name is none. -/
def useVariable (id : String) : Run Unit :=
  if id.isEmpty then pure ()
  else modify fun s => { s with variablesUsed := s.variablesUsed.insert id }

/-- Records the use of a section. -/
def useSection (id : String) : Run Unit :=
  modify fun s => { s with sectionsUsed := s.sectionsUsed.insert id }

/-- Records a move. -/
def move (m : Move) : Run Unit :=
  modify fun s => { s with moves := s.moves ++ [m] }

/-- Runs inside a section, which is left again whether the run succeeds or fails. -/
def within {α : Type} (key : String) (run : Run α) : Run α := fun s =>
  let (result, after) := run { s with moves := s.moves ++ [.enter key] }
  (result, { after with moves := after.moves ++ [.leave] })

/-- Reads a variable, which counts as its use. -/
def readVariable (b : Bindings) (id : String) : Run Value := do
  useVariable id
  return b.variableOf id

end Run

namespace World

/-- Takes draws for one node. -/
def take {α : Type} (world : World) (draws : Random.Draw α) : Run α := fun s =>
  let (result, generator) := world.source.drawFrom draws s.generator
  (result, { s with generator := generator })

/-- The section of a key. -/
def findSection (world : World) (id : String) : Run (Option Section) :=
  liftM (world.resolver.findSection id)

/-- The data type of a key. -/
def findDataType (world : World) (id : String) : Run (Option DataType) :=
  liftM (world.resolver.findDataType id)

end World

end PromptTree
