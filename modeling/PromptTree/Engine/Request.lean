import PromptTree.Render.Run
import PromptTree.Schema.Dump
import PromptTree.Schema.Record

/-!
# Requests

What a batch of outputs is asked for with: the entry point, the bindings and the options.

## Main Definitions

* `Request` — a request.
* `Request.read`, `Request.dump` — a request from a document and back.
-/

namespace PromptTree

open Schema

/-- How outputs draw. -/
structure Randomize where
  seed : Option Int := none
  /-- Whether every random node starts anew from the seed. -/
  reseeds : Bool := false
  deriving Repr, DecidableEq

/-- A request. -/
structure Request where
  templateId : String
  bindings : Bindings := {}
  /-- How many outputs, at least one. -/
  count : Int := 1
  randomize : Option Randomize := none
  deriving Inhabited

namespace Request

/-- The seed of the first output. -/
def seed (request : Request) : Option Int :=
  request.randomize.bind (·.seed)

/-- Whether every random node starts anew from the seed. -/
def reseeds (request : Request) : Bool :=
  (request.randomize.map (·.reseeds)).getD false

/-- Bindings of a document. -/
def readBindings : Reader Bindings :=
  record "RenderingContext" fun entries =>
    Bindings.mk <$> withDefault entries "variables" [] dictionary
      <*> withDefault entries "system" [] dictionary
      <*> withDefault entries "constraints" [] dictionary

/-- A way of drawing of a document. -/
def readRandomize : Reader Randomize :=
  record "RandomizeOptions" fun entries =>
    Randomize.mk <$> optional entries "seed" integer
      <*> withDefault entries "legacy_reseed" false boolean

/-- Options of a document. -/
def readOptions : Reader (Int × Option Randomize) :=
  record "RenderOptions" fun entries =>
    Prod.mk <$> withDefault entries "count" 1 (atLeast 1)
      <*> optional entries "randomize" readRandomize

/-- A request of a document. -/
def read : Reader Request :=
  record "RenderRequest" fun entries =>
    (fun id bindings options => Request.mk id bindings options.1 options.2)
      <$> required entries "template_id" string
      <*> withDefault entries "context" {} readBindings
      <*> withDefault entries "options" (1, none) readOptions

/-- The document of a way of drawing. -/
def dumpRandomize (randomize : Randomize) : Value :=
  recordOf
    [("seed", randomize.seed.map .int), ("legacy_reseed", some (.bool randomize.reseeds))]

/-- The document of a request. -/
def dump (request : Request) : Value :=
  .object
    [("template_id", .str request.templateId),
     ("context", portable (.object
       [("variables", .object request.bindings.vars),
        ("system", .object request.bindings.system),
        ("constraints", .object request.bindings.constraints)])),
     ("options", recordOf
       [("count", some (.int request.count)),
        ("randomize", request.randomize.map dumpRandomize)])]

end Request

end PromptTree
