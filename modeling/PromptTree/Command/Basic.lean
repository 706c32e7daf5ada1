import PromptTree.Command.Arguments

/-!
# Commands

What the program can be told to do.

## Main Definitions

* `Command` — a command with its options.
* `Command.parse` — the command of a command line.
* `Command.files` — the files that a command reads.
-/

namespace PromptTree

/-- The options of a rendering. -/
structure RenderOptions where
  package : String
  entry : String
  /-- The variables as JSON, or a file of them after an at sign. -/
  vars : Option String := none
  count : Int := 1
  seed : Option Int := none
  json : Bool := false
  deriving Repr, DecidableEq

/-- A command with its options. -/
inductive Command where
  | render (options : RenderOptions)
  | preview (set rules : Option String) (items : List String)
  | validate (file : String)
  | serve (package : String) (host : Option String) (port : Option Int)
  deriving Repr, DecidableEq

namespace Command

/-- The name of the program. -/
def program : String :=
  "promptgen"

/-- The command line of a rendering. -/
def renderSyntax : Syntax where
  program := program ++ " render"
  options :=
    [{ name := "--package", required := true }, { name := "--entry", required := true },
     { name := "--vars" }, { name := "--count", kind := .integer },
     { name := "--seed", kind := .integer }, { name := "--json", kind := .flag }]

/-- The command line of a preview. -/
def previewSyntax : Syntax where
  program := program ++ " preview-separator"
  options := [{ name := "--set" }, { name := "--rules" }]
  alternatives := ["--set", "--rules"]
  words := .some "items"

/-- The command line of a validation. -/
def validateSyntax : Syntax where
  program := program ++ " validate"
  words := .one "file"

/-- The command line of the service. -/
def serveSyntax : Syntax where
  program := program ++ " serve"
  options :=
    [{ name := "--package", required := true }, { name := "--host" },
     { name := "--port", kind := .integer }]

/-- The text of an option. -/
def textOf? (given : Given) (option : String) : Option String :=
  given.texts.lookup option

/-- The integer of an option. -/
def integerOf? (given : Given) (option : String) : Option Int :=
  given.integers.lookup option

/-- The rendering that is given. -/
def ofRender (given : Given) : Command :=
  .render
    { package := (textOf? given "--package").getD ""
      entry := (textOf? given "--entry").getD ""
      vars := textOf? given "--vars"
      count := (integerOf? given "--count").getD 1
      seed := integerOf? given "--seed"
      json := given.flags.contains "--json" }

/-- The preview that is given. -/
def ofPreview (given : Given) : Command :=
  .preview (textOf? given "--set") (textOf? given "--rules") given.words

/-- The validation that is given. -/
def ofValidate (given : Given) : Command :=
  .validate (Text.join "" given.words)

/-- The service that is given. -/
def ofServe (given : Given) : Command :=
  .serve ((textOf? given "--package").getD "") (textOf? given "--host")
    (integerOf? given "--port")

/-- The commands by their names, with their command lines and what these give. -/
def choices : List (String × Syntax × (Given → Command)) :=
  [("render", renderSyntax, ofRender), ("preview-separator", previewSyntax, ofPreview),
   ("validate", validateSyntax, ofValidate), ("serve", serveSyntax, ofServe)]

/-- Refuses a command line in the name of the program. -/
def refuse {α : Type} (fault : UsageFault) : Except Halt α :=
  .error (.refused program fault)

/-- The command of a name and its arguments, given the arguments before it that mean
nothing. -/
def ofName (extras : List String) (name : String) (arguments : List String) :
    Except Halt Command :=
  match choices.lookup name with
  | none => refuse (.noChoice "command" name (choices.map Prod.fst))
  | some (rules, make) => do
    let given ← rules.parse arguments
    match extras ++ given.extras with
    | [] => return make given
    | extras => refuse (.unrecognized extras)

/-- Reads a command line, given the arguments so far that mean nothing. -/
def parseFrom (extras : List String) : List String → Except Halt Command
  | [] => refuse (.required ["command"])
  | argument :: rest =>
    if argument = "--" then
      if rest.isEmpty then refuse (.required ["command"])
      else refuse (.noChoice "command" argument (choices.map Prod.fst))
    else
      match ({ program := program } : Syntax).token argument with
      | .ok (.word name) => ofName extras name rest
      | .ok (.unknown text) => parseFrom (extras ++ [text]) rest
      | .ok (.option rule (some value)) => refuse (.ignoredValue rule.name value)
      | .ok (.letters more) => .error (Given.takeLetters program more)
      | .ok _ => .error .help
      | .error fault => refuse fault

/-- The command of a command line. -/
def parse (arguments : List String) : Except Halt Command :=
  parseFrom [] arguments

/-- The file that an argument names after an at sign. -/
def fileOf? (argument : String) : Option String :=
  match argument.toList with
  | '@' :: name => some (String.ofList name)
  | _ => none

/-- The files that a command reads. -/
def files : Command → List String
  | .render options => options.package :: (options.vars.bind fileOf?).toList
  | .preview _ rules _ => rules.toList
  | .validate file => [file]
  | .serve package _ _ => [package]

end Command

end PromptTree
