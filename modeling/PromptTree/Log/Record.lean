import PromptTree.Format.Basic
import PromptTree.Json.Printer
import PromptTree.Log.Fill
import PromptTree.Log.Level

/-!
# Log lines

Messages with fields of their own and perhaps an exception, written plainly or as JSON.

## Main Definitions

* `Log.Record` — a message.
* `Log.Configuration` — from which level on messages are written, and in which layout.
* `Log.Configuration.lines` — the text of a message.
-/

namespace PromptTree.Log

/-- A message: its level, its text and the values in it, its fields, and the exception it
reports. -/
structure Record where
  level : Int
  message : String
  values : List Value := []
  fields : Entries := []
  exception : Option String := none

/-- From which level on messages are written, and whether as JSON. -/
structure Configuration where
  threshold : Int := 20
  json : Bool := false

/-- The configuration of a named level. -/
def Configuration.make (level : String) (json : Bool) : Except Failure Configuration :=
  (Log.threshold level).map fun threshold => ⟨threshold, json⟩

/-- The names that a field must not have. -/
def takenNames : List String :=
  ["name", "msg", "args", "levelname", "levelno", "pathname", "filename", "module", "exc_info",
   "exc_text", "stack_info", "lineno", "funcName", "created", "msecs", "relativeCreated",
   "thread", "threadName", "processName", "process", "message", "asctime"]

/-- Names that a field may have without being written. -/
def silentNames : List String :=
  ["taskName"]

/-- Whether a field is written. -/
def isShown (name : String) : Bool :=
  !(Text.startsWith "_" name) && !silentNames.contains name

/-- An exception in one line: its kind, and its message if there is one. -/
def exceptionText (message : String) : String :=
  if message.isEmpty then "ValueError" else "ValueError: " ++ message

/-- The name of a logger in log lines. -/
def loggerName (logger : String) : String :=
  if logger.isEmpty then "root" else logger

/-- A message as JSON.  A field may take the place of one of the first three. -/
def Record.json (record : Record) (logger text : String) : String :=
  let head : Entries :=
    [("level", .str (levelName record.level)), ("logger", .str (loggerName logger)),
     ("message", .str text)]
  let fields := record.fields.filter fun field => isShown field.1
  let tail : Entries :=
    match record.exception with
    | some message => [("exc_info", .str (exceptionText message))]
    | none => []
  Json.line false (.object (Entries.overlay (Entries.overlay head fields) tail))

/-- A message in plain text, the exception on a line of its own. -/
def Record.plain (record : Record) (logger text : String) : String :=
  let line := levelName record.level ++ " " ++ loggerName logger ++ " " ++ text
  match record.exception with
  | some message =>
    if Text.endsWith "\n" line then line ++ exceptionText message
    else line ++ "\n" ++ exceptionText message
  | none => line

/-- The text of a message, if it is written.  Messages of level zero and below never are, and
neither are those whose values do not fit their text. -/
def Configuration.lines (configuration : Configuration) (logger : String) (record : Record) :
    Except Failure (Option String) :=
  if record.level ≤ 0 || record.level < configuration.threshold then .ok none
  else
    match record.fields.find? fun field => takenNames.contains field.1 with
    | some (name, _) => .error (.takenField name)
    | none =>
      .ok ((fill record.message record.values).map fun text =>
        if configuration.json then record.json logger text else record.plain logger text)

/-- A format as a field of a message, with the fields that are missing. -/
def formatField (f : Format) : Value :=
  let replacement (r : Replacement) : Value := .object [("from_", .str r.old), ("to", .str r.new)]
  .object (f.fields.map fun (name, v) =>
    if name = "replace" then
      (name, (f.replacements.map fun rs => .list (rs.map replacement)).getD .null)
    else (name, v.getD .null))

end PromptTree.Log
