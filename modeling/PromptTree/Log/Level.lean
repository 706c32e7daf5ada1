import PromptTree.Failure
import PromptTree.Text.Case

/-!
# Levels of log messages

How serious a message is: a number, six of which have names.

## Main Definitions

* `Log.levelNumbers` — the names that a threshold may have.
* `Log.threshold` — the number of a named level.
* `Log.levelName` — the name of a level in log lines.
-/

namespace PromptTree.Log

/-- The names that a threshold may have. -/
def levelNumbers : List (String × Int) :=
  [("CRITICAL", 50), ("FATAL", 50), ("ERROR", 40), ("WARN", 30), ("WARNING", 30), ("INFO", 20),
   ("DEBUG", 10), ("NOTSET", 0)]

/-- The number of a level, named without regard to case. -/
def threshold (name : String) : Except Failure Int :=
  let name := Text.upper name
  match levelNumbers.lookup name with
  | some level => .ok level
  | none => .error (.unknownLevel name)

/-- The name of a level in log lines. -/
def levelName (level : Int) : String :=
  if level = 50 then "CRITICAL"
  else if level = 40 then "ERROR"
  else if level = 30 then "WARNING"
  else if level = 20 then "INFO"
  else if level = 10 then "DEBUG"
  else if level = 0 then "NOTSET"
  else "Level " ++ toString level

end PromptTree.Log
