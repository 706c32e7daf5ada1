import PromptTree.Command.Run
import PromptTree.Engine.Instant
import Std.Time.DateTime

/-!
# The program

Reads the command line, the environment and the files that the command names, runs the
command and writes what it reports.
-/

namespace PromptTree

/-- The values of the variables that spell settings. -/
def readEnvironment : IO (List (String × String)) := do
  let names := Settings.names.flatMap fun (full, short) =>
    [full, Text.lower full, short, Text.upper short]
  let values ← names.mapM fun name => do
    return (← IO.getEnv name).map fun value => (name, value)
  return values.filterMap id

/-- What is under a path, if anything is. -/
def readNode (name : String) : IO (Option Node) := do
  try
    return some (.file (← IO.FS.readBinFile name).toList)
  catch
    | .noFileOrDirectory .. => return none
    | _ => return some .directory

/-- The files of the names that stay in the working directory, and those of other names by the
names they have there. -/
def readFiles (names : List String) : IO Directory := do
  let nodes ← names.mapM fun name => do
    let path := Path.ofString name
    return (← readNode path.text).map fun node => (path.names, node)
  return nodes.filterMap id

/-- A draw of an output, from a number that differs between runs. -/
def drawFrom (start output index : Nat) : Float :=
  let bits := mixHash (mixHash (hash start) (hash output)) (hash index)
  (bits >>> 11).toNat.toFloat / (Numeral.twoPower 53).toFloat

/-- The present time, in the form that results carry. -/
def timestamp : IO String := do
  let now ← Std.Time.Timestamp.now
  return Instant.text (now.toNanosecondsSinceUnixEpoch.val / 1000).toNat

/-- What a command finds. -/
def readSurroundings (command : Command) : IO Surroundings := do
  let files ← readFiles (".env" :: command.files)
  let start ← IO.rand 0 Random.modulus
  return {
    files := files
    environment := ← readEnvironment
    entropy := drawFrom start
    timing := ⟨← timestamp, .float 0⟩ }

/-- Why a run stopped, in one line. -/
def stopText : Stop → String
  | .refused e => e.text
  | .faulty faults => Schema.countText faults
  | .failed failure => failure.message

/-- Runs a command line and returns the exit status. -/
def runProgram (arguments : List String) : IO UInt32 := do
  match Command.parse arguments with
  | .error halt =>
    IO.eprintln halt.line
    return halt.status.toUInt32
  | .ok command =>
    match command.run (← readSurroundings command) with
    | .ok report =>
      IO.print report.output
      IO.eprint report.errors
      return report.status.toUInt32
    | .error stop =>
      IO.eprintln (stopText stop)
      return 1

end PromptTree

def main (arguments : List String) : IO UInt32 :=
  PromptTree.runProgram arguments
