import PromptTree.Failure
import PromptTree.Files.Directory
import PromptTree.Json.Reader

/-!
# Reading files

The text of a file, and the JSON document in it.

## Main Definitions

* `Directory.readText`, `Directory.readJson` — the readers.
* `Unreadable` — why there is nothing to read.
-/

namespace PromptTree

/-- Why there is nothing to read: there is no such file, the text is no JSON, or the run
fails. -/
inductive Unreadable where
  | missing (fault : FileFault) (path : Path)
  | malformed (fault : Json.Fault)
  | failed (failure : Failure)
  deriving Repr

/-- The JSON document of a text. -/
def readJsonText [NestingLimits] (text : String) : Except Unreadable Value :=
  match Json.parse text with
  | .ok v => .ok v
  | .error (.tooManyDigits count) => .error (.failed (.tooManyDigits count))
  | .error (.nestedTooDeeply follower) => .error (.failed (.nestedTooDeeply follower))
  | .error fault => .error (.malformed fault)

namespace Directory

/-- The text of a file. -/
def readText (files : Directory) (path : Path) : Except Unreadable String :=
  if path.text.toList.contains (Char.ofNat 0) then .error (.failed .nullInPath)
  else
    match files.bytes path with
    | .error fault => .error (.missing fault path)
    | .ok bytes =>
      match Text.Utf8.decode bytes with
      | .error fault => .error (.failed (.undecodable fault))
      | .ok text => .ok (String.ofList (Text.Utf8.plainNewlines text))

/-- The JSON document in a file. -/
def readJson [NestingLimits] (files : Directory) (path : Path) : Except Unreadable Value :=
  (files.readText path).bind readJsonText

end Directory

end PromptTree
