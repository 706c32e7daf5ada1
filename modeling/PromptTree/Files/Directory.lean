import PromptTree.Files.Path
import PromptTree.Text.Quoted

/-!
# A directory of files

The files that a run can see, below the directory it works in.

## Main Definitions

* `Node` — a file with its bytes, or a directory.
* `Directory` — files and directories by their names from the working directory on.
* `Directory.locate` — what a path leads to.
* `FileFault` — why a path leads to no file, with its number and its wording.

## Design Notes

A directory need not be listed to be there: the names on the way to anything that is listed
are directories.  Outside the working directory nothing can be seen except the directories
above it.
-/

namespace PromptTree

/-- A file with its bytes, or a directory. -/
inductive Node where
  | file (bytes : List UInt8)
  | directory
  deriving Repr, DecidableEq

/-- Why a path leads to no file. -/
inductive FileFault where
  | notFound
  | notDirectory
  | isDirectory
  | nameTooLong
  deriving Repr, DecidableEq

namespace FileFault

/-- The number of the cause. -/
def number : FileFault → Nat
  | .notFound => 2
  | .notDirectory => 20
  | .isDirectory => 21
  | .nameTooLong => 36

/-- The cause in words. -/
def text : FileFault → String
  | .notFound => "No such file or directory"
  | .notDirectory => "Not a directory"
  | .isDirectory => "Is a directory"
  | .nameTooLong => "File name too long"

/-- The cause with its number and the path in quotes. -/
def message (fault : FileFault) (path : Path) : String :=
  "[Errno " ++ toString fault.number ++ "] " ++ fault.text ++ ": " ++ Text.quoted path.text

end FileFault

/-- Files and directories, by their names from the working directory on. -/
abbrev Directory := List (List String × Node)

namespace Directory

/-- What is under names. -/
def node? (files : Directory) (names : List String) : Option Node :=
  match files.lookup names with
  | some node => some node
  | none =>
    if names.isEmpty || files.any (fun entry => names.isPrefixOf entry.1) then some .directory
    else none

/-- How many bytes a name has at most. -/
def nameLimit : Nat := 255

/-- How many bytes a whole path has at most. -/
def pathLimit : Nat := 4095

/-- What further names lead to from names that were followed already. -/
def locateFrom (files : Directory) (here : List String) : List String → Except FileFault Node
  | [] =>
    match files.node? here with
    | some node => .ok node
    | none => .error .notFound
  | name :: rest =>
    match files.node? here with
    | none => .error .notFound
    | some (.file _) => .error .notDirectory
    | some .directory =>
      if nameLimit < name.utf8ByteSize then .error .nameTooLong
      else if name = ".." then
        if here.isEmpty then
          if rest.all (· = "..") then .ok .directory else .error .notFound
        else locateFrom files here.dropLast rest
      else locateFrom files (here ++ [name]) rest

/-- What a path leads to. -/
def locate (files : Directory) (path : Path) : Except FileFault Node :=
  if pathLimit < path.text.utf8ByteSize then .error .nameTooLong
  else if path.root.isEmpty then locateFrom files [] path.names
  else if path.names.all (· = "..") then .ok .directory
  else .error .notFound

/-- The bytes of the file that a path leads to. -/
def bytes (files : Directory) (path : Path) : Except FileFault (List UInt8) :=
  match files.locate path with
  | .ok (.file bytes) => .ok bytes
  | .ok .directory => .error .isDirectory
  | .error fault => .error fault

end Directory

end PromptTree
