import PromptTree.Text.Cut

/-!
# Paths

Where a file is: from which directory to start and which names to follow.  Empty names and
single points lead nowhere and are left out; two points are a name like any other until the
path is followed.

## Main Definitions

* `Path` — a path.
* `Path.ofString`, `Path.text` — the path of a text, and its normal text.
-/

namespace PromptTree

/-- A path: the slashes it starts with, and its names. -/
structure Path where
  root : String := ""
  names : List String := []
  deriving Repr, DecidableEq, Inhabited

namespace Path

/-- The slashes that a text starts with: exactly two are kept, any other number counts as
one. -/
def rootOf : List Char → String
  | '/' :: '/' :: '/' :: _ => "/"
  | '/' :: '/' :: _ => "//"
  | '/' :: _ => "/"
  | _ => ""

/-- The path of a text. -/
def ofString (s : String) : Path where
  root := rootOf s.toList
  names := (Text.splitAt '/' s).filter fun name => name ≠ "" && name ≠ "."

/-- The text of a path; the path that leads nowhere is a point. -/
def text (path : Path) : String :=
  if path.root.isEmpty && path.names.isEmpty then "."
  else path.root ++ Text.join "/" path.names

end Path

end PromptTree
