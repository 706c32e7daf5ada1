import PromptTree.Schema.Dump
import PromptTree.Schema.Record

/-!
# Formats

The transformations that a bound text goes through before it is placed in a prompt.

## Main Definitions

* `LetterCase`, `Replacement`, `Format` — what a format may ask for.
* `Format.read`, `Format.dump` — a format from a document and back.
-/

namespace PromptTree

open Schema

/-- How to change the case of letters. -/
inductive LetterCase where
  | upper
  | lower
  | title
  | sentence
  deriving Repr, DecidableEq

/-- A literal text and what takes its place. -/
structure Replacement where
  old : String
  new : String
  deriving Repr, DecidableEq

/-- The transformations of a text, in the order in which they apply. -/
structure Format where
  trim : Bool := false
  letterCase : Option LetterCase := none
  replacements : Option (List Replacement) := none
  /-- The greatest length; zero sets none. -/
  limit : Option Nat := none
  before : Option String := none
  after : Option String := none
  /-- What a variable without a value shows. -/
  placeholder : Option String := none
  deriving Repr, DecidableEq

namespace LetterCase

/-- The names of the cases in documents. -/
def names : List (String × LetterCase) :=
  [("upper", .upper), ("lower", .lower), ("title", .title), ("sentence", .sentence)]

/-- The name of a case in documents. -/
def name : LetterCase → String
  | .upper => "upper"
  | .lower => "lower"
  | .title => "title"
  | .sentence => "sentence"

end LetterCase

namespace Replacement

/-- A replacement of a document. -/
def read : Reader Replacement :=
  record "ReplacePair" fun entries =>
    Replacement.mk <$> requiredAs entries ["from", "from_"] string
      <*> withDefault entries "to" "" string

/-- The document of a replacement. -/
def dump (r : Replacement) : Value :=
  .object [("from", .str r.old), ("to", .str r.new)]

end Replacement

namespace Format

/-- A format of a document. -/
def read : Reader Format :=
  record "FormatOptions" fun entries =>
    Format.mk <$> withDefault entries "trim" false boolean
      <*> optional entries "case" (oneOf LetterCase.names)
      <*> optional entries "replace" (list Replacement.read)
      <*> optional entries "truncate" (fun v => (atLeast 0 v).map Int.toNat)
      <*> optional entries "prefix" string
      <*> optional entries "suffix" string
      <*> optional entries "placeholder" string

/-- The fields of a format with the values they are written with. -/
def fields (f : Format) : List (String × Option Value) :=
  [("trim", some (.bool f.trim)),
   ("case", f.letterCase.map fun c => .str c.name),
   ("replace", f.replacements.map fun rs => .list (rs.map Replacement.dump)),
   ("truncate", f.limit.map fun n => .int n),
   ("prefix", f.before.map .str),
   ("suffix", f.after.map .str),
   ("placeholder", f.placeholder.map .str)]

/-- The document of a format. -/
def dump (f : Format) : Value :=
  recordOf f.fields

end Format

end PromptTree
