import PromptTree.Text.Cut

/-!
# Templates of lists

A template is a text with slots in braces.  It is cut into segments once, and the texts
that fill the slots are never looked at again.

## Main Definitions

* `Slot` — the slots a template may have.
* `segments` — a template cut into characters and slots.
* `fill` — a template with its slots filled; one that has no filling stays as it is.
-/

namespace PromptTree.Separator

/-- A slot of a template. -/
inductive Slot where
  | item
  | first
  | separator
  | second
  | items
  | lastSeparator
  | last
  deriving Repr, DecidableEq

namespace Slot

/-- All slots. -/
def all : List Slot :=
  [.item, .first, .separator, .second, .items, .lastSeparator, .last]

/-- The name of a slot. -/
def name : Slot → String
  | .item => "item"
  | .first => "first"
  | .separator => "separator"
  | .second => "second"
  | .items => "items"
  | .lastSeparator => "last_separator"
  | .last => "last"

/-- A slot as it stands in a template. -/
def mark (slot : Slot) : List Char :=
  '\x7b' :: slot.name.toList ++ ['\x7d']

end Slot

/-- A piece of a template. -/
inductive Segment where
  | char (c : Char)
  | slot (slot : Slot)
  deriving Repr, DecidableEq

/-- The slot that a text starts with. -/
def slotAt? (cs : List Char) : Option Slot :=
  Slot.all.find? fun slot => slot.mark.isPrefixOf cs

/-- The segments of a template, after as many characters as belong to a slot already read. -/
def segmentsFrom : Nat → List Char → List Segment
  | _, [] => []
  | skip + 1, _ :: rest => segmentsFrom skip rest
  | 0, c :: rest =>
    match slotAt? (c :: rest) with
    | some slot => .slot slot :: segmentsFrom (slot.mark.length - 1) rest
    | none => .char c :: segmentsFrom 0 rest

/-- The segments of a template. -/
def segments (template : String) : List Segment :=
  segmentsFrom 0 template.toList

/-- The text of a segment, given the fillings of slots. -/
def Segment.text (filling : Slot → Option String) : Segment → List Char
  | .char c => [c]
  | .slot place =>
    match filling place with
    | some text => text.toList
    | none => place.mark

/-- A template with its slots filled. -/
def fill (template : String) (filling : Slot → Option String) : String :=
  String.ofList ((segments template).flatMap (Segment.text filling))

end PromptTree.Separator
