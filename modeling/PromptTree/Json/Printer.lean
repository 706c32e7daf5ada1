import PromptTree.Numeral.Decimal
import PromptTree.Text.Cut
import PromptTree.Text.Quoted
import PromptTree.Value.Basic

/-!
# Values as JSON text

Two layouts: one line with a space after commas and colons, and an indented one.

## Main Definitions

* `Json.line` — a value on one line.
* `Json.indented` — a value with two spaces of indentation per level.

## Design Notes

The one-line layout writes non-finite numbers as the words that `Json.parse` reads
back; the indented layout writes `null` for them.  Characters outside ASCII are
escaped on request only.
-/

namespace PromptTree.Json

open PromptTree.Text

/-- The escape of a UTF-16 code unit. -/
def unitEscape (code : Nat) : List Char :=
  '\\' :: 'u' :: hexDigits 4 code

/-- The escape of a character outside ASCII: one unit, or a surrogate pair. -/
def wideEscape (c : Char) : List Char :=
  let code := c.toNat
  if code < 0x10000 then unitEscape code
  else unitEscape (0xD800 + (code - 0x10000) / 0x400) ++ unitEscape (0xDC00 + code % 0x400)

/-- A character inside a JSON string. -/
def escapeChar (ascii : Bool) (c : Char) : List Char :=
  if c == '"' then ['\\', '"']
  else if c == '\\' then ['\\', '\\']
  else if c == '\n' then ['\\', 'n']
  else if c == '\r' then ['\\', 'r']
  else if c == '\t' then ['\\', 't']
  else if c.toNat == 8 then ['\\', 'b']
  else if c.toNat == 12 then ['\\', 'f']
  else if c.toNat < 0x20 then unitEscape c.toNat
  else if ascii && 0x7F ≤ c.toNat then wideEscape c
  else [c]

/-- A JSON string. -/
def string (ascii : Bool) (s : String) : String :=
  String.ofList ('"' :: s.toList.flatMap (escapeChar ascii) ++ ['"'])

mutual

/-- A value on one line. -/
def line (ascii : Bool) : Value → String
  | .null => "null"
  | .bool b => if b then "true" else "false"
  | .int n => toString n
  | .float x => Numeral.plainStyle.write "Infinity" "NaN" x
  | .str s => string ascii s
  | .list items => "[" ++ join ", " (lines ascii items) ++ "]"
  | .tuple items => "[" ++ join ", " (lines ascii items) ++ "]"
  | .object entries => "\x7b" ++ join ", " (entryLines ascii entries) ++ "\x7d"

/-- Values, each on one line. -/
def lines (ascii : Bool) : List Value → List String
  | [] => []
  | v :: rest => line ascii v :: lines ascii rest

/-- Entries, each on one line. -/
def entryLines (ascii : Bool) : List (String × Value) → List String
  | [] => []
  | (key, v) :: rest =>
    (string ascii key ++ ": " ++ line ascii v) :: entryLines ascii rest

end

/-- Parts on lines of their own between brackets, or the bare brackets if there are none. -/
def block (opening closing : String) (level : Nat) (parts : List String) : String :=
  match parts with
  | [] => opening ++ closing
  | _ =>
    let margin := String.ofList (List.replicate (2 * level) ' ')
    let inner := "\n" ++ margin ++ "  "
    opening ++ inner ++ join ("," ++ inner) parts ++ "\n" ++ margin ++ closing

mutual

/-- A value with indentation, at a level of nesting. -/
def indentedAt (level : Nat) : Value → String
  | .null => "null"
  | .bool b => if b then "true" else "false"
  | .int n => toString n
  | .float x => Numeral.compactStyle.write "null" "null" x
  | .str s => string false s
  | .list items => block "[" "]" level (indentedItems (level + 1) items)
  | .tuple items => block "[" "]" level (indentedItems (level + 1) items)
  | .object entries => block "\x7b" "\x7d" level (indentedEntries (level + 1) entries)

/-- Items with indentation. -/
def indentedItems (level : Nat) : List Value → List String
  | [] => []
  | v :: rest => indentedAt level v :: indentedItems level rest

/-- Entries with indentation. -/
def indentedEntries (level : Nat) : List (String × Value) → List String
  | [] => []
  | (key, v) :: rest =>
    (string false key ++ ": " ++ indentedAt level v) :: indentedEntries level rest

end

/-- A value with two spaces of indentation per level. -/
def indented (v : Value) : String :=
  indentedAt 0 v

end PromptTree.Json
