/-!
# Faults of JSON text

Why a text is no JSON document, and where.

## Main Definitions

* `Json.Cause` — what the reader met, or missed.
* `Json.Fault` — a cause at a place, or a limit that the text goes beyond: of the digits of an
  integer, or of nesting.
* `Json.Fault.message` — the fault in words.
-/

namespace PromptTree.Json

/-- What is wrong with a text. -/
inductive Cause where
  | byteOrderMark
  | value
  | name
  | colon
  | comma
  | extraData
  | unterminatedString
  | controlCharacter
  | escape
  | unicodeEscape
  deriving Repr, DecidableEq

/-- The cause in words. -/
def Cause.text : Cause → String
  | .byteOrderMark => "Unexpected UTF-8 BOM (decode using utf-8-sig)"
  | .value => "Expecting value"
  | .name => "Expecting property name enclosed in double quotes"
  | .colon => "Expecting ':' delimiter"
  | .comma => "Expecting ',' delimiter"
  | .extraData => "Extra data"
  | .unterminatedString => "Unterminated string starting at"
  | .controlCharacter => "Invalid control character at"
  | .escape => "Invalid \\escape"
  | .unicodeEscape => "Invalid \\uXXXX escape"

/-- A fault of a text. -/
inductive Fault where
  /-- A cause, with the line and column counted from one and the offset from zero. -/
  | malformed (cause : Cause) (line column offset : Nat)
  /-- An integer of more digits than are read. -/
  | tooManyDigits (count : Nat)
  /-- A list or an object for which there is no room; in words, what was read. -/
  | nestedTooDeeply (follower : String)
  deriving Repr, DecidableEq

/-- The fault in words. -/
def Fault.message : Fault → String
  | .malformed cause line column offset =>
    cause.text ++ ": line " ++ toString line ++ " column " ++ toString column ++
      " (char " ++ toString offset ++ ")"
  | .tooManyDigits count =>
    "Exceeds the limit (4300 digits) for integer string conversion: value has " ++
      toString count ++ " digits; use sys.set_int_max_str_digits() to increase the limit"
  | .nestedTooDeeply follower => "maximum recursion depth exceeded" ++ follower

/-- A cause at an offset of a text. -/
def Fault.at (cause : Cause) (text : List Char) (offset : Nat) : Fault :=
  let before := text.take offset
  let lastLine := before.reverse.takeWhile (· ≠ '\n')
  .malformed cause (before.count '\n' + 1) (lastLine.length + 1) offset

end PromptTree.Json
