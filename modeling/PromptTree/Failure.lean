import PromptTree.Text.Utf8

/-!
# Failures of a run

What can stop a run.  Everything else that goes wrong in a rendering is recorded as an
issue and leaves a text; everything else that goes wrong with a document is reported as
an error of that document.

## Main Definitions

* `Failure` — the causes.
* `Failure.message` — a cause in words.

## Design Notes

Two of the causes are limits of what carries out a run, and not of what it is given: integers
are read and written with so many digits only (`Numeral.digitLimit`), and there is room for so
many levels of nesting only (`NestingLimits`).  The first stops whatever would write a value with
a longer integer in it (`Value.writing`).  The second stops the readers of JSON texts and of
patterns, and the checks of documents; what else follows the nesting of a value or of a tree is
taken to have the room it needs.
-/

namespace PromptTree

/-- A cause that stops a run. -/
inductive Failure where
  /-- A lookup of a definition failed. -/
  | lookup (message : String)
  /-- A path segment of digits that are not all decimal. -/
  | notDecimal (segment : String)
  /-- An integer spelled with more digits than are read. -/
  | tooManyDigits (count : Nat)
  /-- An integer that takes more digits than are written. -/
  | integerTooLong
  /-- Something nested so deep that there is no room to follow it; in words, what followed it. -/
  | nestedTooDeeply (follower : String)
  /-- An integer beyond the range of floating point. -/
  | integerTooLarge
  /-- The integer part of no number was asked for. -/
  | noNumber
  /-- The integer part of an infinity was asked for. -/
  | infiniteNumber
  /-- Weights whose sum is not zero and of which none is positive. -/
  | noPositiveWeight
  /-- A repetition bound of a pattern beyond the limit. -/
  | repetitionTooLarge
  /-- A pattern that asks for ASCII and for Unicode classes. -/
  | conflictingClasses
  /-- A value of a kind that cannot be looked up among words. -/
  | unhashable (kind : String)
  /-- A value of a kind that has no items. -/
  | notIterable (kind : String)
  /-- Bytes that are no text. -/
  | undecodable (fault : Text.Utf8.Fault)
  /-- A path with a null character in it. -/
  | nullInPath
  /-- A name of no level of log messages. -/
  | unknownLevel (name : String)
  /-- A field of a log message under a name that is taken. -/
  | takenField (name : String)
  /-- A preview that names neither a separator set nor a file of rules. -/
  | noRules
  deriving Repr, DecidableEq

namespace Failure

/-- How many characters of the literal of an offending text are shown. -/
def shownLength : Nat := 200

/-- The cause in words. -/
def message : Failure → String
  | .lookup message => message
  | .notDecimal segment =>
    "invalid literal for int() with base 10: " ++
      String.ofList ((Text.quotedChars segment.toList).take shownLength)
  | .tooManyDigits count =>
    "Exceeds the limit (4300 digits) for integer string conversion: value has " ++
      toString count ++ " digits; use sys.set_int_max_str_digits() to increase the limit"
  | .integerTooLong =>
    "Exceeds the limit (4300 digits) for integer string conversion; " ++
      "use sys.set_int_max_str_digits() to increase the limit"
  | .nestedTooDeeply follower => "maximum recursion depth exceeded" ++ follower
  | .integerTooLarge => "int too large to convert to float"
  | .noNumber => "cannot convert float NaN to integer"
  | .infiniteNumber => "cannot convert float infinity to integer"
  | .noPositiveWeight => "max() arg is an empty sequence"
  | .repetitionTooLarge => "the repetition number is too large"
  | .conflictingClasses => "ASCII and UNICODE flags are incompatible"
  | .unhashable kind => "unhashable type: '" ++ kind ++ "'"
  | .notIterable kind => "'" ++ kind ++ "' object is not iterable"
  | .undecodable fault => fault.message
  | .nullInPath => "embedded null byte"
  | .unknownLevel name => "Unknown level: " ++ Text.quoted name
  | .takenField name =>
    Text.quoted ("Attempt to overwrite " ++ Text.quoted name ++ " in LogRecord")
  | .noRules => "can only concatenate str (not \"NoneType\") to str"

end Failure

end PromptTree
