import PromptTree.Numeral.Fixed

/-!
# Points in time

The date and the time of day of an instant, counted from the beginning of 1970, in UTC.

## Main Definitions

* `Instant.date` — year, month and day of a number of days.
* `Instant.text` — an instant as text.
-/

namespace PromptTree.Instant

/-- Year, month and day of a number of days since the first of January 1970.  Years are taken
to begin in March, so that a leap day is their last, and four centuries have as many days as
any other four. -/
def date (days : Nat) : Nat × Nat × Nat :=
  let shifted := days + 719468
  let era := shifted / 146097
  let day := shifted % 146097
  let year := (day - day / 1460 + day / 36524 - day / 146096) / 365
  let dayOfYear := day - (365 * year + year / 4 - year / 100)
  let month := (5 * dayOfYear + 2) / 153
  let dayOfMonth := dayOfYear - (153 * month + 2) / 5 + 1
  let calendarMonth := if month < 10 then month + 3 else month - 9
  (year + era * 400 + (if calendarMonth ≤ 2 then 1 else 0), calendarMonth, dayOfMonth)

/-- A number of two digits. -/
def two (n : Nat) : String :=
  String.ofList (Numeral.paddedDigits 2 n)

/-- The text of an instant, given in microseconds. -/
def text (microseconds : Nat) : String :=
  let seconds := microseconds / 1000000
  let (year, month, day) := date (seconds / 86400)
  let time := seconds % 86400
  String.ofList (Numeral.paddedDigits 4 year) ++ "-" ++ two month ++ "-" ++ two day ++ "T" ++
    two (time / 3600) ++ ":" ++ two (time / 60 % 60) ++ ":" ++ two (time % 60) ++ "." ++
    String.ofList (Numeral.paddedDigits 6 (microseconds % 1000000)) ++ "+00:00"

end PromptTree.Instant
