import PromptTree.Text.Class

/-!
# Quoted literals

The literal form of a text, as it stands in messages about offending values.

## Main Definitions

* `quoteMark` — single quotes, unless the text holds some and no double quote.
* `escapeChar` — one character inside a literal.
* `quoted` — a text as a literal.
-/

namespace PromptTree.Text

/-- The lower case hexadecimal digits of a number, padded with zeros to a width. -/
def hexDigits (width n : Nat) : List Char :=
  let digits := Nat.toDigits 16 n
  List.replicate (width - digits.length) '0' ++ digits

/-- Single quotes, unless the text holds a single quote and no double quote. -/
def quoteMark (cs : List Char) : Char :=
  if cs.contains '\'' && !cs.contains '"' then '"' else '\''

/-- A character inside a literal: the mark and the backslash escaped, three control
characters by letter, and whatever else has no printed form by its code point. -/
def escapeChar (mark c : Char) : List Char :=
  if c == mark || c == '\\' then ['\\', c]
  else if c == '\t' then ['\\', 't']
  else if c == '\n' then ['\\', 'n']
  else if c == '\r' then ['\\', 'r']
  else if isPrintable c then [c]
  else if c.toNat ≤ 0xFF then '\\' :: 'x' :: hexDigits 2 c.toNat
  else if c.toNat ≤ 0xFFFF then '\\' :: 'u' :: hexDigits 4 c.toNat
  else '\\' :: 'U' :: hexDigits 8 c.toNat

/-- The literal of a text. -/
def quotedChars (cs : List Char) : List Char :=
  let mark := quoteMark cs
  mark :: cs.flatMap (escapeChar mark) ++ [mark]

/-- The literal of a string. -/
def quoted (s : String) : String :=
  String.ofList (quotedChars s.toList)

end PromptTree.Text
