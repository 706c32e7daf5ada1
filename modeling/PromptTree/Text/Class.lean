import PromptTree.Text.LetterTable
import PromptTree.Text.NumeralTable
import PromptTree.Text.PrintTable
import PromptTree.Text.NameTable

/-!
# Classes of characters

The classes that trimming, word splitting, patterns, dotted paths and quoted
literals decide by.  Each is the Unicode 14 class of its name; ASCII characters
are answered without a table.

## Main Definitions

* `isBlank`, `isSpace` — what trimming removes; the second leaves out the four
  information separators.
* `isLetter`, `isWord` — letters; letters, numerals and the underscore.
* `isDigit`, `decimalValue?` — digits with any value; the value of a decimal digit.
* `isPrintable` — characters a quoted literal shows as they are.
* `isName` — texts that can name a group of a pattern.
-/

namespace PromptTree.Text

/-- Whether one of the closed ranges holds the code point. -/
def inRanges (ranges : List (Nat × Nat)) (code : Nat) : Bool :=
  ranges.any fun range => range.1 ≤ code && code ≤ range.2

/-- White space outside ASCII. -/
def wideBlanks : List (Nat × Nat) :=
  [(0x85, 0x85), (0xA0, 0xA0), (0x1680, 0x1680), (0x2000, 0x200A), (0x2028, 0x2029),
   (0x202F, 0x202F), (0x205F, 0x205F), (0x3000, 0x3000)]

/-- White space: the characters of the Unicode property and the four information
separators U+001C to U+001F. -/
def isBlank (c : Char) : Bool :=
  let code := c.toNat
  (9 ≤ code && code ≤ 13) || (0x1C ≤ code && code ≤ 0x20) ||
    (0x80 ≤ code && inRanges wideBlanks code)

/-- White space in the sense of the Unicode property alone. -/
def isSpace (c : Char) : Bool :=
  isBlank c && !(0x1C ≤ c.toNat && c.toNat ≤ 0x1F)

/-- ASCII letters. -/
def isPlainLetter (c : Char) : Bool :=
  ('a' ≤ c && c ≤ 'z') || ('A' ≤ c && c ≤ 'Z')

/-- ASCII decimal digits. -/
def isPlainDigit (c : Char) : Bool :=
  '0' ≤ c && c ≤ '9'

/-- Letters of any script. -/
def isLetter (c : Char) : Bool :=
  isPlainLetter c || (0x80 ≤ c.toNat && inRanges letterRanges c.toNat)

/-- Letters, numerals and the underscore. -/
def isWord (c : Char) : Bool :=
  isLetter c || isPlainDigit c || c == '_' ||
    (0x80 ≤ c.toNat && inRanges numeralRanges c.toNat)

/-- Digits, superscripts and the like included. -/
def isDigit (c : Char) : Bool :=
  isPlainDigit c || (0x80 ≤ c.toNat && inRanges digitRanges c.toNat)

/-- The value of a decimal digit of any script. -/
def decimalValue? (c : Char) : Option Nat :=
  if isPlainDigit c then some (c.toNat - 0x30)
  else if c.toNat < 0x80 then none
  else (decimalRanges.find? fun range => range.1 ≤ c.toNat && c.toNat ≤ range.2).map
    fun range => (c.toNat - range.1) % 10

/-- Decimal digits of any script. -/
def isDecimal (c : Char) : Bool :=
  (decimalValue? c).isSome

/-- Characters that a quoted literal shows as they are. -/
def isPrintable (c : Char) : Bool :=
  if c.toNat < 0x80 then 0x20 ≤ c.toNat && c.toNat < 0x7F
  else !inRanges unprintableRanges c.toNat

/-- Characters that may start a name. -/
def isNameStart (c : Char) : Bool :=
  c == '_' || (isLetter c && !inRanges nameBarredRanges c.toNat) ||
    inRanges nameStartRanges c.toNat

/-- Characters that may continue a name. -/
def isNameRest (c : Char) : Bool :=
  isNameStart c || isPlainDigit c || inRanges nameContinueRanges c.toNat

/-- Whether a text is a name: a starting character and any number of continuing ones. -/
def isName : List Char → Bool
  | [] => false
  | c :: rest => isNameStart c && rest.all isNameRest

end PromptTree.Text
