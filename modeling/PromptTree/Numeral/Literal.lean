import PromptTree.Text.Class
import PromptTree.Text.Cut
import PromptTree.Numeral.Dyadic

/-!
# Reading numbers

Numbers from text, in the two forms that input may use: the loose form, in which a
field of a document may spell a number as a string, and the form of a path segment
or an argument.

## Main Definitions

* `scientific` — the nearest number to digits times a power of ten.
* `plainInt`, `looseInt`, `looseFloat?` — numbers spelled in a document.
* `wholeNumber?` — an integer spelled with the decimal digits of any script.

## Design Notes

The exponent of a number may have any size, so `scientific` decides overflow and
underflow by the place of the first digit before any power is computed.
-/

namespace PromptTree.Numeral

open PromptTree.Text

/-- The value of decimal ASCII digits. -/
def digitsValue (cs : List Char) : Nat :=
  cs.foldl (fun value c => value * 10 + (c.toNat - 0x30)) 0

/-- The value of a hexadecimal digit. -/
def hexValue? (c : Char) : Option Nat :=
  if isPlainDigit c then some (c.toNat - 0x30)
  else if 'a' ≤ c ∧ c ≤ 'f' then some (c.toNat - 0x61 + 10)
  else if 'A' ≤ c ∧ c ≤ 'F' then some (c.toNat - 0x41 + 10)
  else none

/-- The nearest number to `coefficient * 10 ^ exponent`. -/
def scientific (coefficient : Nat) (exponent : Int) : Float :=
  if coefficient = 0 then 0.0
  else
    let place := Int.ofNat (Nat.toDigits 10 coefficient).length + exponent
    if 400 < place then Float.ofBits 0x7FF0000000000000
    else if place < -400 then 0.0
    else Float.ofScientific coefficient (exponent < 0) exponent.natAbs

/-- Digits, underscores left out.  Underscores stand between digits, one at a time. -/
def ungroup? (cs : List Char) : Option (List Char) :=
  if cs.head? == some '_' || cs.getLast? == some '_' || containsChars ['_', '_'] cs then none
  else some (cs.filter (· ≠ '_'))

/-- Whether a text is one or more ASCII digits. -/
def allDigits (cs : List Char) : Bool :=
  !cs.isEmpty && cs.all isPlainDigit

/-! ## Integers of documents -/

/-- What kept a text from being read as an integer. -/
inductive LooseIntError where
  | malformed
  | tooLong
  deriving Repr, DecidableEq

/-- The most digits of an integer that is spelled as text. -/
def digitLimit : Nat := 4300

/-- An integer in its plain form: perhaps a minus sign, then a single zero or digits that do
not begin with one.  The sign counts for the length, and a text that begins with too many
digits is too long whatever follows them. -/
def plainInt (cs : List Char) : Except LooseIntError Int :=
  let (negative, body) : Bool × List Char :=
    match cs with
    | '-' :: rest => (true, rest)
    | _ => (false, cs)
  let digits := body.takeWhile isPlainDigit
  if body = ['0'] then .ok 0
  else if digits.isEmpty || digits.head? == some '0' then .error .malformed
  else if digitLimit < digits.length + (if negative then 1 else 0) then .error .tooLong
  else if digits.length = body.length then
    let value := Int.ofNat (digitsValue digits)
    .ok (if negative then -value else value)
  else .error .malformed

/-- A text without the point and the zeros that it ends in, if there are any zeros. -/
def dropZeroPlaces (cs : List Char) : List Char :=
  let backwards := cs.reverse
  match backwards.head?, backwards.dropWhile (· == '0') with
  | some '0', '.' :: whole => whole.reverse
  | _, _ => cs

/-- A text without the zeros that it begins with and the underscores among them, the last
character kept.  A minus sign may stand before the first digit, or between the zeros and
what follows them. -/
def dropLeadingZeros? (cs : List Char) : Option (List Char) :=
  let mayBegin (c : Char) : Bool := c == '-' || isPlainDigit c
  match cs with
  | '0' :: _ =>
    match cs.dropWhile fun c => c == '0' || c == '_' with
    | [] => some (cs.drop (cs.length - 1))
    | c :: rest => if mayBegin c then some (c :: rest) else none
  | c :: _ => if mayBegin c then some cs else none
  | [] => none

/-- The plain form that a text stands for: white space around it is dropped, a plus sign
before it, a point followed by zeros only, leading zeros, and single underscores. -/
def tidyInt? (cs : List Char) : Option (List Char) :=
  let unsigned? : Option (List Char) :=
    match stripChars isSpace cs with
    | '+' :: '-' :: _ => none
    | '+' :: rest => some rest
    | rest => some rest
  (unsigned?.bind fun body => dropLeadingZeros? (dropZeroPlaces body)).map fun digits =>
    (ungroup? digits).getD digits

/-- An integer as a document may spell it: in its plain form, or in a form that is tidied
first.  Only a text that is in its plain form can be too long. -/
def looseInt (s : String) : Except LooseIntError Int :=
  match plainInt s.toList with
  | .error .malformed =>
    match (tidyInt? s.toList).map plainInt with
    | some (.ok n) => .ok n
    | _ => .error .malformed
  | result => result

/-! ## Floating point numbers of documents -/

/-- The digits of a number with a point and an exponent, either optional. -/
def looseMagnitude? (cs : List Char) : Option Float :=
  let (mantissa, exponent) :=
    match cutChars 'e' (cs.map fun c => if c == 'E' then 'e' else c) with
    | (before, after) => (before, after)
  let (whole, fraction) := cutChars '.' mantissa
  let places := fraction.getD []
  let digits := whole ++ places
  let scale : Option Int :=
    match exponent with
    | none => some 0
    | some ('-' :: rest) => if allDigits rest then some (-Int.ofNat (digitsValue rest)) else none
    | some ('+' :: rest) => if allDigits rest then some (Int.ofNat (digitsValue rest)) else none
    | some rest => if allDigits rest then some (Int.ofNat (digitsValue rest)) else none
  match scale with
  | some scale =>
    if allDigits digits then
      some (scientific (digitsValue digits) (scale - Int.ofNat places.length))
    else none
  | none => none

/-- A number in the form that reading floating point admits: a sign, then digits with a
point and an exponent, or the words for infinity and for no number in any case. -/
def plainFloat? (cs : List Char) : Option Float :=
  let (negative, body) :=
    match cs with
    | '-' :: rest => (true, rest)
    | '+' :: rest => (false, rest)
    | rest => (false, rest)
  let word := String.ofList (body.map Char.toLower)
  let magnitude :=
    if word == "inf" || word == "infinity" then some (Float.ofBits 0x7FF0000000000000)
    else if word == "nan" then some (Float.ofBits 0x7FF8000000000000)
    else looseMagnitude? body
  magnitude.map fun x => if negative then -x else x

/-- A number as a document may spell it: with white space around it, or with single
underscores between its characters. -/
def looseFloat? (s : String) : Option Float :=
  match plainFloat? (stripChars isSpace s.toList) with
  | some x => some x
  | none => (ungroup? s.toList).bind plainFloat?

/-! ## Integers of arguments and of paths -/

/-- An integer of decimal digits of any script. -/
def decimals? (cs : List Char) : Option Nat :=
  if cs.isEmpty then none
  else cs.foldl (fun value c => do return (← value) * 10 + (← decimalValue? c)) (some 0)

/-- An integer as an argument spells it: white space around, a sign, and decimal digits of
any script with single underscores between them, up to the limit of digits. -/
def wholeNumber? (s : String) : Option Int :=
  let magnitude? (cs : List Char) : Option Int := do
    let digits ← ungroup? cs
    if digitLimit < digits.length then none else (decimals? digits).map Int.ofNat
  match stripChars isBlank s.toList with
  | '-' :: rest => (magnitude? rest).map fun n => -n
  | '+' :: rest => magnitude? rest
  | rest => magnitude? rest

end PromptTree.Numeral
