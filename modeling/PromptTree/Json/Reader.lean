import PromptTree.Json.Fault
import PromptTree.Nesting
import PromptTree.Numeral.Literal
import PromptTree.Value.Basic

/-!
# Reading JSON text

JSON with the words `NaN`, `Infinity` and `-Infinity` for numbers.  Numbers without a
point or an exponent are integers of any size up to a limit of digits, others the
nearest floating point number.  Of two members with one name the last counts.

## Main Definitions

* `Json.parse` — the value of a text, or the first fault in it.
* `Json.hasLoneHalf` — whether an escape spells half of a surrogate pair without the other.

## Design Notes

The reader of a construct gets the characters that are left and returns what is left
after it.  A fault is carried as the number of characters that were left where it
was met, and placed by `Json.parse`.  Each nested construct costs at least one
character, so the length of the text bounds the recursion.

A list or an object takes room as soon as its bracket is read, whatever is in it;
`NestingLimits.brackets` says how much there is.

Texts consist of characters, and one half of a surrogate pair is no character: where an escape
spells a half that stands alone, U+FFFD is read instead.  `hasLoneHalf` tells in which texts.
-/

namespace PromptTree.Json

open PromptTree.Numeral PromptTree.Text

/-- A fault before it is placed. -/
inductive Stop where
  | met (cause : Cause) (left : Nat)
  | tooManyDigits (count : Nat)
  | nestedTooDeeply (follower : String)
  deriving Repr

/-- A reader's answer: a result and the characters left. -/
abbrev Reading (α : Type) := Except Stop (α × List Char)

/-- A stop at the characters that are left. -/
def stopAt {α : Type} (cause : Cause) (rest : List Char) : Except Stop α :=
  .error (.met cause rest.length)

/-- The characters after white space. -/
def skipSpace (cs : List Char) : List Char :=
  cs.dropWhile fun c => c == ' ' || c == '\t' || c == '\n' || c == '\r'

/-- The value of four hexadecimal digits. -/
def fourHex? (a b c d : Char) : Option Nat := do
  return (((← hexValue? a) * 16 + (← hexValue? b)) * 16 + (← hexValue? c)) * 16 + (← hexValue? d)

/-- A character of a code unit; a surrogate that stands alone becomes U+FFFD. -/
def unitChar (code : Nat) : Char :=
  if 0xD800 ≤ code ∧ code ≤ 0xDFFF then Char.ofNat 0xFFFD else Char.ofNat code

/-- Whether an escape spells half of a surrogate pair without the other half.  `high` tells that
the escape before spells a first half. -/
def hasLoneHalfAfter (high : Bool) : List Char → Bool
  | '\\' :: 'u' :: a :: b :: c :: d :: rest =>
    match fourHex? a b c d with
    | none => high || hasLoneHalfAfter false rest
    | some code =>
      if 0xDC00 ≤ code ∧ code ≤ 0xDFFF then !high || hasLoneHalfAfter false rest
      else high || hasLoneHalfAfter (0xD800 ≤ code && code ≤ 0xDBFF) rest
  | '\\' :: _ :: rest => high || hasLoneHalfAfter false rest
  | _ :: rest => high || hasLoneHalfAfter false rest
  | [] => high

/-- Whether an escape in a JSON text spells half of a surrogate pair without the other half. -/
def hasLoneHalf (text : String) : Bool :=
  hasLoneHalfAfter false text.toList

/-- The character that a letter after a backslash stands for. -/
def escaped? (c : Char) : Option Char :=
  match c with
  | '"' => some '"'
  | '\\' => some '\\'
  | '/' => some '/'
  | 'b' => some (Char.ofNat 8)
  | 'f' => some (Char.ofNat 12)
  | 'n' => some '\n'
  | 'r' => some '\r'
  | 't' => some '\t'
  | _ => none

/-- Reads the rest of a string.  `opening` counts the characters left at its opening quote,
`done` holds what was read, last first, and `high` a high surrogate that a low one may
complete.  The first argument bounds the number of steps. -/
def readString (opening : Nat) : Nat → List Char → Option Nat → List Char → Reading String
  | 0, _, _, _ => .error (.met .unterminatedString opening)
  | fuel + 1, done, high, cs =>
    let settled := match high with
      | some _ => Char.ofNat 0xFFFD :: done
      | none => done
    match cs with
    | [] => .error (.met .unterminatedString opening)
    | '"' :: rest => .ok (String.ofList settled.reverse, rest)
    | '\\' :: [] => .error (.met .unterminatedString opening)
    | '\\' :: 'u' :: rest =>
      match rest with
      | a :: b :: c :: d :: after =>
        -- the closing quote must still follow
        if after.isEmpty then stopAt .unicodeEscape ('u' :: rest)
        else
          match fourHex? a b c d with
          | none => stopAt .unicodeEscape ('u' :: rest)
          | some code =>
            match high with
            | some top =>
              if 0xDC00 ≤ code ∧ code ≤ 0xDFFF then
                let joined := 0x10000 + (top - 0xD800) * 0x400 + (code - 0xDC00)
                readString opening fuel (Char.ofNat joined :: done) none after
              else if 0xD800 ≤ code ∧ code ≤ 0xDBFF then
                readString opening fuel settled (some code) after
              else readString opening fuel (unitChar code :: settled) none after
            | none =>
              if 0xD800 ≤ code ∧ code ≤ 0xDBFF then readString opening fuel done (some code) after
              else readString opening fuel (unitChar code :: done) none after
      | _ => stopAt .unicodeEscape ('u' :: rest)
    | '\\' :: c :: rest =>
      match escaped? c with
      | some e => readString opening fuel (e :: settled) none rest
      | none => stopAt .escape cs
    | c :: rest =>
      if c.toNat < 0x20 then stopAt .controlCharacter cs
      else readString opening fuel (c :: settled) none rest

/-- The digits of a number and what is left after them. -/
def takeDigits (cs : List Char) : List Char × List Char :=
  (cs.takeWhile isPlainDigit, cs.dropWhile isPlainDigit)

/-- The exponent of a number, if one is there. -/
def readExponent (cs : List Char) : Option (Int × List Char) :=
  let digitsOf (negative : Bool) (cs : List Char) : Option (Int × List Char) :=
    let (digits, rest) := takeDigits cs
    if digits.isEmpty then none
    else
      let value := Int.ofNat (digitsValue digits)
      some (if negative then -value else value, rest)
  match cs with
  | e :: rest =>
    if e == 'e' || e == 'E' then
      match rest with
      | '-' :: rest => digitsOf true rest
      | '+' :: rest => digitsOf false rest
      | rest => digitsOf false rest
    else none
  | [] => none

/-- Reads a number after its sign.  `start` is the text from the sign on. -/
def readMagnitude (negative : Bool) (start cs : List Char) : Reading Value :=
  let (run, afterRun) := takeDigits cs
  -- a leading zero is a whole number by itself
  let (whole, rest) := match run with
    | '0' :: more => (['0'], more ++ afterRun)
    | _ => (run, afterRun)
  if whole.isEmpty then stopAt .value start
  else
    let (places, rest) : List Char × List Char :=
      match rest with
      | '.' :: after =>
        let (digits, left) := takeDigits after
        if digits.isEmpty then ([], rest) else (digits, left)
      | _ => ([], rest)
    match readExponent rest with
    | some (exponent, rest) =>
      let x := scientific (digitsValue (whole ++ places)) (exponent - Int.ofNat places.length)
      .ok (.float (if negative then -x else x), rest)
    | none =>
      if places.isEmpty then
        if digitLimit < whole.length then .error (.tooManyDigits whole.length)
        else
          let n := Int.ofNat (digitsValue whole)
          .ok (.int (if negative then -n else n), rest)
      else
        let x := scientific (digitsValue (whole ++ places)) (-Int.ofNat places.length)
        .ok (.float (if negative then -x else x), rest)

/-- Passes over a word. -/
def afterWord? (word cs : List Char) : Option (List Char) :=
  if word.isPrefixOf cs then some (cs.drop word.length) else none

/-- Reads a value that is neither a string nor nested. -/
def readAtom (cs : List Char) : Reading Value :=
  let words : List (String × Value) :=
    [("null", .null), ("true", .bool true), ("false", .bool false),
     ("NaN", .float (Float.ofBits 0x7FF8000000000000)),
     ("Infinity", .float (Float.ofBits 0x7FF0000000000000)),
     ("-Infinity", .float (Float.ofBits 0xFFF0000000000000))]
  match words.findSome? fun (word, v) => (afterWord? word.toList cs).map fun rest => (v, rest) with
  | some reading => .ok reading
  | none =>
    match cs with
    | '-' :: rest => readMagnitude true cs rest
    | _ => readMagnitude false cs cs

/-- What has no room for another list, in words. -/
def listFollower : String :=
  " while decoding a JSON array from a unicode string"

/-- What has no room for another object, in words. -/
def objectFollower : String :=
  " while decoding a JSON object from a unicode string"

mutual

/-- Reads a value. -/
def readValue : Nat → Nat → List Char → Reading Value
  | 0, _, cs => stopAt .value cs
  | fuel + 1, room, cs =>
    match cs with
    | '"' :: rest =>
      (readString cs.length (rest.length + 1) [] none rest).map fun (s, rest) => (.str s, rest)
    | '[' :: rest =>
      match room with
      | 0 => .error (.nestedTooDeeply listFollower)
      | room + 1 =>
        match skipSpace rest with
        | ']' :: rest => .ok (.list [], rest)
        | rest => (readItems fuel room [] rest).map fun (items, rest) => (.list items, rest)
    | '\x7b' :: rest =>
      match room with
      | 0 => .error (.nestedTooDeeply objectFollower)
      | room + 1 =>
        match skipSpace rest with
        | '\x7d' :: rest => .ok (.object [], rest)
        | rest =>
          (readMembers fuel room [] rest).map fun (members, rest) =>
            (.object (Entries.ofList members), rest)
    | _ => readAtom cs

/-- Reads the items of a list up to its end. -/
def readItems : Nat → Nat → List Value → List Char → Reading (List Value)
  | 0, _, _, cs => stopAt .value cs
  | fuel + 1, room, done, cs =>
    match readValue fuel room cs with
    | .error stop => .error stop
    | .ok (v, rest) =>
      match skipSpace rest with
      | ',' :: rest => readItems fuel room (v :: done) (skipSpace rest)
      | ']' :: rest => .ok ((v :: done).reverse, rest)
      | rest => stopAt .comma rest

/-- Reads the members of an object up to its end. -/
def readMembers : Nat → Nat → List (String × Value) → List Char → Reading (List (String × Value))
  | 0, _, _, cs => stopAt .name cs
  | fuel + 1, room, done, cs =>
    match cs with
    | '"' :: rest =>
      match readString cs.length (rest.length + 1) [] none rest with
      | .error stop => .error stop
      | .ok (key, rest) =>
        match skipSpace rest with
        | ':' :: rest =>
          match readValue fuel room (skipSpace rest) with
          | .error stop => .error stop
          | .ok (v, rest) =>
            match skipSpace rest with
            | ',' :: rest => readMembers fuel room ((key, v) :: done) (skipSpace rest)
            | '\x7d' :: rest => .ok (((key, v) :: done).reverse, rest)
            | rest => stopAt .comma rest
        | rest => stopAt .colon rest
    | _ => stopAt .name cs

end

/-- Places a stop in a text. -/
def Stop.inText (text : List Char) : Stop → Fault
  | .met cause left => .at cause text (text.length - left)
  | .tooManyDigits count => .tooManyDigits count
  | .nestedTooDeeply follower => .nestedTooDeeply follower

/-- Reads a whole text, white space around the value allowed. -/
def parseChars [limits : NestingLimits] (text : List Char) : Except Fault Value :=
  match text with
  | '\uFEFF' :: _ => .error (.at .byteOrderMark text 0)
  | _ =>
    match readValue (2 * text.length + 2) limits.brackets (skipSpace text) with
    | .error stop => .error (stop.inText text)
    | .ok (v, rest) =>
      match skipSpace rest with
      | [] => .ok v
      | rest => .error (.at .extraData text (text.length - rest.length))

/-- The value of a JSON text. -/
def parse [NestingLimits] (text : String) : Except Fault Value :=
  parseChars text.toList

end PromptTree.Json
