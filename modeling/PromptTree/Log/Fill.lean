import PromptTree.Numeral.Fixed
import PromptTree.Numeral.Literal
import PromptTree.Value.Display

/-!
# Filling in messages

Messages with places for values: a percent sign, perhaps a name in parentheses, flags, a
width and a precision, and a letter that says how the value is written.

## Main Definitions

* `Log.Place` — a place for a value.
* `Log.Place.write` — a value as a place demands it.
* `Log.fill` — a message with values in its places.

## Design Notes

There is no answer where a message and its values do not fit together: a place without a
value, a value without a place, a value of the wrong kind, an unknown letter.
-/

namespace PromptTree.Log

/-- The flags of a place. -/
structure Flags where
  left : Bool := false
  plus : Bool := false
  blank : Bool := false
  alternate : Bool := false
  zero : Bool := false

/-- A place for a value. -/
structure Place where
  flags : Flags := {}
  width : Nat := 0
  precision : Option Nat := none
  letter : Char

/-- What the values of a message are: one after the other, or by name. -/
inductive Values where
  | listed (values : List Value)
  | named (entries : Entries)

/-! ## Values in places -/

/-- Text in a width. -/
def Place.pad (place : Place) (text : List Char) : List Char :=
  let fill := List.replicate (place.width - text.length) ' '
  if place.flags.left then text ++ fill else fill ++ text

/-- A magnitude with its sign and what stands before it, in a width. -/
def Place.padNumber (place : Place) (negative : Bool) (start magnitude : List Char) :
    List Char :=
  let sign :=
    if negative then ['-'] else if place.flags.plus then ['+']
    else if place.flags.blank then [' '] else []
  let front := sign ++ start
  if place.flags.zero && !place.flags.left then
    front ++ List.replicate (place.width - (front.length + magnitude.length)) '0' ++ magnitude
  else place.pad (front ++ magnitude)

/-- An integer in a base. -/
def Place.integer (place : Place) (base : Nat) (start : List Char) (n : Int) : List Char :=
  let digits := Nat.toDigits base n.natAbs
  let least := place.precision.getD 1
  place.padNumber (n < 0) (if place.flags.alternate then start else [])
    (List.replicate (least - digits.length) '0' ++ digits)

/-- The upper case of hexadecimal digits and exponents. -/
def shout (cs : List Char) : List Char :=
  cs.map Char.toUpper

/-- The integer that a value counts as. -/
def wholeOf? : Value → Option Int
  | .int n => some n
  | .bool b => some (if b then 1 else 0)
  | _ => none

/-- A floating point number in a form for magnitudes. -/
def Place.float (place : Place) (form : Numeral.Dyadic → List Char) (x : Float) : List Char :=
  match Numeral.decode x with
  | .nan => place.padNumber false [] ['n', 'a', 'n']
  | .infinite negative => place.padNumber negative [] ['i', 'n', 'f']
  | .finite d => place.padNumber d.negative [] (form d)

/-- The floating point number that a value counts as. -/
def floatOf? : Value → Option Float
  | .float x => some x
  | v => (wholeOf? v).bind Numeral.nearest?

/-- The text of a value, cut to the precision. -/
def Place.text (place : Place) (s : String) : List Char :=
  let cs := s.toList
  place.pad (match place.precision with
    | some limit => cs.take limit
    | none => cs)

/-- A literal with every character outside ASCII escaped. -/
def plainLiteral (v : Value) : String :=
  String.ofList (v.literal.toList.flatMap fun c =>
    if c.toNat < 0x80 then [c]
    else if c.toNat ≤ 0xFF then '\\' :: 'x' :: Text.hexDigits 2 c.toNat
    else if c.toNat ≤ 0xFFFF then '\\' :: 'u' :: Text.hexDigits 4 c.toNat
    else '\\' :: 'U' :: Text.hexDigits 8 c.toNat)

/-- A value as a place demands it. -/
def Place.write (place : Place) (v : Value) : Option (List Char) :=
  let places := place.precision.getD 6
  let sharp := place.flags.alternate
  match place.letter with
  | 's' => some (place.text v.plain)
  | 'r' => some (place.text v.literal)
  | 'a' => some (place.text (plainLiteral v))
  | 'd' | 'i' | 'u' =>
    match v with
    | .float x =>
      match Numeral.decode x with
      | .finite d => some (place.integer 10 [] d.truncate)
      | _ => none
    | v => (wholeOf? v).map (place.integer 10 [])
  | 'o' => (wholeOf? v).map (place.integer 8 ['0', 'o'])
  | 'x' => (wholeOf? v).map (place.integer 16 ['0', 'x'])
  | 'X' => (wholeOf? v).map fun n => shout (place.integer 16 ['0', 'x'] n)
  | 'c' =>
    match v with
    | .str s => if s.length = 1 then some (place.pad s.toList) else none
    | v =>
      (wholeOf? v).bind fun n =>
        if 0 ≤ n ∧ n.toNat.isValidChar then some (place.pad [Char.ofNat n.toNat]) else none
  | 'f' => (floatOf? v).map (place.float (Numeral.fixedText sharp places))
  | 'F' => (floatOf? v).map fun x => shout (place.float (Numeral.fixedText sharp places) x)
  | 'e' => (floatOf? v).map (place.float (Numeral.exponentText sharp places))
  | 'E' => (floatOf? v).map fun x => shout (place.float (Numeral.exponentText sharp places) x)
  | 'g' => (floatOf? v).map (place.float (Numeral.generalText sharp places))
  | 'G' => (floatOf? v).map fun x => shout (place.float (Numeral.generalText sharp places) x)
  | _ => none

/-! ## Reading places -/

/-- A name up to the parenthesis that closes, given how many are open inside it, and the
characters after it. -/
def readName (depth : Nat) : List Char → Option (List Char × List Char)
  | [] => none
  | c :: rest =>
    if c == ')' && depth == 0 then some ([], rest)
    else
      let depth := if c == '(' then depth + 1 else if c == ')' then depth - 1 else depth
      (readName depth rest).map fun (name, after) => (c :: name, after)

/-- Flags, and the characters after them. -/
def readFlags (flags : Flags) : List Char → Flags × List Char
  | '-' :: rest => readFlags { flags with left := true } rest
  | '+' :: rest => readFlags { flags with plus := true } rest
  | ' ' :: rest => readFlags { flags with blank := true } rest
  | '#' :: rest => readFlags { flags with alternate := true } rest
  | '0' :: rest => readFlags { flags with zero := true } rest
  | cs => (flags, cs)

/-- The next value, and the values after it. -/
def next? : List Value → Option (Value × List Value)
  | [] => none
  | v :: rest => some (v, rest)

/-- What a width or a precision stays below. -/
def countLimit : Nat := Numeral.twoPower 31

/-- A count that is written in digits or is the next value, the values that are left and the
characters after it. -/
def readCount (values : List Value) (cs : List Char) : Option (Int × List Value × List Char) :=
  match cs with
  | '*' :: rest => do
    let (v, values) ← next? values
    let n ← wholeOf? v
    if n.natAbs < countLimit then return (n, values, rest) else none
  | cs =>
    let digits := cs.takeWhile Text.isPlainDigit
    let n := Numeral.digitsValue digits
    if n < countLimit then some (Int.ofNat n, values, cs.drop digits.length) else none

/-- A place after its name, the values that are left and the characters after it. -/
def readPlace (values : List Value) (cs : List Char) : Option (Place × List Value × List Char) := do
  let (flags, cs) := readFlags {} cs
  let (width, values, cs) ← readCount values cs
  let flags := if width < 0 then { flags with left := true } else flags
  let (precision, values, cs) ←
    match cs with
    | '.' :: rest => do
      let (n, values, cs) ← readCount values rest
      pure (some n.toNat, values, cs)
    | cs => pure (none, values, cs)
  let cs := match cs with
    | c :: rest => if c == 'h' || c == 'l' || c == 'L' then rest else cs
    | [] => cs
  match cs with
  | [] => none
  | letter :: rest =>
    return (⟨flags, width.natAbs, precision, letter⟩, values, rest)

/-- The values of a place: those that are left, or the one it names. -/
def valuesFor (values : Values) (left : List Value) (cs : List Char) :
    Option (List Value × List Char) :=
  match cs with
  | '(' :: rest =>
    match values with
    | .listed _ => none
    | .named entries => do
      let (name, rest) ← readName 0 rest
      let v ← Entries.get? entries (String.ofList name)
      return ([v], rest)
  | cs => some (left, cs)

/-- Fills in the rest of a message with the values that are left; the first argument bounds
the number of steps. -/
def fillFrom (values : Values) : Nat → List Value → List Char → Option (List Char)
  | 0, _, _ => none
  | _, left, [] =>
    match values with
    | .listed _ => if left.isEmpty then some [] else none
    | .named _ => some []
  | fuel + 1, left, '%' :: '%' :: cs => (fillFrom values fuel left cs).map ('%' :: ·)
  | fuel + 1, left, '%' :: cs => do
    let (given, cs) ← valuesFor values left cs
    let (place, given, cs) ← readPlace given cs
    let (v, given) ← next? given
    let shown ← place.write v
    let rest ← fillFrom values fuel given cs
    return shown ++ rest
  | fuel + 1, left, c :: cs => (fillFrom values fuel left cs).map (c :: ·)

/-- A message with values in its places.  A single object that is not empty gives its values
by name, or itself; without values a message is taken as it is. -/
def fill (message : String) (values : List Value) : Option String :=
  let cs := message.toList
  match values with
  | [] => some message
  | [.object entries] =>
    let all := if entries.isEmpty then .listed values else .named entries
    (fillFrom all (cs.length + 1) values cs).map String.ofList
  | values => (fillFrom (.listed values) (cs.length + 1) values cs).map String.ofList

end PromptTree.Log
