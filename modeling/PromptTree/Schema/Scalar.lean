import PromptTree.Schema.Fault
import PromptTree.Text.Case

/-!
# Reading scalars

How the fields of a document may spell texts, booleans and numbers.  Texts have to be
texts; booleans and numbers may be spelled by each other and by texts where nothing is
lost.

## Main Definitions

* `string`, `boolean`, `integer`, `number` — the readers.
* `atLeast`, `oneOf` — further demands on an integer and on a text.
-/

namespace PromptTree.Schema

open PromptTree.Numeral

/-- A reader of values. -/
abbrev Reader (α : Type) := Value → Checked α

/-- Any value. -/
def anything : Reader Value := .ok

/-- A text. -/
def string : Reader String
  | .str s => .ok s
  | v => .fail .notString v

/-- One of some texts. -/
def oneOf {α : Type} (choices : List (String × α)) : Reader α := fun v =>
  match v.str?.bind (choices.lookup ·) with
  | some choice => .ok choice
  | none => .fail (.notOneOf (choices.map Prod.fst)) v

/-- The least integer of 64 bits. -/
def leastWord : Int :=
  -9223372036854775808

/-- Whether an integer fits into 64 bits. -/
def fitsWord (n : Int) : Bool :=
  leastWord ≤ n && n < -leastWord

/-- The words for true and false. -/
def boolWord? (word : String) : Option Bool :=
  if ["1", "true", "t", "yes", "y", "on"].contains word then some true
  else if ["0", "false", "f", "no", "n", "off"].contains word then some false
  else none

/-- A boolean that an integer spells. -/
def booleanOf (v : Value) (n : Int) : Checked Bool :=
  if n = 0 then .ok false else if n = 1 then .ok true else .fail .unreadableBoolean v

/-- A boolean: also 0 and 1, and words for true and false. -/
def boolean : Reader Bool
  | .bool b => .ok b
  | .str s =>
    match boolWord? (String.ofList (s.toList.map Char.toLower)) with
    | some b => .ok b
    | none => .fail .unreadableBoolean (.str s)
  | .int n => if fitsWord n then booleanOf (.int n) n else .fail .notBoolean (.int n)
  | .float x =>
    match integer? x with
    | some n =>
      if fitsWord n && n ≠ leastWord then booleanOf (.float x) n else .fail .notBoolean (.float x)
    | none => .fail .notBoolean (.float x)
  | v => .fail .notBoolean v

/-- An integer: also a boolean, a whole number that fits into 64 bits, and a text. -/
def integer : Reader Int
  | .int n => .ok n
  | .bool b => .ok (if b then 1 else 0)
  | .float x =>
    match decode x with
    | .finite d =>
      if !d.isIntegral then .fail .fraction (.float x)
      else if fitsWord d.truncate && d.truncate ≠ leastWord then .ok d.truncate
      else .fail .integerTooLong (.float x)
    | _ => .fail .notFinite (.float x)
  | .str s =>
    match looseInt s with
    | .ok n => .ok n
    | .error .malformed => .fail .unreadableInteger (.str s)
    | .error .tooLong => .fail .integerTooLong (.str s)
  | v => .fail .notInteger v

/-- An integer that is not less than a bound. -/
def atLeast (least : Int) : Reader Int := fun v =>
  (integer v).andThen fun n => if n < least then .fail (.tooSmall least) v else .ok n

/-- A floating point number: also a boolean, an integer within range, and a text. -/
def number : Reader Float
  | .float x => .ok x
  | .bool b => .ok (if b then 1.0 else 0.0)
  | .int n =>
    match nearest? n with
    | some x => .ok x
    | none => .fail .notNumber (.int n)
  | .str s =>
    match looseFloat? s with
    | some x => .ok x
    | none => .fail .unreadableNumber (.str s)
  | v => .fail .notNumber v

end PromptTree.Schema
