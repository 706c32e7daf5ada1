import PromptTree.Failure
import PromptTree.Numeral.Literal
import PromptTree.Text.Cut
import PromptTree.Value.Basic

/-!
# Dotted paths

Drilling into a value along the segments of a path: objects by key, lists and tuples
by position.  A segment that does not apply, and an intermediate value that counts as
false, give `null`.

## Main Definitions

* `Value.position?` — the position a segment names.
* `Value.follow` — the value at the end of a list of segments.
* `Value.resolve` — the value at the end of a path, the value itself without one.

## Design Notes

A segment counts as a position if it consists of digits of any kind, but only decimal
digits spell a number; a superscript two is the first and not the second, and following
it into a list fails.
-/

namespace PromptTree.Value

/-- The position a segment names: none if it is not made of digits. -/
def position? (segment : String) : Except Failure (Option Nat) :=
  let cs := segment.toList
  if cs.isEmpty || !cs.all Text.isDigit then .ok none
  else
    let run := (cs.takeWhile fun c => (Text.decimalValue? c).isSome).length
    if Numeral.digitLimit < run then .error (.tooManyDigits run)
    else
      match Numeral.decimals? cs with
      | none => .error (.notDecimal segment)
      | some n => .ok (some n)

/-- One step of a path. -/
def step (segment : String) : Value → Except Failure Value
  | .object entries => .ok (Entries.getD entries segment)
  | .list items => (position? segment).map fun at? => (at?.bind (items[·]?)).getD .null
  | .tuple items => (position? segment).map fun at? => (at?.bind (items[·]?)).getD .null
  | _ => .ok .null

/-- The value at the end of a list of segments. -/
def follow : List String → Value → Except Failure Value
  | [], v => .ok v
  | segment :: rest, v =>
    if v.isTruthy then
      match step segment v with
      | .ok next => follow rest next
      | .error failure => .error failure
    else .ok .null

/-- The value at the end of a dotted path.  Without a path, and from `null`, it is the
value itself. -/
def resolve (v : Value) (path : Option String) : Except Failure Value :=
  match path with
  | none => .ok v
  | some path => if path.isEmpty || v.isNull then .ok v else follow (Text.splitAt '.' path) v

end PromptTree.Value
