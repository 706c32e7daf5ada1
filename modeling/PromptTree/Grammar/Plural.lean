import PromptTree.Text.Cut
import PromptTree.Value.Display

/-!
# Plural forms

The choice of a phrase by a count.

## Main Definitions

* `countOf` — what a value counts as.
* `PluralForms` — the phrases, of which only the singular and the general one are needed.
* `PluralForms.select`, `PluralForms.render` — the phrase of a count, and its text.
-/

namespace PromptTree

/-- What a value counts as: its length if it is a list, itself if it is a number, and zero
otherwise. -/
def countOf (v : Value) : Number :=
  match v.items?, v.number? with
  | some items, _ => .int items.length
  | none, some n => n
  | none, none => .int 0

/-- The phrases of counts. -/
structure PluralForms where
  zero : Option String := none
  one : String
  two : Option String := none
  few : Option String := none
  many : Option String := none
  other : String
  deriving Repr, DecidableEq

namespace PluralForms

/-- A phrase that is there and meant for the count. -/
def choose (fits : Bool) (form : Option String) : Option String :=
  if fits then form else none

/-- The phrase of a count: few are three to four, many are five and more. -/
def select (forms : PluralForms) (count : Number) : String :=
  let candidates :=
    [choose (count.equals (.int 0)) forms.zero,
     choose (count.equals (.int 1)) (some forms.one),
     choose (count.equals (.int 2)) forms.two,
     choose (Number.atMost (.int 3) count && count.atMost (.int 4)) forms.few,
     choose (Number.atMost (.int 5) count) forms.many]
  (candidates.findSome? id).getD forms.other

/-- The phrase of a count with the count in it. -/
def render (forms : PluralForms) (count : Number) : String :=
  Text.replaceAll "\x7bcount\x7d" count.text (forms.select count)

end PluralForms

end PromptTree
