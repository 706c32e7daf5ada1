import PromptTree.Format.Basic
import PromptTree.Text.Case
import PromptTree.Text.Cut

/-!
# Applying formats

The steps run in a fixed order: trim, change case, replace in turn, cut to length, put the
outer texts around.

## Main Definitions

* `Format.apply` — a text in a format.
-/

namespace PromptTree

/-- A text in another case. -/
def LetterCase.apply : LetterCase → String → String
  | .upper, s => Text.upper s
  | .lower, s => Text.lower s
  | .title, s => Text.titleWords s
  | .sentence, s => Text.sentence s

namespace Format

/-- What stands for the end of a text that was cut. -/
def ellipsis : String := "..."

/-- A text cut to a length that includes the ellipsis.  A length of zero cuts nothing, and
one shorter than the ellipsis leaves the ellipsis alone. -/
def cutTo (limit : Option Nat) (s : String) : String :=
  match limit with
  | none => s
  | some limit =>
    if limit ≠ 0 ∧ limit < s.length then
      Text.keep (limit - ellipsis.length) s ++ ellipsis
    else s

/-- A text in a format. -/
def apply (f : Format) (s : String) : String :=
  let trimmed := if f.trim then Text.strip s else s
  let cased := match f.letterCase with
    | some c => c.apply trimmed
    | none => trimmed
  let replaced := (f.replacements.getD []).foldl (fun s r => Text.replaceAll r.old r.new s) cased
  f.before.getD "" ++ cutTo f.limit replaced ++ f.after.getD ""

/-- A text in a format that may be missing. -/
def applyIfAny (f : Option Format) (s : String) : String :=
  match f with
  | some f => f.apply s
  | none => s

end Format

end PromptTree
