import PromptTree.Numeral.Literal
import PromptTree.Text.Cut

/-!
# Targets of requests

The path in the target of a request: what is left of it without a scheme, an authority, a
query and a fragment.

## Main Definitions

* `Web.pathOf` — the path of a target, with exactly one slash at its beginning.
* `Web.mergeSlashes` — a path with every two slashes merged into one.
-/

namespace PromptTree.Web

open Text

/-- Whether a character may stand in a scheme. -/
def inScheme (c : Char) : Bool :=
  isPlainLetter c || isPlainDigit c || c == '+' || c == '-' || c == '.'

/-- A target without its scheme. -/
def dropScheme (cs : List Char) : List Char :=
  match cutChars ':' cs with
  | (scheme, some rest) =>
    if (scheme.head?.any isPlainLetter) && scheme.all inScheme then rest else cs
  | (_, none) => cs

/-- A target without its authority, which stands after two slashes. -/
def dropAuthority : List Char → List Char
  | '/' :: '/' :: rest => rest.dropWhile fun c => !(c == '/' || c == '?' || c == '#')
  | cs => cs

/-- Characters with those that are escaped by a percent sign and two digits.  Escapes beyond
ASCII stay as they are. -/
def unescape : List Char → List Char
  | '%' :: a :: b :: rest =>
    match Numeral.hexValue? a, Numeral.hexValue? b with
    | some high, some low =>
      if high < 8 then Char.ofNat (high * 16 + low) :: unescape rest
      else '%' :: a :: b :: unescape rest
    | _, _ => '%' :: unescape (a :: b :: rest)
  | c :: rest => c :: unescape rest
  | [] => []
termination_by cs => cs.length

/-- A target without what is no part of it: white space and control characters before it, and
tabs and line ends inside. -/
def tidyTarget (cs : List Char) : List Char :=
  (cs.dropWhile (· ≤ ' ')).filter fun c => !(c == '\t' || c == '\n' || c == '\r')

/-- A target without its scheme, its authority, its fragment and its query. -/
def barePath (cs : List Char) : List Char :=
  let cs := dropAuthority (dropScheme (tidyTarget cs))
  (cutChars '?' (cutChars '#' cs).1).1

/-- The path of a target, with exactly one slash at its beginning.  What is left of a target
is taken for a target once more, so that a scheme or an authority may stand there twice. -/
def pathOf (target : String) : List Char :=
  '/' :: (unescape (barePath (barePath target.toList))).dropWhile (· == '/')

/-- A path with every two slashes merged into one. -/
def mergeSlashes : List Char → List Char
  | '/' :: '/' :: rest => '/' :: mergeSlashes rest
  | c :: rest => c :: mergeSlashes rest
  | [] => []

end PromptTree.Web
