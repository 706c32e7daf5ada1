import PromptTree.Text.CaseTable
import PromptTree.Text.Class

/-!
# Upper case, lower case and the forms built from them

Full case mapping of text: a character may become several, and a capital sigma
becomes a final sigma at the end of a word.

## Main Definitions

* `upper`, `lower` — the mappings of a text.
* `titleWords` — every word with a capital first character and the rest lower.
* `sentence` — a capital first character and all else lower.
* `fold` — the form in which characters agree that differ in case only.
* `caseVariants` — the characters that agree with one under `fold`.

## Design Notes

A word, for `titleWords`, is a word character and everything up to the next white
space, so an apostrophe or a hyphen does not start a new one.
-/

namespace PromptTree.Text

namespace CaseSpan

/-- Whether the span shifts a code point. -/
def covers (span : CaseSpan) (code : Nat) : Bool :=
  span.first ≤ code && code ≤ span.last && (code - span.first) % span.step == 0

/-- A code point shifted by the span. -/
def apply (span : CaseSpan) (code : Nat) : Nat :=
  (Int.ofNat code + span.shift).toNat

/-- The code point that the span shifts to a given one. -/
def source? (span : CaseSpan) (code : Nat) : Option Nat :=
  let source := Int.ofNat code - span.shift
  if 0 ≤ source && span.covers source.toNat then some source.toNat else none

end CaseSpan

/-- The code points of a character under a mapping made of expansions and spans. -/
def mapCase (expansions : List (Nat × List Nat)) (spans : List CaseSpan) (c : Char) : List Char :=
  match expansions.lookup c.toNat with
  | some codes => codes.map Char.ofNat
  | none =>
    match spans.find? (·.covers c.toNat) with
    | some span => [Char.ofNat (span.apply c.toNat)]
    | none => [c]

/-- Upper case of one character. -/
def upperChar (c : Char) : List Char :=
  if c.toNat < 0x80 then [c.toUpper] else mapCase upperExpansions upperSpans c

/-- Lower case of one character, apart from the final sigma. -/
def lowerChar (c : Char) : List Char :=
  if c.toNat < 0x80 then [c.toLower] else mapCase lowerExpansions lowerSpans c

/-- Upper case of a text. -/
def upperChars (cs : List Char) : List Char :=
  cs.flatMap upperChar

/-- Whether the first character that is not case-ignorable is cased. -/
def meetsCased (cs : List Char) : Bool :=
  match cs.dropWhile fun c => inRanges ignorableRanges c.toNat with
  | c :: _ => inRanges casedRanges c.toNat
  | [] => false

/-- Lower case of a text whose preceding characters, nearest first, are `before`.  A
capital sigma after a cased letter and not before one is final. -/
def lowerFrom (before : List Char) : List Char → List Char
  | [] => []
  | c :: rest =>
    let mapped :=
      if c == 'Σ' then [if meetsCased before && !meetsCased rest then 'ς' else 'σ']
      else lowerChar c
    mapped ++ lowerFrom (c :: before) rest

/-- Lower case of a text. -/
def lowerChars (cs : List Char) : List Char :=
  lowerFrom [] cs

/-- Upper case of a string. -/
def upper (s : String) : String :=
  String.ofList (upperChars s.toList)

/-- Lower case of a string. -/
def lower (s : String) : String :=
  String.ofList (lowerChars s.toList)

/-- A capital first character, the rest in lower case. -/
def capitalizeChars : List Char → List Char
  | [] => []
  | c :: rest => upperChar c ++ lowerChars rest

/-- A string as a sentence: a capital first character and all else lower. -/
def sentence (s : String) : String :=
  String.ofList (capitalizeChars s.toList)

/-- Capitalizes every word of a text; `word` holds the characters, last first, of the
word that is being read, and is empty between words. -/
def titleFrom (word : List Char) : List Char → List Char
  | [] => capitalizeChars word.reverse
  | c :: rest =>
    match word with
    | [] => if isWord c then titleFrom [c] rest else c :: titleFrom [] rest
    | _ :: _ =>
      if isBlank c then capitalizeChars word.reverse ++ c :: titleFrom [] rest
      else titleFrom (c :: word) rest

/-- Capitalizes every word of a string. -/
def titleWords (s : String) : String :=
  String.ofList (titleFrom [] s.toList)

/-- Lower case of one character as one character. -/
def lowerOne (c : Char) : Char :=
  (lowerChar c).headD c

/-- Upper case of one character as one character. -/
def upperOne (c : Char) : Char :=
  (upperChar c).headD c

/-- The form of a character in which case makes no difference. -/
def fold (c : Char) : List Char :=
  upperChar (lowerOne c)

/-- The characters with a given upper case. -/
def upperSources (form : List Char) : List Char :=
  let expanded := upperExpansions.filterMap fun (code, codes) =>
    if codes.map Char.ofNat = form then some (Char.ofNat code) else none
  match form with
  | [c] => c :: upperSpans.filterMap (fun span => (span.source? c.toNat).map Char.ofNat) ++ expanded
  | _ => expanded

/-- Characters among which are all those with a given lower case as one character. -/
def lowerSources (c : Char) : List Char :=
  let expanded := lowerExpansions.filterMap fun (code, codes) =>
    if codes.head? = some c.toNat then some (Char.ofNat code) else none
  c :: lowerSpans.filterMap (fun span => (span.source? c.toNat).map Char.ofNat) ++ expanded

/-- The characters that differ from one in case only, itself included. -/
def caseVariants (c : Char) : List Char :=
  let form := fold c
  ((upperSources form).flatMap lowerSources).filter (fold · = form)

end PromptTree.Text
