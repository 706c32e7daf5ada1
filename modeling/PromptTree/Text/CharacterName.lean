import PromptTree.Text.CharacterNames.Further
import PromptTree.Text.CharacterNames.Letters
import PromptTree.Text.CharacterNames.Pictures
import PromptTree.Text.CharacterNames.Scripts
import PromptTree.Text.CharacterNames.Signs
import PromptTree.Text.CharacterNames.Syllables
import PromptTree.Text.Class

/-!
# Characters by name

The code point of a character, given by one of its names in Unicode 14.

## Main Definitions

* `NameEntry`, `readEntries` — what a table says of a name.
* `findEntry` — the position of a name in a run of names.
* `familyCode?`, `ideographCode?`, `syllableCode?` — names that are made by a rule.
* `codeNamed?` — the code point of a name.

## Design Notes

Case does not matter in names, except in the names of unified ideographs and of Hangul
syllables, which a rule makes from capital letters.

A name in a table begins like the name before it.  A search therefore keeps count of how many
parts the last name had in common with the wanted one and never spells a name out.
-/

namespace PromptTree.Text

/-! ## Tables -/

/-- What a table says of a name: how many parts it has in common with the name before it, and
the parts after those. -/
structure NameEntry where
  kept : Nat
  parts : List (List Char)
  deriving Repr, DecidableEq

/-- The parts of a name, each but the first beginning with a space or a hyphen. -/
def nameParts : List Char → List (List Char)
  | [] => []
  | c :: rest =>
    match nameParts rest with
    | [] => [[c]]
    | part :: parts =>
      if part.head? == some ' ' || part.head? == some '-' then [c] :: part :: parts
      else (c :: part) :: parts

/-- The entries of a line of a table, and what stands before the first of them. -/
def readEntries : List Char → List Char × List NameEntry
  | [] => ([], [])
  | c :: rest =>
    let (name, entries) := readEntries rest
    if c.isLower then ([], ⟨c.toNat - 'a'.toNat, nameParts name⟩ :: entries)
    else (c :: name, entries)

/-- How many parts two names have in common at their beginning. -/
def sharedParts : List (List Char) → List (List Char) → Nat
  | p :: ps, q :: qs => if p = q then sharedParts ps qs + 1 else 0
  | _, _ => 0

/-- The position of a name among entries, given how many parts of it the name before them has;
without it, the position after the entries and the number of parts that the last one has. -/
def findEntry (wanted : List (List Char)) (position shared : Nat) :
    List NameEntry → Nat ⊕ (Nat × Nat)
  | [] => .inr (position, shared)
  | entry :: rest =>
    if shared < entry.kept then findEntry wanted (position + 1) shared rest
    else
      let ahead := wanted.drop entry.kept
      if entry.parts = ahead then .inl position
      else findEntry wanted (position + 1) (entry.kept + sharedParts entry.parts ahead) rest

/-- The position of a name in the lines of a run. -/
def findLine (wanted : List (List Char)) (position shared : Nat) : List String → Option Nat
  | [] => none
  | line :: rest =>
    match findEntry wanted position shared (readEntries line.toList).2 with
    | .inl found => some found
    | .inr (position, shared) => findLine wanted position shared rest

/-- The runs of all tables. -/
def nameRuns : List (List (Nat × List String)) :=
  [letterNames, signNames, syllableNames, scriptNames, pictureNames]

/-- The code point of a name in a table. -/
def listedCode? (name : List Char) : Option Nat :=
  let wanted := nameParts name
  nameRuns.findSome? fun runs =>
    runs.findSome? fun (first, lines) => findLine wanted first 0 lines

/-! ## Rules -/

/-- The characters after a beginning that a name has. -/
def after? (start : String) (name : List Char) : Option (List Char) :=
  let start := start.toList
  if start.isPrefixOf name then some (name.drop start.length) else none

/-- The number that capital hexadecimal digits spell. -/
def capitalHex? (digits : List Char) : Option Nat :=
  digits.foldl
    (fun value c =>
      if '0' ≤ c ∧ c ≤ '9' then value.map (· * 16 + (c.toNat - '0'.toNat))
      else if 'A' ≤ c ∧ c ≤ 'F' then value.map (· * 16 + (c.toNat - 'A'.toNat + 10))
      else none)
    (some 0)

/-- Characters that are named by their code points, after some words. -/
def families : List (String × List (Nat × Nat)) :=
  [("CJK COMPATIBILITY IDEOGRAPH-", [(0xF900, 0xFA6D), (0xFA70, 0xFAD9), (0x2F800, 0x2FA1D)]),
   ("KHITAN SMALL SCRIPT CHARACTER-", [(0x18B00, 0x18CD5)]),
   ("NUSHU CHARACTER-", [(0x1B170, 0x1B2FB)])]

/-- The code point of a name that ends in it. -/
def familyCode? (name : List Char) : Option Nat :=
  families.findSome? fun (start, ranges) => do
    let digits ← after? start name
    let code ← capitalHex? digits
    if inRanges ranges code && digits.length == (if code < 0x10000 then 4 else 5) then some code
    else none

/-- The code points of unified ideographs. -/
def ideographRanges : List (Nat × Nat) :=
  [(0x3400, 0x4DBF), (0x4E00, 0x9FFF), (0x20000, 0x2A6DF), (0x2A700, 0x2B738),
   (0x2B740, 0x2B81D), (0x2B820, 0x2CEA1), (0x2CEB0, 0x2EBE0), (0x30000, 0x3134A)]

/-- The unified ideograph that four or five digits stand for. -/
def ideographCode? (digits : List Char) : Option Nat := do
  let code ← capitalHex? digits
  if inRanges ideographRanges code && (digits.length == 4 || digits.length == 5) then some code
  else none

/-- The initials of Hangul syllables. -/
def initials : List String :=
  ["G", "GG", "N", "D", "DD", "R", "M", "B", "BB", "S", "SS", "", "J", "JJ", "C", "K", "T", "P",
   "H"]

/-- The vowels of Hangul syllables. -/
def vowels : List String :=
  ["A", "AE", "YA", "YAE", "EO", "E", "YEO", "YE", "O", "WA", "WAE", "OE", "YO", "U", "WEO", "WE",
   "WI", "YU", "EU", "YI", "I"]

/-- The finals of Hangul syllables. -/
def finals : List String :=
  ["", "G", "GG", "GS", "N", "NJ", "NH", "D", "L", "LG", "LM", "LB", "LS", "LT", "LP", "LH", "M",
   "B", "BS", "S", "SS", "NG", "J", "C", "K", "T", "P", "H"]

/-- The position of the longest sound that a name begins with, and what follows it. -/
def longestSound? (sounds : List String) (name : List Char) : Option (Nat × List Char) :=
  let longer (best : Option (Nat × Nat)) (sound : String × Nat) : Option (Nat × Nat) :=
    let size := sound.1.length
    if sound.1.toList.isPrefixOf name && (best.all fun found => found.2 < size) then
      some (sound.2, size)
    else best
  (sounds.zipIdx.foldl longer none).map fun (position, size) => (position, name.drop size)

/-- The Hangul syllable of some sounds. -/
def syllableCode? (sounds : List Char) : Option Nat := do
  let (initial, rest) ← longestSound? initials sounds
  let (vowel, rest) ← longestSound? vowels rest
  let (final, rest) ← longestSound? finals rest
  if rest.isEmpty then
    some (0xAC00 + (initial * vowels.length + vowel) * finals.length + final)
  else none

/-- The variation selector of an abbreviation with its number. -/
def selectorCode? (name : List Char) : Option Nat := do
  let digits ← after? "VS" name
  let number ← (List.range 257).find? fun n => (toString n).toList == digits
  if number == 0 then none
  else if number ≤ 16 then some (0xFE00 + number - 1)
  else some (0xE0100 + number - 17)

/-! ## Names -/

/-- The code point of a name in capital letters that is not proper, or made by a rule. -/
def furtherCode? (name : List Char) : Option Nat :=
  match furtherNames.lookup (String.ofList name) with
  | some code => some code
  | none => (selectorCode? name).or (familyCode? name)

/-- The code point of the character that has a name. -/
def codeNamed? (name : List Char) : Option Nat :=
  match after? "HANGUL SYLLABLE " name, after? "CJK UNIFIED IDEOGRAPH-" name with
  | some sounds, _ => syllableCode? sounds
  | none, some digits => ideographCode? digits
  | none, none =>
    let name := name.map Char.toUpper
    (furtherCode? name).or (listedCode? name)

end PromptTree.Text
