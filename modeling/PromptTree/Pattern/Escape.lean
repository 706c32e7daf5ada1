import PromptTree.Pattern.Token
import PromptTree.Text.CharacterName

/-!
# Escapes of patterns

What a backslash and the character after it stand for, inside a set of characters and
outside.

## Main Definitions

* `readSetEscape` — the member of a set.
* `readEscape` — the pattern: a character, a class, a place or a reference to a group.
-/

namespace PromptTree.Pattern

open PromptTree.Text PromptTree.Numeral

/-- Whether a character is a hexadecimal digit. -/
def isHexDigit (c : Char) : Bool :=
  (hexValue? c).isSome

/-- Whether a character is an octal digit. -/
def isOctalDigit (c : Char) : Bool :=
  '0' ≤ c && c ≤ '7'

/-- The value of digits in a base. -/
def digitsIn (base : Nat) (cs : List Char) : Nat :=
  cs.foldl (fun value c => value * base + (hexValue? c).getD 0) 0

/-- The control characters that a letter after a backslash stands for. -/
def controlCode? (c : Char) : Option Nat :=
  match c with
  | 'a' => some 7
  | 'f' => some 12
  | 'n' => some 10
  | 'r' => some 13
  | 't' => some 9
  | 'v' => some 11
  | '\\' => some 92
  | _ => none

/-- The class that a letter after a backslash stands for. -/
def namedClass? (c : Char) : Option SetMember :=
  match c with
  | 'd' => some (.named false .digit)
  | 'D' => some (.named true .digit)
  | 's' => some (.named false .space)
  | 'S' => some (.named true .space)
  | 'w' => some (.named false .word)
  | 'W' => some (.named true .word)
  | _ => none

/-- The place that a letter after a backslash stands for. -/
def anchor? (c : Char) : Option Anchor :=
  match c with
  | 'A' => some .textStart
  | 'Z' => some .textEnd
  | 'b' => some .wordEdge
  | 'B' => some .noWordEdge
  | _ => none

/-- The text of an escape. -/
def escapeText (c : Char) (more : List Char) : String :=
  String.ofList ('\\' :: c :: more)

/-- Refuses an escape that was just read. -/
def refuseEscape {α : Type} (cause : String → Cause) (c : Char) (more : List Char) :
    PatternReader α :=
  refuse (cause (escapeText c more)) (more.length + 2)

/-- A code point of a fixed number of hexadecimal digits. -/
def readHexEscape (c : Char) (count : Nat) : PatternReader Nat := do
  let digits ← takeSome isHexDigit count
  if digits.length ≠ count then refuseEscape .incompleteEscape c digits
  else
    let code := digitsIn 16 digits
    if 0x10FFFF < code then refuseEscape .badEscape c digits else return code

/-- A code point given by hexadecimal digits or by name. -/
def readCodeEscape? (c : Char) : PatternReader (Option Nat) := do
  match c with
  | 'x' => return some (← readHexEscape c 2)
  | 'u' => return some (← readHexEscape c 4)
  | 'U' => return some (← readHexEscape c 8)
  | 'N' =>
    if ← accept '\x7b' then
      let name ← takeName '\x7d' "character name"
      match codeNamed? name with
      | some code => return some code
      | none => refuse (.undefinedCharacter (String.ofList name)) (name.length + 4)
    else refuse .missingBrace 0
  | _ => return none

/-- The member of a set that an escape stands for. -/
def readSetEscape (c : Char) : PatternReader SetMember := do
  match controlCode? c, namedClass? c with
  | some code, _ => return .code code
  | none, some member => return member
  | none, none =>
    if c = 'b' then return .code 8
    else
      match ← readCodeEscape? c with
      | some code => return .code code
      | none =>
        if isOctalDigit c then
          let more ← takeSome isOctalDigit 2
          let code := digitsIn 8 (c :: more)
          if 0o377 < code then refuseEscape .octalTooLarge c more else return .code code
        else if isPlainDigit c || isPlainLetter c then refuseEscape .badEscape c []
        else return .code c.toNat

/-- Refuses a reference from inside a look behind to a group that is open or was opened
there. -/
def guardLookBehind (group : Nat) : PatternReader Unit := do
  let s ← get
  match s.lookBehindFrom with
  | none => return ()
  | some first =>
    if (s.widths.lookup group).isNone then refuse .openGroup 0
    else if first ≤ group then refuse .sameLookBehind 0

/-- A reference to a group, the characters of which were just read. -/
def referTo (group : Nat) (back : Nat) : PatternReader Node := do
  match (← get).widths.lookup group with
  | none => refuse .openGroup back
  | some width =>
    guardLookBehind group
    return .backReference group width

/-- A reference to a group by number, or an octal code of three digits. -/
def readNumberEscape (c : Char) : PatternReader Node := do
  let second ← takeSome isPlainDigit 1
  let octal := !second.isEmpty && (c :: second).all isOctalDigit
  let third ← if octal then takeSome isOctalDigit 1 else pure []
  let more := second ++ third
  if !third.isEmpty then
    let code := digitsIn 8 (c :: more)
    if 0o377 < code then refuseEscape .octalTooLarge c more else return .code code
  else
    let group := digitsIn 10 (c :: more)
    if group ≤ (← get).groups then referTo group (more.length + 2)
    else refuse (.unknownReference group) (more.length + 1)

/-- The pattern that an escape stands for. -/
def readEscape (c : Char) : PatternReader Node := do
  match anchor? c, namedClass? c, controlCode? c with
  | some anchor, _, _ => return .anchor anchor
  | none, some member, _ => return .set false [member]
  | none, none, some code => return .code code
  | none, none, none =>
    match ← readCodeEscape? c with
    | some code => return .code code
    | none =>
      if c = '0' then
        let more ← takeSome isOctalDigit 2
        return .code (digitsIn 8 more)
      else if isPlainDigit c then readNumberEscape c
      else if isPlainLetter c then refuseEscape .badEscape c []
      else return .code c.toNat

end PromptTree.Pattern
