import PromptTree.Text.Quoted

/-!
# Faults of patterns

Why a text is no pattern, and where.

## Main Definitions

* `Cause` — what is wrong.
* `Fault` — a cause and its place.
* `Fault.message` — the fault in words, with the position and, in a pattern of several
  lines, the line and the column.
-/

namespace PromptTree.Pattern

/-- What is wrong with a pattern. -/
inductive Cause where
  | danglingEscape
  | badEscape (escape : String)
  | incompleteEscape (escape : String)
  | octalTooLarge (escape : String)
  | missingBrace
  | missing (what : String)
  | unterminatedName (terminator : String)
  | undefinedCharacter (name : String)
  | openGroup
  | sameLookBehind
  | unknownReference (group : Nat)
  | badGroupNumber
  | badGroupName (name : String)
  | unknownGroupName (name : String)
  | groupRedefined (name : String) (index former : Nat)
  | unterminatedSet
  | badRange (low high : String)
  | reversedBounds
  | nothingToRepeat
  | multipleRepeat
  | unexpectedEnd
  | unknownExtension (text : String)
  | unterminatedComment
  | unterminatedGroup
  | unbalanced
  | threeBranches
  | flagsNotAtStart
  | unknownFlag
  | localeFlag
  | conflictingFlags
  | globalFlagOn
  | globalFlagOff
  | classFlagOff
  | flagOnAndOff
  | looksTooFarBehind
  | variableLookBehind
  | templateRepeat (kind : String)
  deriving Repr, DecidableEq

/-- A cause and its place: the number of characters before it. -/
structure Fault where
  cause : Cause
  position : Option Nat
  deriving Repr, DecidableEq

namespace Cause

/-- The cause in words. -/
def message : Cause → String
  | .danglingEscape => "bad escape (end of pattern)"
  | .badEscape escape => "bad escape " ++ escape
  | .incompleteEscape escape => "incomplete escape " ++ escape
  | .octalTooLarge escape => "octal escape value " ++ escape ++ " outside of range 0-0o377"
  | .missingBrace => "missing \x7b"
  | .missing what => "missing " ++ what
  | .unterminatedName terminator => "missing " ++ terminator ++ ", unterminated name"
  | .undefinedCharacter name => "undefined character name " ++ Text.quoted name
  | .openGroup => "cannot refer to an open group"
  | .sameLookBehind => "cannot refer to group defined in the same lookbehind subpattern"
  | .unknownReference group => "invalid group reference " ++ toString group
  | .badGroupNumber => "bad group number"
  | .badGroupName name => "bad character in group name " ++ Text.quoted name
  | .unknownGroupName name => "unknown group name " ++ Text.quoted name
  | .groupRedefined name index former =>
    "redefinition of group name " ++ Text.quoted name ++ " as group " ++ toString index ++
      "; was group " ++ toString former
  | .unterminatedSet => "unterminated character set"
  | .badRange low high => "bad character range " ++ low ++ "-" ++ high
  | .reversedBounds => "min repeat greater than max repeat"
  | .nothingToRepeat => "nothing to repeat"
  | .multipleRepeat => "multiple repeat"
  | .unexpectedEnd => "unexpected end of pattern"
  | .unknownExtension text => "unknown extension " ++ text
  | .unterminatedComment => "missing ), unterminated comment"
  | .unterminatedGroup => "missing ), unterminated subpattern"
  | .unbalanced => "unbalanced parenthesis"
  | .threeBranches => "conditional backref with more than two branches"
  | .flagsNotAtStart => "global flags not at the start of the expression"
  | .unknownFlag => "unknown flag"
  | .localeFlag => "bad inline flags: cannot use 'L' flag with a str pattern"
  | .conflictingFlags => "bad inline flags: flags 'a', 'u' and 'L' are incompatible"
  | .globalFlagOn => "bad inline flags: cannot turn on global flag"
  | .globalFlagOff => "bad inline flags: cannot turn off global flag"
  | .classFlagOff => "bad inline flags: cannot turn off flags 'a', 'u' and 'L'"
  | .flagOnAndOff => "bad inline flags: flag turned on and off"
  | .looksTooFarBehind => "looks too much behind"
  | .variableLookBehind => "look-behind requires fixed-width pattern"
  | .templateRepeat kind => "internal: unsupported template operator " ++ kind

end Cause

/-- The fault in words, given the pattern. -/
def Fault.message (fault : Fault) (pattern : String) : String :=
  match fault.position with
  | none => fault.cause.message
  | some position =>
    let cs := pattern.toList
    let place := fault.cause.message ++ " at position " ++ toString position
    if cs.contains '\n' then
      let before := cs.take position
      let line := before.count '\n' + 1
      let column := (before.reverse.takeWhile (· ≠ '\n')).length + 1
      place ++ " (line " ++ toString line ++ ", column " ++ toString column ++ ")"
    else place

end PromptTree.Pattern
