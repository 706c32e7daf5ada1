import PromptTree.Failure
import PromptTree.Numeral.Literal
import PromptTree.Pattern.Basic
import PromptTree.Pattern.Fault

/-!
# Tokens of patterns

A pattern is read token by token: a character, or a backslash with the character after it.

## Main Definitions

* `Token` — a token.
* `Progress` — what is left of a pattern and what was learned from the part before.
* `PatternReader` — a step of reading: it consumes tokens or refuses the pattern.
* `Refusal` — why a text is refused: a fault of the pattern, or a failure of the run.

## Design Notes

A backslash at the very end of a pattern is a fault as soon as the token before it is
consumed, so it comes before faults that only a later look at the rest would find.
-/

namespace PromptTree.Pattern

/-- A token. -/
inductive Token where
  | char (c : Char)
  | escape (c : Char)
  | dangling
  deriving Repr, DecidableEq

namespace Token

/-- The characters of a token. -/
def chars : Token → List Char
  | .char c => [c]
  | .escape c => ['\\', c]
  | .dangling => ['\\']

/-- The text of a token. -/
def text (token : Token) : String :=
  String.ofList token.chars

/-- The tokens of a pattern. -/
def ofChars : List Char → List Token
  | [] => []
  | ['\\'] => [.dangling]
  | '\\' :: c :: rest => .escape c :: ofChars rest
  | c :: rest => .char c :: ofChars rest

end Token

/-- Why a text is refused as a pattern. -/
inductive Refusal where
  | faulty (fault : Fault)
  | failed (failure : Failure)
  deriving Repr

/-- What is left of a pattern, and what is known from the part before. -/
structure Progress where
  tokens : List Token
  /-- The number of characters before the tokens left. -/
  position : Nat
  /-- The modes of the whole pattern. -/
  flags : Flags
  /-- The number of groups opened. -/
  groups : Nat
  /-- The widths of the groups closed. -/
  widths : List (Nat × Width)
  /-- The names of groups. -/
  names : List (String × Nat)
  /-- Inside a look behind, the first group opened there. -/
  lookBehindFrom : Option Nat
  /-- The groups that conditions ask for by number, with the places, last first. -/
  asked : List (Nat × Nat)

/-- A step of reading. -/
abbrev PatternReader := StateT Progress (Except Refusal)

/-- Refuses the pattern at a position. -/
def refuseAt {α : Type} (position : Nat) (cause : Cause) : PatternReader α :=
  throw (.faulty ⟨cause, some position⟩)

/-- Refuses the pattern some characters before the tokens left. -/
def refuse {α : Type} (cause : Cause) (back : Nat) : PatternReader α := do
  refuseAt ((← get).position - back) cause

/-- The next token. -/
def peek : PatternReader (Option Token) := do
  return (← get).tokens.head?

/-- The position of the next token. -/
def position : PatternReader Nat := do
  return (← get).position

/-- Refuses a pattern whose next token is a lone backslash. -/
def guardDangling : PatternReader Unit := do
  if (← peek) = some .dangling then refuse .danglingEscape 0

/-- Consumes the next token. -/
def take : PatternReader (Option Token) := do
  match (← get).tokens with
  | [] => return none
  | token :: rest =>
    modify fun s => { s with tokens := rest, position := s.position + token.chars.length }
    guardDangling
    return some token

/-- Consumes the next token if it is a given character. -/
def accept (c : Char) : PatternReader Bool := do
  if (← peek) = some (.char c) then
    discard take
    return true
  else return false

/-- Consumes up to a number of characters of a class. -/
def takeSome (belongs : Char → Bool) : Nat → PatternReader (List Char)
  | 0 => return []
  | count + 1 => do
    match ← peek with
    | some (.char c) =>
      if belongs c then
        discard take
        return c :: (← takeSome belongs count)
      else return []
    | _ => return []

/-- Consumes all characters of a class. -/
def takeAll (belongs : Char → Bool) : PatternReader (List Char) := do
  takeSome belongs (← get).tokens.length

/-- Consumes tokens through a terminator, `done` holding the characters before. -/
def takeNameFrom (terminator : Char) (what : String) (done : List Char) :
    Nat → PatternReader (List Char)
  | 0 => refuse (.missing what) 0
  | fuel + 1 => do
    match ← take with
    | none =>
      if done.isEmpty then refuse (.missing what) 0
      else refuse (.unterminatedName (String.ofList [terminator])) done.length
    | some token =>
      if token = .char terminator then
        if done.isEmpty then refuse (.missing what) 1 else return done
      else takeNameFrom terminator what (done ++ token.chars) fuel

/-- Consumes a name and its terminator. -/
def takeName (terminator : Char) (what : String) : PatternReader (List Char) := do
  takeNameFrom terminator what [] ((← get).tokens.length + 1)

end PromptTree.Pattern
