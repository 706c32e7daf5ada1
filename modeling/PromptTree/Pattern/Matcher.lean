import PromptTree.Pattern.Reader
import PromptTree.Text.Case

/-!
# Searching with patterns

Whether a pattern matches somewhere in a text.  Of several ways to match, the first in the
order of branches and of the preference of repetitions counts, which shows where a group
is asked for later on.

## Main Definitions

* `Spot` — a place in a text, and where the groups started and ended that were met.
* `matchesCode`, `inSet` — what one character matches.
* `roundsFrom` — the rounds of a repetition.
* `Node.run` — a pattern from a place on, with what is to match after it.
* `Pattern.search` — whether the pattern matches from some place on.

## Design Notes

A pattern is run with the search for the rest of the match as an argument, so that giving
up on the rest tries the next way.  A repetition stops when a round that it did not have
to make consumed nothing; the length of the text then bounds its rounds.
-/

namespace PromptTree.Pattern

/-- A place in a text, with the marks of groups. -/
structure Spot where
  /-- The characters before, nearest first. -/
  before : List Char
  /-- The characters after. -/
  after : List Char
  /-- The number of characters before. -/
  position : Nat
  /-- Where groups started. -/
  starts : List (Nat × Nat)
  /-- Where groups ended. -/
  stops : List (Nat × Nat)

namespace Spot

/-- The place some characters further on. -/
def advance (s : Spot) (count : Nat) : Spot :=
  { s with
    before := (s.after.take count).reverse ++ s.before
    after := s.after.drop count
    position := s.position + count }

/-- The place some characters back, if there are as many. -/
def retreat? (s : Spot) (count : Nat) : Option Spot :=
  if s.position < count then none
  else
    some { s with
      before := s.before.drop count
      after := (s.before.take count).reverse ++ s.after
      position := s.position - count }

/-- A place with the marks of another one. -/
def withMarks (s other : Spot) : Spot :=
  { s with starts := other.starts, stops := other.stops }

/-- Where a group started and ended, if it has matched. -/
def span? (s : Spot) (group : Nat) : Option (Nat × Nat) :=
  match s.starts.lookup group, s.stops.lookup group with
  | some start, some stop => if start ≤ stop then some (start, stop) else none
  | _, _ => none

/-- The text of a group that has matched. -/
def groupText? (s : Spot) (group : Nat) : Option (List Char) :=
  (s.span? group).map fun (start, stop) =>
    ((s.before.reverse ++ s.after).drop start).take (stop - start)

end Spot

/-- What comes after a pattern: the end of the match, if the rest matches. -/
abbrev Rest := Spot → Option Spot

/-- The characters that a character counts as. -/
def variants (flags : Flags) (c : Char) : List Char :=
  if !flags.ignoreCase then [c]
  else if flags.ascii then [c, c.toLower, c.toUpper]
  else c :: Text.caseVariants c

/-- A character as classes see it. -/
def normal (flags : Flags) (c : Char) : Char :=
  if !flags.ignoreCase then c else if flags.ascii then c.toLower else Text.lowerOne c

/-- Whether a character is in a named class. -/
def inClass (flags : Flags) (charClass : CharClass) (c : Char) : Bool :=
  match charClass with
  | .digit => if flags.ascii then Text.isPlainDigit c else Text.isDecimal c
  | .space => if flags.ascii then isLayout c else Text.isBlank c
  | .word =>
    if flags.ascii then Text.isPlainLetter c || Text.isPlainDigit c || c == '_'
    else Text.isWord c

/-- Whether a character matches a code point. -/
def matchesCode (flags : Flags) (code : Nat) (c : Char) : Bool :=
  (variants flags c).any fun v => v.toNat == code

/-- The greatest code point whose case a set ignores in full. -/
def planeEnd : Nat := 0xFFFF

/-- Whether a code point is in a range. -/
def inRange (low high : Nat) (c : Char) : Bool :=
  low ≤ c.toNat && c.toNat ≤ high

/-- Whether a character matches a member of a set.  Where case is ignored and the member goes
beyond the first plane of characters, the member stays as it is and only the character is
taken in both cases, or in lower case alone for a single code point. -/
def matchesMember (flags : Flags) (c : Char) : SetMember → Bool
  | .code code =>
    if flags.ignoreCase && planeEnd < code then (normal flags c).toNat == code
    else matchesCode flags code c
  | .range low high =>
    if flags.ignoreCase && planeEnd < high then
      let lower := normal flags c
      (variants flags c).any (inRange low planeEnd) || inRange low high lower ||
        inRange low high (Text.upperOne lower)
    else (variants flags c).any (inRange low high)
  | .named negated charClass => inClass flags charClass (normal flags c) != negated

/-- Whether a character matches a set.  A set of a single code point is like the code point. -/
def inSet (flags : Flags) (negated : Bool) (members : List SetMember) (c : Char) : Bool :=
  match members with
  | [.code code] => matchesCode flags code c != negated
  | _ => members.any (matchesMember flags c) != negated

/-- Whether a place lies between a word character and another character or an end. -/
def isWordEdge (flags : Flags) (s : Spot) : Bool :=
  let isWord : Option Char → Bool
    | some c => inClass flags .word c
    | none => false
  isWord s.before.head? != isWord s.after.head?

/-- Whether an anchor holds at a place.  No place of an empty text is an edge of a word, or
none. -/
def holds (flags : Flags) (s : Spot) : Anchor → Bool
  | .lineStart => s.before.isEmpty || (flags.multiline && s.before.head? == some '\n')
  | .lineEnd =>
    s.after.isEmpty || s.after == ['\n'] || (flags.multiline && s.after.head? == some '\n')
  | .textStart => s.before.isEmpty
  | .textEnd => s.after.isEmpty
  | .wordEdge => isWordEdge flags s
  | .noWordEdge => !(s.before.isEmpty && s.after.isEmpty) && !isWordEdge flags s

/-- One character of a kind. -/
def runOne (accepts : Char → Bool) (s : Spot) (rest : Rest) : Option Spot :=
  match s.after with
  | c :: _ => if accepts c then rest (s.advance 1) else none
  | [] => none

/-- A text once more. -/
def runText (flags : Flags) (text : List Char) (s : Spot) (rest : Rest) : Option Spot :=
  let next := s.after.take text.length
  if next.map (normal flags) = text.map (normal flags) then rest (s.advance text.length) else none

/-- The rounds of a repetition after `done` of them.  `last` is where the last round started
that did not have to be made; when it consumed nothing there is no other. -/
def roundsFrom (greed : Greed) (body : Spot → Rest → Option Spot) (least : Nat)
    (most : Option Nat) (rest : Rest) : Nat → Nat → Option Nat → Spot → Option Spot
  | 0, _, _, _ => none
  | fuel + 1, done, last, s =>
    if done < least then
      body s fun s => roundsFrom greed body least most rest fuel (done + 1) last s
    else
      let more (_ : Unit) : Option Spot :=
        if last = some s.position || most.any (· ≤ done) then none
        else
          body s fun next =>
            roundsFrom greed body least most rest fuel (done + 1) (some s.position) next
      match greed with
      | .reluctant => (rest s).orElse more
      | _ => (more ()).orElse fun _ => rest s

/-- The rounds of a repetition that never takes a round back. -/
def roundsForGood (body : Spot → Option Spot) (least : Nat) (most : Option Nat) :
    Nat → Nat → Option Nat → Spot → Option Spot
  | 0, _, _, s => some s
  | fuel + 1, done, last, s =>
    if done < least then
      match body s with
      | some next => roundsForGood body least most fuel (done + 1) last next
      | none => none
    else if last = some s.position || most.any (· ≤ done) then some s
    else
      match body s with
      | some next => roundsForGood body least most fuel (done + 1) (some s.position) next
      | none => some s

namespace Node

mutual

/-- Runs a pattern from a place on: the end of the first match that the rest accepts. -/
def run (flags : Flags) : Node → Spot → Rest → Option Spot
  | .code point, s, rest => runOne (matchesCode flags point) s rest
  | .set negated members, s, rest => runOne (inSet flags negated members) s rest
  | .any, s, rest => runOne (fun c => flags.dotAll || c != '\n') s rest
  | .anchor place, s, rest => if holds flags s place then rest s else none
  | .sequence nodes, s, rest => runAll flags nodes s rest
  | .choice branches, s, rest => runAny flags branches s rest
  | .group index body, s, rest =>
    run flags body { s with starts := (index, s.position) :: s.starts } fun s =>
      rest { s with stops := (index, s.position) :: s.stops }
  | .scoped on off body, s, rest => run (flags.within on off) body s rest
  | .atomic body, s, rest => (run flags body s some).bind rest
  | .lookAhead negated body, s, rest =>
    match run flags body s some with
    | some found => if negated then none else rest (s.withMarks found)
    | none => if negated then rest s else none
  | .lookBehind negated body, s, rest =>
    match (s.retreat? body.width.least).bind fun back => run flags body back some with
    | some found => if negated then none else rest (s.withMarks found)
    | none => if negated then rest s else none
  | .rounds .possessive least most body, s, rest =>
    (roundsForGood (fun s => run flags body s some) least most
      (least + s.after.length + 2) 0 none s).bind rest
  | .rounds greed least most body, s, rest =>
    roundsFrom greed (fun s rest => run flags body s rest) least most rest
      (least + s.after.length + 3) 0 none s
  | .backReference index _, s, rest =>
    match s.groupText? index with
    | some text => runText flags text s rest
    | none => none
  | .conditional index present absent, s, rest =>
    match absent with
    | some absent =>
      if (s.span? index).isSome then run flags present s rest else run flags absent s rest
    | none => if (s.span? index).isSome then run flags present s rest else rest s

/-- Runs patterns in a row. -/
def runAll (flags : Flags) : List Node → Spot → Rest → Option Spot
  | [], s, rest => rest s
  | node :: more, s, rest => run flags node s fun s => runAll flags more s rest

/-- Runs the first of some patterns that matches with the rest. -/
def runAny (flags : Flags) : List Node → Spot → Rest → Option Spot
  | [], _, _ => none
  | node :: more, s, rest => (run flags node s rest).orElse fun _ => runAny flags more s rest

end

end Node

/-- Whether a pattern matches from a place on, or from a later one. -/
def searchFrom (pattern : Pattern) (before : List Char) (position : Nat) : List Char → Bool
  | [] => (pattern.node.run pattern.flags ⟨before, [], position, [], []⟩ some).isSome
  | c :: rest =>
    (pattern.node.run pattern.flags ⟨before, c :: rest, position, [], []⟩ some).isSome ||
      searchFrom pattern (c :: before) (position + 1) rest

end Pattern

/-- Whether the pattern matches somewhere in a text. -/
def Pattern.search (pattern : Pattern) (text : String) : Bool :=
  Pattern.searchFrom pattern [] 0 text.toList

end PromptTree
