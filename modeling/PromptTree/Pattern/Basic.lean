import PromptTree.Text.Class

/-!
# Search patterns

The syntax trees of the patterns that a condition may search a text for.

## Main Definitions

* `Flags` — the modes of a pattern, some of which hold in a part of it only.
* `SetMember`, `Anchor` — what matches one character; what matches a place.
* `Node` — a pattern.
* `Node.ofMembers`, `Node.ofBranches` — sets and choices in their simplest form.
* `Node.width` — the least and the greatest number of characters a pattern covers.
* `Node.depth` — how deep a pattern is nested.

## Design Notes

A character of a pattern is a code point, since an escape may name a code point that no
text can hold.  A reference to a group carries the width of the group, which is known when
the reference is read; widths then need no table of groups.
-/

namespace PromptTree.Pattern

/-- The modes of a pattern. -/
structure Flags where
  ignoreCase : Bool := false
  multiline : Bool := false
  dotAll : Bool := false
  verbose : Bool := false
  ascii : Bool := false
  wide : Bool := false
  template : Bool := false
  deriving Repr, DecidableEq, Inhabited

namespace Flags

/-- The modes of either. -/
def union (a b : Flags) : Flags where
  ignoreCase := a.ignoreCase || b.ignoreCase
  multiline := a.multiline || b.multiline
  dotAll := a.dotAll || b.dotAll
  verbose := a.verbose || b.verbose
  ascii := a.ascii || b.ascii
  wide := a.wide || b.wide
  template := a.template || b.template

/-- The modes of the first that the second lacks. -/
def without (a b : Flags) : Flags where
  ignoreCase := a.ignoreCase && !b.ignoreCase
  multiline := a.multiline && !b.multiline
  dotAll := a.dotAll && !b.dotAll
  verbose := a.verbose && !b.verbose
  ascii := a.ascii && !b.ascii
  wide := a.wide && !b.wide
  template := a.template && !b.template

/-- Whether no mode is on. -/
def isEmpty (flags : Flags) : Bool :=
  flags = {}

/-- The modes inside a group that turns some on and some off.  Choosing the ASCII classes
or the Unicode classes undoes the other choice. -/
def within (flags on off : Flags) : Flags :=
  let base := if on.ascii || on.wide then { flags with ascii := false, wide := false } else flags
  (base.union on).without off

end Flags

/-- The named classes of characters. -/
inductive CharClass where
  | digit
  | space
  | word
  deriving Repr, DecidableEq

/-- A member of a set of characters. -/
inductive SetMember where
  | code (code : Nat)
  | range (low high : Nat)
  | named (negated : Bool) (charClass : CharClass)
  deriving Repr, DecidableEq

/-- A condition on a place in the text. -/
inductive Anchor where
  | lineStart
  | lineEnd
  | textStart
  | textEnd
  | wordEdge
  | noWordEdge
  deriving Repr, DecidableEq

/-- How a repetition chooses the number of its rounds: as many as possible, as few as
possible, or as many as possible once and for all. -/
inductive Greed where
  | greedy
  | reluctant
  | possessive
  deriving Repr, DecidableEq

/-- The number of characters a pattern covers, at least and at most. -/
structure Width where
  least : Nat
  most : Nat
  deriving Repr, DecidableEq, Inhabited

/-- A pattern. -/
inductive Node where
  | code (code : Nat)
  | set (negated : Bool) (members : List SetMember)
  | any
  | anchor (anchor : Anchor)
  | sequence (nodes : List Node)
  | choice (branches : List Node)
  | group (index : Nat) (body : Node)
  | scoped (on off : Flags) (body : Node)
  | atomic (body : Node)
  /-- The text ahead does or does not match. -/
  | lookAhead (negated : Bool) (body : Node)
  /-- The text behind, of the width of the body, does or does not match. -/
  | lookBehind (negated : Bool) (body : Node)
  | rounds (greed : Greed) (least : Nat) (most : Option Nat) (body : Node)
  /-- The text of a group once more. -/
  | backReference (group : Nat) (width : Width)
  /-- One of two patterns, by whether a group has matched. -/
  | conditional (group : Nat) (present : Node) (absent : Option Node)
  deriving Repr, Inhabited

/-! ## Sets -/

namespace Node

/-- A set without repeated members; one that holds a single code point is that code point. -/
def ofMembers (negated : Bool) (members : List SetMember) : Node :=
  match negated, members.eraseDups with
  | false, [.code point] => .code point
  | _, members => .set negated members

mutual

/-- What a pattern runs in a row. -/
def steps : Node → List Node
  | .sequence nodes => stepsOfAll nodes
  | node => [node]

/-- What patterns in a row run in a row. -/
def stepsOfAll : List Node → List Node
  | [] => []
  | node :: rest => steps node ++ stepsOfAll rest

end

/-- Whether two patterns of one step are written alike. -/
def isSame : Node → Node → Bool
  | .code a, .code b => a == b
  | .set m as, .set n bs => m == n && as == bs
  | .any, .any => true
  | .anchor a, .anchor b => a == b
  | .backReference a _, .backReference b _ => a == b
  | _, _ => false

/-- How many steps other branches have in common with a first one at their beginning. -/
def sharedSteps : List Node → List (List Node) → Nat
  | [], _ => 0
  | step :: rest, others =>
    if others.all fun other => other.head?.any (isSame step) then
      sharedSteps rest (others.map List.tail) + 1
    else 0

/-- The members of a branch that matches a single character. -/
def membersOf? : List Node → Option (List SetMember)
  | [.code point] => some [.code point]
  | [.set false members] => some members
  | _ => none

/-- A choice between branches.  Branches that match a single character each, after what they
have in common, are a set. -/
def ofBranches (branches : List Node) : Node :=
  match branches.map steps with
  | [] => .choice []
  | first :: others =>
    let shared := sharedSteps first others
    match ((first :: others).map (List.drop shared)).mapM membersOf? with
    | some members => .sequence (first.take shared ++ [.set false members.flatten.eraseDups])
    | none => .choice branches

end Node

/-! ## Widths -/

/-- The bound that widths are cut to. -/
def widthLimit : Nat := 18446744073709551616

namespace Width

/-- A width cut to the limit. -/
def capped (width : Width) : Width :=
  ⟨min width.least widthLimit, min width.most widthLimit⟩

/-- The width of two patterns in a row. -/
def add (a b : Width) : Width :=
  ⟨a.least + b.least, a.most + b.most⟩

/-- The width of either of two patterns. -/
def either (a b : Width) : Width :=
  ⟨min a.least b.least, max a.most b.most⟩

/-- The width of a repetition. -/
def times (width : Width) (least : Nat) (most : Option Nat) : Width :=
  ⟨width.least * least,
    match most with
    | some most => width.most * most
    | none => if width.most = 0 then 0 else widthLimit⟩

end Width

namespace Node

mutual

/-- The width of a pattern. -/
def width : Node → Width
  | .code _ => ⟨1, 1⟩
  | .set _ _ => ⟨1, 1⟩
  | .any => ⟨1, 1⟩
  | .anchor _ => ⟨0, 0⟩
  | .sequence nodes => (widthOfAll nodes).capped
  | .choice [] => ⟨0, 0⟩
  | .choice (first :: rest) => (widthOfEither first.width rest).capped
  | .group _ body => body.width
  | .scoped _ _ body => body.width
  | .atomic body => body.width
  | .lookAhead _ _ => ⟨0, 0⟩
  | .lookBehind _ _ => ⟨0, 0⟩
  | .rounds _ least most body => body.width.times least most
  | .backReference _ width => width
  | .conditional _ present absent =>
    match absent with
    | some absent => present.width.either absent.width
    | none => { present.width with least := 0 }

/-- The width of patterns in a row. -/
def widthOfAll : List Node → Width
  | [] => ⟨0, 0⟩
  | node :: rest => node.width.add (widthOfAll rest)

/-- The width of either of some patterns, one of which has the given width. -/
def widthOfEither (width : Width) : List Node → Width
  | [] => width
  | node :: rest => widthOfEither (width.either node.width) rest

end

/-! ## Depths -/

mutual

/-- How many groups, choices, repetitions and looks around a pattern has inside each other. -/
def depth : Node → Nat
  | .sequence nodes => depthOfAll nodes
  | .choice branches => depthOfAll branches + 1
  | .group _ body => body.depth + 1
  | .scoped _ _ body => body.depth + 1
  | .atomic body => body.depth + 1
  | .lookAhead _ body => body.depth + 1
  | .lookBehind _ body => body.depth + 1
  | .rounds _ _ _ body => body.depth + 1
  | .conditional _ present absent =>
    match absent with
    | some absent => max present.depth absent.depth + 1
    | none => present.depth + 1
  | _ => 0

/-- The greatest depth of patterns. -/
def depthOfAll : List Node → Nat
  | [] => 0
  | node :: rest => max node.depth (depthOfAll rest)

end

end Node

end PromptTree.Pattern
