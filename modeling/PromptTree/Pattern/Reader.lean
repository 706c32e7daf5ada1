import PromptTree.Nesting
import PromptTree.Pattern.Escape

/-!
# Reading patterns

The pattern a text spells: sequences and choices of characters, sets, places, groups,
looks around and repetitions.

## Main Definitions

* `readSet` — a set of characters in brackets.
* `readBounds?` — the bounds of a repetition.
* `readChoice` — the branches up to the end of a group or of the text.
* `Pattern` — a pattern with its modes.
* `parse` — the pattern of a text, or why it is refused.

## Design Notes

Every construct consumes a token before it reads another one, so the number of tokens
bounds the recursion; a reader that runs out of fuel would have consumed more tokens than
there are.

Readers that wait for the end of a group take room, and so does what makes a matcher of a
pattern that was read, for all that is nested in it; `NestingLimits.groups` says how much there
is.  A pattern that nests deeper fails; that is no fault of the pattern.
-/

namespace PromptTree.Pattern

open PromptTree.Text PromptTree.Numeral

/-- The range between two code points in order. -/
def rangeOf? (low high : SetMember) : Option SetMember :=
  match low, high with
  | .code a, .code b => if a ≤ b then some (.range a b) else none
  | _, _ => none

/-- A member of a set that starts with a token. -/
def readSetMember (token : Token) : PatternReader SetMember :=
  match token with
  | .escape c => readSetEscape c
  | .char c => return .code c.toNat
  | .dangling => return .code 92

/-- Reads the members of a set through its closing bracket.  `start` is the position of
the opening one. -/
def readMembers (start : Nat) (done : List SetMember) : Nat → PatternReader (List SetMember)
  | 0 => refuseAt start .unterminatedSet
  | fuel + 1 => do
    match ← take with
    | none => refuseAt start .unterminatedSet
    | some token =>
      if token = .char ']' && !done.isEmpty then return done.reverse
      else
        let low ← readSetMember token
        if ← accept '-' then
          match ← take with
          | none => refuseAt start .unterminatedSet
          | some last =>
            if last = .char ']' then return (.code '-'.toNat :: low :: done).reverse
            else
              let high ← readSetMember last
              match rangeOf? low high with
              | some range => readMembers start (range :: done) fuel
              | none =>
                let back := token.chars.length + 1 + last.chars.length
                refuse (.badRange token.text last.text) back
        else readMembers start (low :: done) fuel

/-- Reads a set whose opening bracket was consumed. -/
def readSet : PatternReader Node := do
  let start := (← position) - 1
  let negated ← accept '^'
  return .ofMembers negated (← readMembers start [] ((← get).tokens.length + 1))

/-- The greatest bound of a repetition, which stands for none. -/
def boundLimit : Nat := 4294967295

/-- A bound of a repetition. -/
def readBound (digits : List Char) : PatternReader Nat := do
  if digitLimit < digits.length then throw (.failed (.tooManyDigits digits.length))
  else
    let bound := digitsValue digits
    if boundLimit ≤ bound then throw (.failed .repetitionTooLarge) else return bound

/-- Reads the bounds of a repetition after its opening brace.  Without a closing brace the
opening one is a character like any other. -/
def readBounds? : PatternReader (Option (Nat × Option Nat)) := do
  let here ← get
  if (← peek) = some (.char '\x7d') then return none
  else
    let low ← takeAll isPlainDigit
    let high ← if ← accept ',' then takeAll isPlainDigit else pure low
    if ← accept '\x7d' then
      let least ← if low.isEmpty then pure 0 else readBound low
      if high.isEmpty then return some (least, none)
      else
        let most ← readBound high
        if most < least then refuseAt here.position .reversedBounds
        else return some (least, some most)
    else
      set here
      return none

/-- Repeats the last pattern read, the quantifier starting at a position. -/
def readRepeat (start : Nat) (least : Nat) (most : Option Nat) (done : List Node) :
    PatternReader (List Node) := do
  match done with
  | [] => refuseAt start .nothingToRepeat
  | .anchor _ :: _ => refuseAt start .nothingToRepeat
  | .rounds _ _ _ _ :: _ => refuseAt start .multipleRepeat
  | item :: before =>
    if ← accept '?' then return .rounds .reluctant least most item :: before
    else if ← accept '+' then return .rounds .possessive least most item :: before
    else return .rounds .greedy least most item :: before

/-- Reads the quantifier that a character starts; an opening brace may start none. -/
def readQuantifier (c : Char) (done : List Node) : PatternReader (List Node) := do
  let start := (← position) - 1
  match c with
  | '?' => readRepeat start 0 (some 1) done
  | '*' => readRepeat start 0 none done
  | '+' => readRepeat start 1 none done
  | _ =>
    match ← readBounds? with
    | some (least, most) => readRepeat start least most done
    | none => return .code c.toNat :: done

/-- The mode of a letter. -/
def flag? (token : Token) : Option Flags :=
  match token with
  | .char 'i' => some { ignoreCase := true }
  | .char 'm' => some { multiline := true }
  | .char 's' => some { dotAll := true }
  | .char 'x' => some { verbose := true }
  | .char 'a' => some { ascii := true }
  | .char 't' => some { template := true }
  | .char 'u' => some { wide := true }
  | _ => none

/-- Refuses a token that is no mode where one is wanted or where something may follow. -/
def refuseFlag {α : Type} (token : Token) (wanted : String) : PatternReader α :=
  match token with
  | .char c =>
    if isLetter c then refuse .unknownFlag 1 else refuse (.missing wanted) 1
  | token => refuse (.missing wanted) token.chars.length

/-- Reads the modes that are turned on, `token` being the first; the answer ends with the
token after them. -/
def readFlagsOn (on : Flags) (token : Token) : Nat → PatternReader (Flags × Token)
  | 0 => refuse (.missing "-, : or )") 0
  | fuel + 1 => do
    if token = .char 'L' then refuse .localeFlag 0
    else
      let on := on.union ((flag? token).getD {})
      if on.ascii && on.wide then refuse .conflictingFlags 0
      else
        match ← take with
        | none => refuse (.missing "-, : or )") 0
        | some next =>
          if next = .char ')' || next = .char '-' || next = .char ':' then return (on, next)
          else if (flag? next).isSome || next = .char 'L' then readFlagsOn on next fuel
          else refuseFlag next "-, : or )"

/-- Reads the modes that are turned off, `token` being the first, through the colon. -/
def readFlagsOff (off : Flags) (token : Token) : Nat → PatternReader Flags
  | 0 => refuse (.missing ":") 0
  | fuel + 1 => do
    let flag := (flag? token).getD {}
    if flag.ascii || flag.wide || token = .char 'L' then refuse .classFlagOff 0
    else
      let off := off.union flag
      match ← take with
      | none => refuse (.missing ":") 0
      | some next =>
        if next = .char ':' then return off
        else if (flag? next).isSome || next = .char 'L' then readFlagsOff off next fuel
        else refuseFlag next ":"

/-- The modes of either that the other has too. -/
def Flags.overlaps (a b : Flags) : Bool :=
  a.without b ≠ a

/-- Reads modes from their first token on: the modes turned on and off inside a group, or
none if they are turned on for the whole pattern. -/
def readFlags (token : Token) : PatternReader (Option (Flags × Flags)) := do
  let fuel := (← get).tokens.length + 1
  let (on, next) ← if token = .char '-' then pure ({}, token) else readFlagsOn {} token fuel
  if next = .char ')' then
    modify fun s => { s with flags := s.flags.union on }
    return none
  else if on.template then refuse .globalFlagOn 1
  else
    let off ←
      if next = .char '-' then
        match ← take with
        | none => refuse (.missing "flag") 0
        | some first =>
          if (flag? first).isSome || first = .char 'L' then readFlagsOff {} first fuel
          else refuseFlag first "flag"
      else pure {}
    if off.template then refuse .globalFlagOff 1
    else if on.overlaps off then refuse .flagOnAndOff 1
    else return some (on, off)

/-- Passes over a comment in parentheses that starts at a position. -/
def skipComment (start : Nat) : Nat → PatternReader Unit
  | 0 => refuseAt start .unterminatedComment
  | fuel + 1 => do
    match ← peek with
    | none => refuseAt start .unterminatedComment
    | some _ =>
      if (← take) = some (.char ')') then return () else skipComment start fuel

/-- Passes over the rest of a line. -/
def skipLine : Nat → PatternReader Unit
  | 0 => return ()
  | fuel + 1 => do
    match ← take with
    | none => return ()
    | some token => if token = .char '\n' then return () else skipLine fuel

/-- White space that does not count in the verbose mode. -/
def isLayout (c : Char) : Bool :=
  c == ' ' || (9 ≤ c.toNat && c.toNat ≤ 13)

/-- Reads a name through its closing character and refuses what is no name. -/
def readGroupName (terminator : Char) : PatternReader String := do
  let name ← takeName terminator "group name"
  if isName name then return String.ofList name
  else refuse (.badGroupName (String.ofList name)) (name.length + 1)

/-- Opens a group. -/
def openGroup (name : Option String) : PatternReader Nat := do
  let s ← get
  let index := s.groups + 1
  match name with
  | none =>
    set { s with groups := index }
    return index
  | some name =>
    match s.names.lookup name with
    | some former => refuse (.groupRedefined name index former) (name.length + 1)
    | none =>
      set { s with groups := index, names := (name, index) :: s.names }
      return index

/-- Consumes the closing parenthesis of what was opened at a position. -/
def closeAt (start : Nat) : PatternReader Unit := do
  if ← accept ')' then return () else refuseAt start .unterminatedGroup

/-- A reference to a group by name. -/
def readNamedReference : PatternReader Node := do
  let name ← readGroupName ')'
  match (← get).names.lookup name with
  | none => refuse (.unknownGroupName name) (name.length + 1)
  | some group => referTo group (name.length + 1)

/-- The least number that is too large for a group. -/
def groupLimit : Nat := 1073741823

/-- Reads which group a condition asks for. -/
def readAskedGroup : PatternReader Nat := do
  let name ← takeName ')' "group name"
  let text := String.ofList name
  let back := name.length + 1
  if isName name then
    match (← get).names.lookup text with
    | none => refuse (.unknownGroupName text) back
    | some group => return group
  else
    match wholeNumber? text with
    | none => refuse (.badGroupName text) back
    | some n =>
      if n < 0 then refuse (.badGroupName text) back
      else if n = 0 then refuse .badGroupNumber back
      else
        let group := n.toNat
        if groupLimit ≤ group then refuse (.unknownReference group) back
        else
          let place := (← position) - back
          modify fun s =>
            if (s.asked.lookup group).isSome then s
            else { s with asked := (group, place) :: s.asked }
          return group

/-- What an opening parenthesis starts. -/
inductive Opening where
  /-- Nothing that matches. -/
  | nothing
  /-- Modes of the whole pattern. -/
  | modes
  /-- A pattern that was read in full. -/
  | finished (node : Node)
  | group (name : Option String)
  | plain
  | atomic
  | scoped (on off : Flags)
  | look (behind negated : Bool)
  | conditional

/-- Reads what a parenthesis that was consumed starts, up to the pattern inside. -/
def readOpening (start : Nat) : PatternReader Opening := do
  if !(← accept '?') then return .group none
  else
    match ← take with
    | none => refuse .unexpectedEnd 0
    | some token =>
      match token with
      | .char 'P' =>
        if ← accept '<' then return .group (some (← readGroupName '>'))
        else if ← accept '=' then return .finished (← readNamedReference)
        else
          match ← take with
          | none => refuse .unexpectedEnd 0
          | some other => refuse (.unknownExtension ("?P" ++ other.text)) (other.chars.length + 2)
      | .char ':' => return .plain
      | .char '#' =>
        skipComment start ((← get).tokens.length + 1)
        return .nothing
      | .char '=' => return .look false false
      | .char '!' => return .look false true
      | .char '<' =>
        match ← take with
        | none => refuse .unexpectedEnd 0
        | some (.char '=') => return .look true false
        | some (.char '!') => return .look true true
        | some other => refuse (.unknownExtension ("?<" ++ other.text)) (other.chars.length + 2)
      | .char '(' => return .conditional
      | .char '>' => return .atomic
      | token =>
        if (flag? token).isSome || token = .char 'L' || token = .char '-' then
          match ← readFlags token with
          | none => return .modes
          | some (on, off) => return .scoped on off
        else refuse (.unknownExtension ("?" ++ token.text)) (token.chars.length + 1)

/-- The room that readers leave which wait for another one. -/
def leaveRoom (readers room : Nat) : PatternReader Nat :=
  if room < readers then throw (.failed (.nestedTooDeeply "")) else return room - readers

mutual

/-- Reads branches up to a closing parenthesis or the end; `top` tells that no group is
open. -/
def readChoice : Nat → Nat → Bool → Bool → PatternReader Node
  | 0, _, _, _ => refuse .unexpectedEnd 0
  | fuel + 1, room, verbose, top => do
    -- this reader waits, and so does that of each sequence
    let room ← leaveRoom 2 room
    let first ← readSequence fuel room verbose top []
    readBranches fuel room verbose top [first]

/-- Reads the branches after those read. -/
def readBranches : Nat → Nat → Bool → Bool → List Node → PatternReader Node
  | 0, _, _, _, _ => refuse .unexpectedEnd 0
  | fuel + 1, room, verbose, top, done => do
    if ← accept '|' then
      let flags := (← get).flags
      let verbose := if top then flags.verbose else verbose
      let next ← readSequence fuel room verbose false []
      readBranches fuel room verbose top (next :: done)
    else
      match done with
      | [only] => return only
      | _ => return .ofBranches done.reverse

/-- Reads patterns up to a bar, a closing parenthesis or the end; `first` tells that modes
of the whole pattern may still be given. -/
def readSequence : Nat → Nat → Bool → Bool → List Node → PatternReader Node
  | 0, _, _, _, _ => refuse .unexpectedEnd 0
  | fuel + 1, room, verbose, first, done => do
    match ← peek with
    | none => return .sequence done.reverse
    | some token =>
      if token = .char '|' || token = .char ')' then return .sequence done.reverse
      else
        discard take
        match token with
        | .dangling => refuse .danglingEscape 1
        | .escape c =>
          -- an escaped blank counts in the verbose mode too
          let node ← readEscape c
          readSequence fuel room verbose first (node :: done)
        | .char c =>
          if verbose && isLayout c then readSequence fuel room verbose first done
          else if verbose && c = '#' then
            skipLine ((← get).tokens.length + 1)
            readSequence fuel room verbose first done
          else
            match c with
            | '[' =>
              let node ← readSet
              readSequence fuel room verbose first (node :: done)
            | '.' => readSequence fuel room verbose first (.any :: done)
            | '^' => readSequence fuel room verbose first (.anchor .lineStart :: done)
            | '$' => readSequence fuel room verbose first (.anchor .lineEnd :: done)
            | '(' =>
              let start := (← position) - 1
              match ← readOpening start with
              | .nothing => readSequence fuel room verbose first done
              | .modes =>
                if !first || !done.isEmpty then refuseAt start .flagsNotAtStart
                else
                  let flags := (← get).flags
                  readSequence fuel room flags.verbose first done
              | .finished node => readSequence fuel room verbose first (node :: done)
              | opening =>
                let node ← readGroup fuel room verbose start opening
                readSequence fuel room verbose first (node :: done)
            | c =>
              if c = '?' || c = '*' || c = '+' || c = '\x7b' then
                let done ← readQuantifier c done
                readSequence fuel room verbose first done
              else readSequence fuel room verbose first (.code c.toNat :: done)

/-- Reads the inside of a group that was opened, and its closing parenthesis. -/
def readGroup : Nat → Nat → Bool → Nat → Opening → PatternReader Node
  | 0, _, _, _, _ => refuse .unexpectedEnd 0
  | fuel + 1, room, verbose, start, opening => do
    match opening with
    | .look behind negated =>
      let outer := (← get).lookBehindFrom
      if behind && outer.isNone then
        modify fun s => { s with lookBehindFrom := some (s.groups + 1) }
      let body ← readChoice fuel room verbose false
      if behind && outer.isNone then modify fun s => { s with lookBehindFrom := none }
      closeAt start
      return if behind then .lookBehind negated body else .lookAhead negated body
    | .conditional =>
      let group ← readAskedGroup
      guardLookBehind group
      let room ← leaveRoom 1 room
      let present ← readSequence fuel room verbose false []
      if ← accept '|' then
        let absent ← readSequence fuel room verbose false []
        if (← peek) = some (.char '|') then refuse .threeBranches 0
        else
          closeAt start
          return .conditional group present (some absent)
      else
        closeAt start
        return .conditional group present none
    | .scoped on off =>
      let body ← readChoice fuel room ((verbose || on.verbose) && !off.verbose) false
      closeAt start
      return .scoped on off body
    | .atomic =>
      let body ← readChoice fuel room verbose false
      closeAt start
      return .atomic body
    | .group name =>
      let index ← openGroup name
      let body ← readChoice fuel room verbose false
      closeAt start
      modify fun s => { s with widths := (index, body.width) :: s.widths }
      return .group index body
    | _ =>
      let body ← readChoice fuel room verbose false
      closeAt start
      -- a group for its own sake shields what is inside from a quantifier after it
      return .sequence [body]

end

mutual

/-- The first part of a pattern that cannot be searched for. -/
def defect? (template : Bool) : Node → Option Cause
  | .sequence nodes => defectOfAny? template nodes
  | .choice branches => defectOfAny? template branches
  | .group _ body => defect? template body
  | .scoped _ _ body => defect? template body
  | .atomic body => defect? template body
  | .lookAhead _ body => defect? template body
  | .lookBehind _ body =>
    let width := body.width
    if boundLimit < width.least then some .looksTooFarBehind
    else if width.least ≠ width.most then some .variableLookBehind
    else defect? template body
  | .rounds greed _ _ body =>
    if template then
      some (.templateRepeat (match greed with
        | .greedy => "MAX_REPEAT"
        | .reluctant => "MIN_REPEAT"
        | .possessive => "POSSESSIVE_REPEAT"))
    else defect? template body
  | .conditional _ present absent =>
    match absent with
    | some absent => (defect? template present).orElse fun _ => defect? template absent
    | none => defect? template present
  | _ => none

/-- The first defect of some patterns. -/
def defectOfAny? (template : Bool) : List Node → Option Cause
  | [] => none
  | node :: rest => (defect? template node).orElse fun _ => defectOfAny? template rest

end

end Pattern

/-- A pattern with the modes that hold in all of it. -/
structure Pattern where
  node : Pattern.Node
  flags : Pattern.Flags
  deriving Repr

namespace Pattern

/-- Reads a whole pattern. -/
def readWhole (fuel room : Nat) : PatternReader Pattern := do
  guardDangling
  let node ← readChoice fuel room false true
  let s ← get
  if s.flags.ascii && s.flags.wide then throw (.failed .conflictingClasses)
  else if !s.tokens.isEmpty then refuse .unbalanced 0
  else
    match s.asked.reverse.find? fun asked => s.groups < asked.1 with
    | some (group, place) => refuseAt place (.unknownReference group)
    | none =>
      if room < node.depth then throw (.failed (.nestedTooDeeply ""))
      else
        match defect? s.flags.template node with
        | some cause => throw (.faulty ⟨cause, none⟩)
        | none => return ⟨node, s.flags⟩

/-- The pattern of a text, or why it is refused. -/
def parse [limits : NestingLimits] (text : String) : Except Refusal Pattern :=
  let tokens := Token.ofChars text.toList
  let start : Progress :=
    { tokens := tokens, position := 0, flags := {}, groups := 0, widths := [], names := []
      lookBehindFrom := none, asked := [] }
  (readWhole (4 * tokens.length + 4) limits.groups).run start |>.map Prod.fst

end Pattern

end PromptTree
