import PromptTree.Command.Usage
import PromptTree.Numeral.Literal

/-!
# Command lines

Options and words.  An option starts with two hyphens and may be cut short as long as it
stays the only one; its value follows it, or stands after an equals sign.  After `--` every
argument is a word.

## Main Definitions

* `OptionKind`, `Positional`, `Syntax` — what a program takes.
* `Token`, `Syntax.token` — how an argument reads.
* `Given` — what a command line gives.
* `Syntax.parse` — the reading of a command line.

## Design Notes

Every argument is classified before any is given a meaning, so a beginning of several options
is refused whatever stands before it.  The words of a program that takes any number of them
have to stand together; words after an option in between mean nothing.
-/

namespace PromptTree.Command

/-- What an option takes: nothing, because it asks for help; nothing, because it is a flag; a
text; an integer. -/
inductive OptionKind where
  | help
  | flag
  | text
  | integer
  deriving Repr, DecidableEq

/-- An option. -/
structure OptionRule where
  name : String
  kind : OptionKind := .text
  required : Bool := false
  deriving Repr, DecidableEq

/-- The words that a program takes: none, one, or at least one, by a name. -/
inductive Positional where
  | none
  | one (name : String)
  | some (name : String)
  deriving Repr, DecidableEq

/-- What a program takes: its options, those one and only one of which has to be there, and
its words. -/
structure Syntax where
  program : String
  options : List OptionRule := []
  alternatives : List String := []
  words : Positional := .none

/-- The option that asks for help, as it is called in messages. -/
def helpOption : OptionRule := ⟨"-h/--help", .help, false⟩

/-- How an argument reads: as a word, as the sign after which all are words, as an option with
the value it carries, or as an option that is not known.  The option for help may carry more
letters, which are kept apart from a value. -/
inductive Token where
  | word (text : String)
  | dashes
  | option (rule : OptionRule) (value : Option String)
  | letters (rest : List Char)
  | unknown (text : String)
  deriving Repr, DecidableEq

/-- Whether a text is a negative number, which is a word. -/
def isNegativeNumber (cs : List Char) : Bool :=
  match cs with
  | '-' :: rest =>
    let rest := if rest.getLast? == some '\n' then rest.dropLast else rest
    let whole := rest.takeWhile Text.isDecimal
    match rest.drop whole.length with
    | [] => !whole.isEmpty
    | '.' :: places => !places.isEmpty && places.all Text.isDecimal
    | _ => false
  | _ => false

namespace Syntax

/-- The options by their spellings, in the order in which they are matched. -/
def spellings (rules : Syntax) : List (String × OptionRule) :=
  ("-h", helpOption) :: ("--help", helpOption) ::
    rules.options.map fun rule => (rule.name, rule)

/-- The options that an argument may stand for, with the value it carries. -/
def candidates (rules : Syntax) (argument : String) : List (String × OptionRule × Option String) :=
  let (start, value) := Text.cut '=' argument
  (rules.spellings.filter fun spelling => Text.startsWith start spelling.1).map
    fun (spelling, rule) => (spelling, rule, value)

/-- A word, unless it has to be an option that is not known. -/
def otherToken (argument : String) : Token :=
  let cs := argument.toList
  if isNegativeNumber cs || cs.contains ' ' then .word argument else .unknown argument

/-- How an argument reads before the sign after which all are words. -/
def token (rules : Syntax) (argument : String) : Except UsageFault Token :=
  match argument.toList with
  | '-' :: next :: more =>
    let (start, value) := Text.cut '=' argument
    match rules.spellings.lookup argument, rules.spellings.lookup start with
    | some rule, _ => .ok (.option rule none)
    | none, some rule => .ok (.option rule value)
    | none, none =>
      if next == '-' then
        match rules.candidates argument with
        | [] => .ok (otherToken argument)
        | [(_, rule, value)] => .ok (.option rule value)
        | several => .error (.ambiguous argument (several.map Prod.fst))
      else if next == 'h' then .ok (.letters more)
      else .ok (otherToken argument)
  | _ => .ok (.word argument)

/-- How the arguments read. -/
def tokens (rules : Syntax) : List String → Except UsageFault (List Token)
  | [] => .ok []
  | "--" :: rest => .ok (.dashes :: rest.map .word)
  | argument :: rest => do
    let first ← rules.token argument
    let others ← tokens rules rest
    return first :: others

end Syntax

/-! ## What is given -/

/-- How far the words have come: none yet, some and more may follow at once, or no more. -/
inductive WordState where
  | awaited
  | running
  | closed
  deriving Repr, DecidableEq

/-- What a command line gives: values of options, the last one of each first, flags, words,
and what means nothing. -/
structure Given where
  texts : List (String × String) := []
  integers : List (String × Int) := []
  flags : List String := []
  words : List String := []
  extras : List String := []
  /-- Whether words may still follow. -/
  state : WordState := .awaited
  /-- The option whose value has to follow. -/
  owed : Option OptionRule := none

namespace Given

/-- Whether an option is given. -/
def has (given : Given) (option : String) : Bool :=
  (given.texts.lookup option).isSome || (given.integers.lookup option).isSome ||
    given.flags.contains option

/-- Takes the value of an option. -/
def takeValue (given : Given) (rules : Syntax) (rule : OptionRule) (value : String) :
    Except UsageFault Given := do
  let given ←
    match rule.kind with
    | .integer =>
      match Numeral.wholeNumber? value with
      | some n => pure { given with integers := (rule.name, n) :: given.integers }
      | none => throw (.notInteger rule.name value)
    | _ => pure { given with texts := (rule.name, value) :: given.texts }
  if rules.alternatives.contains rule.name then
    match rules.alternatives.find? fun other => other ≠ rule.name && given.has other with
    | some other => throw (.excluded rule.name other)
    | none => return given
  else return given

/-- Takes a word. -/
def takeWord (given : Given) (rules : Syntax) (word : String) : Given :=
  match rules.words, given.state with
  | .one _, .awaited => { given with words := [word], state := .running }
  | .some _, .awaited => { given with words := [word], state := .running }
  | .some _, .running => { given with words := given.words ++ [word] }
  | _, _ => { given with extras := given.extras ++ [word], state := .closed }

/-- Takes the sign after which all are words.  It is passed over where words may stand. -/
def takeDashes (given : Given) (rules : Syntax) : Given :=
  match rules.words, given.state with
  | .one _, .running => { given with state := .closed }
  | .one _, .awaited => given
  | .some _, .running => given
  | .some _, .awaited => given
  | _, _ => { given with extras := given.extras ++ ["--"] }

/-- Ends the run of words if one has begun. -/
def closeWords (given : Given) : Given :=
  if given.state = .running then { given with state := .closed } else given

/-- What the letters after the option for help come to. -/
def takeLetters (program : String) (rest : List Char) : Halt :=
  match rest.dropWhile (· == 'h') with
  | '=' :: value => .refused program (.ignoredValue helpOption.name (String.ofList value))
  | '-' :: value => .refused program (.ignoredValue helpOption.name (String.ofList ('-' :: value)))
  | _ => .help

/-- Takes an option. -/
def takeOption (given : Given) (rules : Syntax) (rule : OptionRule) (value : Option String) :
    Except Halt Given :=
  let given := given.closeWords
  let refuse := fun fault => Halt.refused rules.program fault
  match rule.kind, value with
  | .help, none => .error .help
  | .flag, none => .ok { given with flags := rule.name :: given.flags }
  | .help, some value => .error (refuse (.ignoredValue rule.name value))
  | .flag, some value => .error (refuse (.ignoredValue rule.name value))
  | _, none => .ok { given with owed := some rule }
  | _, some value => (given.takeValue rules rule value).mapError refuse

/-- Takes the next argument. -/
def take (given : Given) (rules : Syntax) (token : Token) : Except Halt Given :=
  let refuse := fun fault => Halt.refused rules.program fault
  match given.owed with
  | some rule =>
    let given := { given with owed := none }
    match token with
    | .word value => (given.takeValue rules rule value).mapError refuse
    | _ => .error (refuse (.withoutValue rule.name))
  | none =>
    match token with
    | .word word => .ok (given.takeWord rules word)
    | .dashes => .ok (given.takeDashes rules)
    | .option rule value => given.takeOption rules rule value
    | .letters rest => .error (takeLetters rules.program rest)
    | .unknown text =>
      let given := given.closeWords
      .ok { given with extras := given.extras ++ [text] }

end Given

namespace Syntax

/-- The names of what has to be there and is not. -/
def missing (rules : Syntax) (given : Given) : List String :=
  let options := rules.options.filter fun rule => rule.required && !given.has rule.name
  let words :=
    match rules.words with
    | .none => []
    | .one name => if given.words.isEmpty then [name] else []
    | .some name => if given.words.isEmpty then [name] else []
  options.map (·.name) ++ words

/-- Reads a command line: what it gives, arguments that mean nothing included. -/
def parse (rules : Syntax) (arguments : List String) : Except Halt Given := do
  let refuse := fun fault => Halt.refused rules.program fault
  let tokens ← (rules.tokens arguments).mapError refuse
  let given ← tokens.foldlM (fun given token => Given.take given rules token) ({} : Given)
  match given.owed with
  | some rule => throw (refuse (.withoutValue rule.name))
  | none =>
    match rules.missing given with
    | [] =>
      if rules.alternatives.isEmpty || rules.alternatives.any given.has then return given
      else throw (refuse (.oneRequired rules.alternatives))
    | names => throw (refuse (.required names))

end Syntax

end PromptTree.Command
