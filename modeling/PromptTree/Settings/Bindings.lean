import PromptTree.Text.Cut

/-!
# Files of variables

Files that bind names to texts, one binding a line: `NAME=value`, the value bare or in
single or double quotes.  A bare value ends before white space with a hash after it; in
quotes the value may go over several lines.  A line that is no binding is passed over.

## Main Definitions

* `bindingsOf` — the bindings of a text, in order.
* `expand` — a value with the variables in it replaced.
* `assignAll` — what is bound in the end, every value expanded.

## Design Notes

A name without an equals sign is bound to nothing, which hides an earlier value of it.
-/

namespace PromptTree.Variables

open Text

/-- A name with its value, or with none. -/
abbrev Binding := String × Option String

/-- White space within a line. -/
def isGap (c : Char) : Bool :=
  isBlank c && c != '\n' && c != '\r'

/-- The characters after white space within the line. -/
def skipGap (cs : List Char) : List Char :=
  cs.dropWhile isGap

/-- Whether a line goes on. -/
def inLine (c : Char) : Bool :=
  c != '\n' && c != '\r'

/-- The characters after the end of a line. -/
def dropNewline : List Char → List Char
  | '\r' :: '\n' :: rest => rest
  | '\r' :: rest => rest
  | '\n' :: rest => rest
  | cs => cs

/-- The characters after the line. -/
def skipLine (cs : List Char) : List Char :=
  dropNewline (cs.dropWhile inLine)

/-- The characters after the word `export`, if white space within the line follows it. -/
def skipExport (cs : List Char) : List Char :=
  let word := "export".toList
  let rest := cs.drop word.length
  if word.isPrefixOf cs && (rest.head?.any isGap) then skipGap rest else cs

/-- The characters up to a quote that closes, and those after it.  A quote after a backslash
closes only if no other one does. -/
def closeQuote (quote : Char) : List Char → Option (List Char × List Char)
  | [] => none
  | '\\' :: c :: rest =>
    if c = quote then
      match closeQuote quote rest with
      | some (inside, after) => some ('\\' :: c :: inside, after)
      | none => some (['\\'], rest)
    else
      (closeQuote quote (c :: rest)).map fun (inside, after) => ('\\' :: inside, after)
  | c :: rest =>
    if c = quote then some ([], rest)
    else (closeQuote quote rest).map fun (inside, after) => (c :: inside, after)
termination_by cs => cs.length

/-- The characters that letters and signs after a backslash stand for in single quotes. -/
def singleEscapes : List (Char × Char) :=
  [('\\', '\\'), ('\'', '\'')]

/-- The characters that letters and signs after a backslash stand for in double quotes. -/
def doubleEscapes : List (Char × Char) :=
  [('\\', '\\'), ('\'', '\''), ('"', '"'), ('a', Char.ofNat 7), ('b', Char.ofNat 8),
   ('f', Char.ofNat 12), ('n', '\n'), ('r', '\r'), ('t', '\t'), ('v', Char.ofNat 11)]

/-- The characters of a value in quotes. -/
def unescape (escapes : List (Char × Char)) : List Char → List Char
  | '\\' :: c :: rest =>
    match escapes.lookup c with
    | some meant => meant :: unescape escapes rest
    | none => '\\' :: unescape escapes (c :: rest)
  | c :: rest => c :: unescape escapes rest
  | [] => []
termination_by cs => cs.length

/-- A line up to white space with a hash after it. -/
def beforeComment : List Char → List Char
  | [] => []
  | c :: rest =>
    if isBlank c && (rest.dropWhile isBlank).head? == some '#' then []
    else c :: beforeComment rest

/-- A name and the characters after it; no name before a hash.  There is no answer where no
name can be read. -/
def readName (cs : List Char) : Option (Option String × List Char) :=
  match cs with
  | '#' :: _ => some (none, cs)
  | '\'' :: rest =>
    let name := rest.takeWhile (· != '\'')
    match rest.drop name.length with
    | _ :: after => if name.isEmpty then none else some (some (String.ofList name), after)
    | [] => none
  | _ =>
    let name := cs.takeWhile fun c => !(c == '=' || c == '#' || isBlank c)
    if name.isEmpty then none else some (some (String.ofList name), cs.drop name.length)

/-- A value and the characters after it.  There is no answer where a quote is not closed. -/
def readValue (cs : List Char) : Option (String × List Char) :=
  match cs with
  | '\'' :: rest =>
    (closeQuote '\'' rest).map fun (inside, after) =>
      (String.ofList (unescape singleEscapes inside), after)
  | '"' :: rest =>
    (closeQuote '"' rest).map fun (inside, after) =>
      (String.ofList (unescape doubleEscapes inside), after)
  | _ =>
    let line := cs.takeWhile inLine
    some (strip (String.ofList (beforeComment line)), cs.drop line.length)

/-- The characters after a comment and the end of the line, where nothing else is left of the
line. -/
def endLine? (cs : List Char) : Option (List Char) :=
  let rest := skipGap cs
  let rest := if rest.head? == some '#' then rest.dropWhile inLine else rest
  match rest with
  | [] => some []
  | c :: _ => if inLine c then none else some (dropNewline rest)

/-- Reads one binding, if there is one, and returns the characters after it. -/
def readBinding (cs : List Char) : Option Binding × List Char :=
  match skipExport (cs.dropWhile isBlank) with
  | [] => (none, [])
  | cs =>
    match readName cs with
    | none => (none, skipLine cs)
    | some (name, after) =>
      match skipGap after with
      | '=' :: after =>
        let after := skipGap after
        match readValue after with
        | none => (none, skipLine after)
        | some (value, after) =>
          match endLine? after with
          | none => (none, skipLine after)
          | some rest => (name.map fun name => (name, some value), rest)
      | after =>
        match endLine? after with
        | none => (none, skipLine after)
        | some rest => (name.map fun name => (name, none), rest)

/-- Reads bindings, at most as many as the first argument says. -/
def readBindings : Nat → List Char → List Binding
  | 0, _ => []
  | _, [] => []
  | fuel + 1, cs =>
    let (binding, rest) := readBinding cs
    binding.toList ++ readBindings fuel rest

/-- The bindings of a text, in order.  Every binding takes at least one character. -/
def bindingsOf (text : String) : List Binding :=
  readBindings text.toList.length text.toList

/-! ## Variables in values -/

/-- A variable with braces around it at the beginning of a text, its value where it is
bound to nothing, and the characters after it. -/
def readVariable (cs : List Char) : Option (String × String × List Char) :=
  let name := cs.takeWhile fun c => c != '\x7d' && c != ':'
  match cs.drop name.length with
  | '\x7d' :: rest => some (String.ofList name, "", rest)
  | ':' :: '-' :: rest =>
    let fallback := rest.takeWhile (· != '\x7d')
    match rest.drop fallback.length with
    | _ :: after => some (String.ofList name, String.ofList fallback, after)
    | [] => none
  | _ => none

/-- A value with its variables replaced; the first argument bounds the number of steps. -/
def expandFrom (lookup : String → Option (Option String)) : Nat → List Char → List Char
  | 0, cs => cs
  | _, [] => []
  | fuel + 1, '$' :: '\x7b' :: rest =>
    match readVariable rest with
    | some (name, fallback, after) =>
      ((((lookup name).getD (some fallback)).getD "").toList) ++ expandFrom lookup fuel after
    | none => '$' :: expandFrom lookup fuel ('\x7b' :: rest)
  | fuel + 1, c :: rest => c :: expandFrom lookup fuel rest

/-- A value with its variables replaced by what they are bound to. -/
def expand (lookup : String → Option (Option String)) (value : String) : String :=
  String.ofList (expandFrom lookup value.toList.length value.toList)

/-- Sets what a name is bound to, in place if it is bound already. -/
def assign (name : String) (value : Option String) : List Binding → List Binding
  | [] => [(name, value)]
  | (n, v) :: rest => if n = name then (name, value) :: rest else (n, v) :: assign name value rest

/-- What is bound after some bindings.  A variable in a value stands for what it was bound to
before, and else for what it is bound to in the environment. -/
def assignAll (environment : List (String × String)) (bindings : List Binding) :
    List Binding :=
  bindings.foldl
    (fun bound (name, value) =>
      let lookup := fun asked =>
        match bound.lookup asked with
        | some value => some value
        | none => (environment.lookup asked).map some
      assign name (value.map (expand lookup)) bound)
    []

end PromptTree.Variables
