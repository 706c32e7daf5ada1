import PromptTree.Numeral.Dyadic

/-!
# Dynamic values

The data that prompts are rendered from and that documents consist of: the values
of JSON, with integers and floating point numbers kept apart, and with tuples, which
behave like lists except that they are equal to no list.

## Main Definitions

* `Value` — a dynamic value.
* `Entries` — the members of an object in the order they were written.
* `Entries.put`, `Entries.overlay`, `Entries.ofList` — an entry for a key that is
  already there takes its place; a new one goes to the end.
* `Value.isTruthy`, `Value.isSequence`, `Number` — what conditions and counts ask.
* `Value.depth` — the bound for readers of nested documents.

## Design Notes

An object is a plain list of entries.  That no key occurs twice is kept by the
functions that build objects and is no part of the type, so that recursion over
values stays structural.
-/

namespace PromptTree

/-- A dynamic value. -/
inductive Value where
  | null
  | bool (b : Bool)
  | int (n : Int)
  | float (x : Float)
  | str (s : String)
  | list (items : List Value)
  | tuple (items : List Value)
  | object (entries : List (String × Value))
  deriving Inhabited, Repr

/-- The members of an object, in order. -/
abbrev Entries := List (String × Value)

namespace Entries

/-- The value under a key. -/
def get? (entries : Entries) (key : String) : Option Value :=
  entries.lookup key

/-- The value under a key, `null` if there is none. -/
def getD (entries : Entries) (key : String) : Value :=
  (entries.lookup key).getD .null

/-- Whether there is an entry for a key. -/
def has (entries : Entries) (key : String) : Bool :=
  (entries.lookup key).isSome

/-- Sets the value under a key, in place if the key is there and at the end if not. -/
def put (key : String) (value : Value) : Entries → Entries
  | [] => [(key, value)]
  | (k, v) :: rest =>
    if k = key then (key, value) :: rest else (k, v) :: put key value rest

/-- Entries with others set over them. -/
def overlay (entries more : Entries) : Entries :=
  more.foldl (fun acc entry => put entry.1 entry.2 acc) entries

/-- The object of a list of pairs: the last value of a key stands where its first one was. -/
def ofList (pairs : List (String × Value)) : Entries :=
  overlay [] pairs

end Entries

/-- A number of either kind. -/
inductive Number where
  | int (n : Int)
  | float (x : Float)
  deriving Repr

namespace Number

/-- The exact comparison of two numbers; no number compares with anything. -/
def compare? : Number → Number → Option Ordering
  | .int a, .int b => some (compare a b)
  | .float x, .int b => Numeral.compareInt? x b
  | .int a, .float y => (Numeral.compareInt? y a).map Ordering.swap
  | .float x, .float y =>
    if x < y then some .lt else if y < x then some .gt else if x == y then some .eq else none

/-- Equality of numbers by value, across kinds. -/
def equals (a b : Number) : Bool :=
  compare? a b == some .eq

/-- Whether one number is less than another. -/
def less (a b : Number) : Bool :=
  compare? a b == some .lt

/-- Whether one number is less than or equal to another. -/
def atMost (a b : Number) : Bool :=
  less a b || equals a b

end Number

namespace Value

/-- The number a value is.  Booleans are no numbers. -/
def number? : Value → Option Number
  | .int n => some (.int n)
  | .float x => some (.float x)
  | _ => none

/-- The number a value counts as where booleans count as 0 and 1. -/
def numeric? : Value → Option Number
  | .bool b => some (.int (if b then 1 else 0))
  | v => v.number?

/-- Whether a value is a number. -/
def isNumber (v : Value) : Bool :=
  v.number?.isSome

/-- The items of a list or a tuple. -/
def items? : Value → Option (List Value)
  | .list items => some items
  | .tuple items => some items
  | _ => none

/-- Whether a value is a list or a tuple. -/
def isSequence (v : Value) : Bool :=
  v.items?.isSome

/-- What a value consists of: the items of a sequence, the keys of an object, the characters
of a text. -/
def elements? : Value → Option (List Value)
  | .list items => some items
  | .tuple items => some items
  | .object entries => some (entries.map fun entry => .str entry.1)
  | .str s => some (s.toList.map fun c => .str (String.singleton c))
  | _ => none

/-- The text a value is. -/
def str? : Value → Option String
  | .str s => some s
  | _ => none

/-- The entries of an object. -/
def entries? : Value → Option Entries
  | .object entries => some entries
  | _ => none

/-- Whether a value is `null`. -/
def isNull : Value → Bool
  | .null => true
  | _ => false

/-- Whether a value is a boolean. -/
def isBool : Value → Bool
  | .bool _ => true
  | _ => false

/-- Whether a value counts as true: it is neither `null`, nor false, nor zero, nor empty. -/
def isTruthy : Value → Bool
  | .null => false
  | .bool b => b
  | .int n => n != 0
  | .float x => !(x == 0.0)
  | .str s => !s.isEmpty
  | .list items => !items.isEmpty
  | .tuple items => !items.isEmpty
  | .object entries => !entries.isEmpty

/-- The name of the kind of a value in messages. -/
def kindName : Value → String
  | .null => "NoneType"
  | .bool _ => "bool"
  | .int _ => "int"
  | .float _ => "float"
  | .str _ => "str"
  | .list _ => "list"
  | .tuple _ => "tuple"
  | .object _ => "dict"

mutual

/-- How deep values are nested in a value. -/
def depth : Value → Nat
  | .list items => depthOfItems items + 1
  | .tuple items => depthOfItems items + 1
  | .object entries => depthOfEntries entries + 1
  | _ => 0

/-- The greatest depth of items. -/
def depthOfItems : List Value → Nat
  | [] => 0
  | v :: rest => max (depth v) (depthOfItems rest)

/-- The greatest depth of the values of entries. -/
def depthOfEntries : List (String × Value) → Nat
  | [] => 0
  | (_, v) :: rest => max (depth v) (depthOfEntries rest)

end

/-- The value of a text that may be missing. -/
def ofString? : Option String → Value
  | some s => .str s
  | none => .null

/-- The list of texts. -/
def ofStrings (texts : List String) : Value :=
  .list (texts.map .str)

end Value

end PromptTree
