import PromptTree.Numeral.Literal
import PromptTree.Value.Display

/-!
# Faults of documents

What is wrong with a document that was to be read as a definition, and where.

## Main Definitions

* `Step` — a step into a document: a field or an item.
* `FaultKind` — what is wrong, with its name and its wording.
* `Fault` — a kind, a place and the value found there.
* `Checked` — a result, or all the faults that stand in its way.

## Design Notes

Reading goes on after a fault, so that a document is told all its faults at once.
`Checked` is an applicative functor that gathers the faults of both its parts in order,
and no monad: what is read next must not depend on a result that may be missing.
-/

namespace PromptTree.Schema

/-- A step into a document. -/
inductive Step where
  | field (name : String)
  | item (index : Nat)
  deriving Repr, DecidableEq

/-- What is wrong with a value. -/
inductive FaultKind where
  | missing
  | notString
  | notInteger
  | unreadableInteger
  | integerTooLong
  | fraction
  | notFinite
  | notNumber
  | unreadableNumber
  | notBoolean
  | unreadableBoolean
  | notOneOf (choices : List String)
  | notList
  | notObject
  | notRecord (name : String)
  | tooSmall (least : Int)
  | reversedRange (low high : Int)
  deriving Repr, DecidableEq

namespace FaultKind

/-- The name of the kind. -/
def code : FaultKind → String
  | .missing => "missing"
  | .notString => "string_type"
  | .notInteger => "int_type"
  | .unreadableInteger => "int_parsing"
  | .integerTooLong => "int_parsing_size"
  | .fraction => "int_from_float"
  | .notFinite => "finite_number"
  | .notNumber => "float_type"
  | .unreadableNumber => "float_parsing"
  | .notBoolean => "bool_type"
  | .unreadableBoolean => "bool_parsing"
  | .notOneOf _ => "literal_error"
  | .notList => "list_type"
  | .notObject => "dict_type"
  | .notRecord _ => "model_type"
  | .tooSmall _ => "greater_than_equal"
  | .reversedRange _ _ => "value_error"

/-- Choices in quotes, the last one after the word "or". -/
def choiceText : List String → String
  | [] => ""
  | [a] => Text.quoted a
  | [a, b] => Text.quoted a ++ " or " ++ Text.quoted b
  | a :: rest => Text.quoted a ++ ", " ++ choiceText rest

/-- The kind in words. -/
def message : FaultKind → String
  | .missing => "Field required"
  | .notString => "Input should be a valid string"
  | .notInteger => "Input should be a valid integer"
  | .unreadableInteger =>
    "Input should be a valid integer, unable to parse string as an integer"
  | .integerTooLong => "Unable to parse input string as an integer, exceeded maximum size"
  | .fraction => "Input should be a valid integer, got a number with a fractional part"
  | .notFinite => "Input should be a finite number"
  | .notNumber => "Input should be a valid number"
  | .unreadableNumber => "Input should be a valid number, unable to parse string as a number"
  | .notBoolean => "Input should be a valid boolean"
  | .unreadableBoolean => "Input should be a valid boolean, unable to interpret input"
  | .notOneOf choices => "Input should be " ++ choiceText choices
  | .notList => "Input should be a valid list"
  | .notObject => "Input should be a valid dictionary"
  | .notRecord name => "Input should be a valid dictionary or instance of " ++ name
  | .tooSmall least => "Input should be greater than or equal to " ++ toString least
  | .reversedRange low high =>
    "Value error, min (" ++ toString low ++ ") cannot be greater than max (" ++
      toString high ++ ")"

end FaultKind

/-- A fault of a document: its kind, its place and the value found there. -/
structure Fault where
  path : List Step
  kind : FaultKind
  found : Value
  deriving Repr

/-- A result, or the faults that stand in its way. -/
inductive Checked (α : Type) where
  | ok (result : α)
  | faulty (faults : List Fault)
  deriving Repr

namespace Checked

variable {α β : Type}

/-- A single fault at the value itself. -/
def fail (kind : FaultKind) (found : Value) : Checked α :=
  .faulty [⟨[], kind, found⟩]

/-- Applies a function to the result. -/
def map (f : α → β) : Checked α → Checked β
  | .ok a => .ok (f a)
  | .faulty faults => .faulty faults

/-- Applies a checked function to a checked argument, with the faults of both. -/
def ap (f : Checked (α → β)) (a : Checked α) : Checked β :=
  match f, a with
  | .ok f, .ok a => .ok (f a)
  | .ok _, .faulty faults => .faulty faults
  | .faulty faults, .ok _ => .faulty faults
  | .faulty faults, .faulty more => .faulty (faults ++ more)

instance : Functor Checked where
  map := map

instance : Applicative Checked where
  pure := .ok
  seq f a := ap f (a ())

/-- Moves the faults a step down. -/
def below (step : Step) : Checked α → Checked α
  | .ok a => .ok a
  | .faulty faults => .faulty (faults.map fun fault => { fault with path := step :: fault.path })

/-- Demands more of a result. -/
def andThen (f : α → Checked β) : Checked α → Checked β
  | .ok a => f a
  | .faulty faults => .faulty faults

/-- The results of all, or the faults of all. -/
def sequence : List (Checked α) → Checked (List α)
  | [] => .ok []
  | a :: rest => ap (map List.cons a) (sequence rest)

/-- The result, or the faults. -/
def toExcept : Checked α → Except (List Fault) α
  | .ok a => .ok a
  | .faulty faults => .error faults

end Checked

end PromptTree.Schema
