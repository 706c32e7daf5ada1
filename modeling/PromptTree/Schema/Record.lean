import PromptTree.Schema.Scalar

/-!
# Reading lists and records

Readers of composite values from readers of their parts.

## Main Definitions

* `list`, `dictionary`, `record` — a list; an object with any fields; an object that is
  read field by field.
* `required`, `optional`, `withDefault` — a field.
* `asMember` — one way of reading among several.
-/

namespace PromptTree.Schema

variable {α : Type}

/-- Items with the steps to them, counted from a number on. -/
def itemsFrom (read : Reader α) (index : Nat) : List Value → List (Checked α)
  | [] => []
  | v :: rest => (read v).below (.item index) :: itemsFrom read (index + 1) rest

/-- A list. -/
def list (read : Reader α) : Reader (List α) := fun v =>
  match v.items? with
  | some items => .sequence (itemsFrom read 0 items)
  | none => .fail .notList v

/-- An object with any fields. -/
def dictionary : Reader Entries := fun v =>
  match v.entries? with
  | some entries => .ok entries
  | none => .fail .notObject v

/-- An object that is read field by field. -/
def record (name : String) (read : Entries → Checked α) : Reader α := fun v =>
  match v.entries? with
  | some entries => read entries
  | none => .fail (.notRecord name) v

/-- A value, or nothing for `null`. -/
def nullable (read : Reader α) : Reader (Option α) := fun v =>
  if v.isNull then .ok none else (read v).map some

/-- The entry under the first of some names that is there. -/
def entry? (entries : Entries) : List String → Option (String × Value)
  | [] => none
  | name :: rest =>
    match Entries.get? entries name with
    | some v => some (name, v)
    | none => entry? entries rest

/-- A field with several names, the first of which it has in faults. -/
def requiredAs (entries : Entries) (names : List String) (read : Reader α) : Checked α :=
  match entry? entries names with
  | some (name, v) => (read v).below (.field name)
  | none => .faulty [⟨(names.take 1).map .field, .missing, .object entries⟩]

/-- A field with several names that may be missing. -/
def withDefaultAs (entries : Entries) (names : List String) (fallback : α) (read : Reader α) :
    Checked α :=
  match entry? entries names with
  | some (name, v) => (read v).below (.field name)
  | none => .ok fallback

/-- A field that has to be there. -/
def required (entries : Entries) (name : String) (read : Reader α) : Checked α :=
  requiredAs entries [name] read

/-- A field with a value for when it is missing. -/
def withDefault (entries : Entries) (name : String) (fallback : α) (read : Reader α) :
    Checked α :=
  withDefaultAs entries [name] fallback read

/-- A field that may be missing or `null`. -/
def optional (entries : Entries) (name : String) (read : Reader α) : Checked (Option α) :=
  withDefault entries name none (nullable read)

/-- One way of reading among several, told apart in faults by a name. -/
def asMember (name : String) (read : Reader α) : Reader α := fun v =>
  (read v).below (.field name)

/-- Reads in one way, and in another one if that fails; if both fail, the faults are those
of both. -/
def orElse (first second : Reader α) : Reader α := fun v =>
  match first v with
  | .ok a => .ok a
  | .faulty faults =>
    match second v with
    | .ok a => .ok a
    | .faulty more => .faulty (faults ++ more)

end PromptTree.Schema
