import PromptTree.Content.Dump
import PromptTree.Content.Reader
import PromptTree.Json.Printer
import PromptTree.Separator.Rules

/-!
# Stored definitions

What a package holds: sections, separator sets and data types, each with an identity.

## Main Definitions

* `Identity` — the namespace, the id and the names of a definition.
* `Stored` — a definition with its identity.
* `Section`, `SeparatorSet`, `DataType` — the three kinds of definitions.
* `Package` — what a document of a package holds.
* `scopedId`, `splitScopedId` — a key with its namespace.
-/

namespace PromptTree

/-! ## Identities -/

/-- Who a definition is. -/
structure Identity where
  id : String
  packageId : String := ""
  scope : String := ""
  name : String := ""
  description : String := ""
  deriving Repr, DecidableEq, Inhabited

namespace Identity

/-- Whether a key is the id or the name of a definition.  An empty name is no name. -/
def matchesKey (identity : Identity) (key : String) : Bool :=
  identity.id == key || (!identity.name.isEmpty && identity.name == key)

/-- The id with its namespace. -/
def scopedId (identity : Identity) : String :=
  identity.scope ++ ":" ++ identity.id

/-- Whether two definitions take the same place: they agree in namespace and id. -/
def sameKey (a b : Identity) : Bool :=
  a.id == b.id && a.scope == b.scope

end Identity

/-- Splits a key at its first colon into a namespace and the rest; a key without a colon has
no namespace. -/
def splitScopedId (key : String) : Option String × String :=
  match Text.cut ':' key with
  | (scope, some rest) => (some scope, rest)
  | (whole, none) => (none, whole)

/-- The id that a value spells: a text as it is, the `id` of an object, any other value
written out.  What counts as false spells the empty id. -/
def idString (v : Value) : String :=
  if !v.isTruthy then ""
  else
    match v with
    | .str s => s
    | .object entries =>
      match Entries.get? entries "id" with
      | none => v.literal
      | some (.str s) => s
      | some (.object inner) =>
        match Entries.get? inner "String" with
        | some s => s.plain
        | none => Json.line true (.object inner)
      | some inner => Json.line true inner
    | v => v.literal

/-- A definition with its identity. -/
structure Stored (α : Type) where
  identity : Identity
  body : α
  deriving Inhabited

/-! ## Sections -/

/-- A variable that an entry point declares. -/
structure VariableDefinition where
  id : String
  name : String := ""
  description : String := ""
  type : String := "string"
  dataType : Option String := none
  required : Bool := false
  defaultValue : Value := .null
  enumValues : Option (List String) := none
  deriving Repr

/-- An example of what a section renders. -/
structure Example where
  name : String
  description : String := ""
  vars : Entries := []
  expectedOutput : String := ""
  deriving Repr

/-- The content of a section and how it may be used. -/
structure SectionBody where
  content : Content
  /-- Whether a request may ask for it. -/
  isEntryPoint : Bool := false
  /-- Whether other namespaces may refer to it. -/
  exportable : Bool := false
  requiredVariables : List String := []
  vars : List VariableDefinition := []
  tags : List String := []
  examples : List Example := []
  deriving Inhabited

/-- A named content tree. -/
abbrev Section := Stored SectionBody

/-! ## Separator sets and data types -/

/-- Named separator rules. -/
abbrev SeparatorSet := Stored SeparatorRules

/-- What values of a data type have to satisfy. -/
structure ValidationRules where
  pattern : Option String := none
  min : Option Float := none
  max : Option Float := none
  enumValues : Option (List String) := none
  required : Option Bool := none
  deriving Repr

/-- The rules and the format of a data type. -/
structure DataTypeBody where
  baseType : String := "string"
  validation : Option ValidationRules := none
  format : Option Format := none
  examples : List Value := []
  deriving Inhabited

/-- A named type of values. -/
abbrev DataType := Stored DataTypeBody

namespace DataTypeBody

/-- The values that a data type lists. -/
def enumValues (body : DataTypeBody) : List String :=
  (body.validation.bind (·.enumValues)).getD []

end DataTypeBody

/-! ## Packages -/

/-- What a package says about itself. -/
structure PackageInfo where
  id : String
  scope : String
  additionalScopes : List String := []
  name : String := ""
  version : String := "0.1.0"
  description : String := ""
  author : String := ""
  dependencies : List String := []
  exports : List String := []
  deriving Repr, Inhabited

/-- A package with its definitions. -/
structure Package where
  formatVersion : String := "1.0"
  exportedAt : Option String := none
  info : PackageInfo
  sections : List Section := []
  separatorSets : List SeparatorSet := []
  dataTypes : List DataType := []
  deriving Inhabited

end PromptTree
