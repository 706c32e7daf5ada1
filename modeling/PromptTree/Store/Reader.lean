import PromptTree.Store.Entity

/-!
# Reading stored definitions

Sections, separator sets, data types and packages from documents.  A definition without an
id is given a fresh one.

## Main Definitions

* `Supply`, `freshId` — the ids given so far, and the next one.
* `Supplied` — a reader that may give out ids.
* `readSection`, `readSeparatorSet`, `readDataType`, `readPackage` — the readers.

## Design Notes

Ids are given out in the order of the document, also by documents that are refused in the
end.
-/

namespace PromptTree

open Schema

/-- How many ids were given out. -/
abbrev Supply := Nat

/-- The id given out after a number of others: that number and one, in twelve hexadecimal
digits. -/
def freshId (given : Supply) : String :=
  String.ofList (Text.hexDigits 12 (given + 1))

/-- A reader that may give out ids. -/
abbrev Supplied (α : Type) := Value → Supply → Checked α × Supply

/-- The id of a document: the one it spells, or a fresh one. -/
def readId (entries : Entries) (given : Supply) : String × Supply :=
  match Entries.get? entries "id" with
  | some v => (idString v, given)
  | none => (freshId given, given + 1)

/-- The identity of a document, its id being known. -/
def readIdentity (entries : Entries) (id : String) : Checked Identity :=
  Identity.mk id <$> withDefault entries "package_id" "" (fun v => .ok (idString v))
    <*> withDefault entries "namespace" "" string
    <*> withDefault entries "name" "" string
    <*> withDefault entries "description" "" string

/-- A definition of a document, given how its own fields are read. -/
def readStored {α : Type} (name : String) (body : Entries → Checked α) : Supplied (Stored α) :=
  fun v given =>
    match v.entries? with
    | none => (.fail (.notRecord name) v, given)
    | some entries =>
      let (id, given) := readId entries given
      (Stored.mk <$> readIdentity entries id <*> body entries, given)

/-- A variable of a document. -/
def VariableDefinition.read : Reader VariableDefinition :=
  record "VariableDefinition" fun entries =>
    VariableDefinition.mk <$> Schema.required entries "id" string
      <*> withDefault entries "name" "" string
      <*> withDefault entries "description" "" string
      <*> withDefault entries "type" "string" string
      <*> optional entries "data_type_id" string
      <*> withDefault entries "required" false boolean
      <*> withDefault entries "default_value" .null anything
      <*> optional entries "enum_values" (list string)

/-- An example of a document. -/
def Example.read : Reader Example :=
  record "PromptExample" fun entries =>
    Example.mk <$> required entries "name" string
      <*> withDefault entries "description" "" string
      <*> withDefault entries "variables" [] dictionary
      <*> withDefault entries "expected_output" "" string

/-- The fields of a section. -/
def SectionBody.readEntries (entries : Entries) : Checked SectionBody :=
  SectionBody.mk <$> required entries "content" Content.read
    <*> withDefault entries "is_entry_point" false boolean
    <*> withDefault entries "exportable" false boolean
    <*> withDefault entries "required_variables" [] (list string)
    <*> withDefault entries "variables" [] (list VariableDefinition.read)
    <*> withDefault entries "tags" [] (list string)
    <*> withDefault entries "examples" [] (list Example.read)

/-- A section of a document. -/
def readSection : Supplied Section :=
  readStored "PromptSection" SectionBody.readEntries

/-- A separator set of a document. -/
def readSeparatorSet : Supplied SeparatorSet :=
  readStored "SeparatorSet" fun entries => required entries "rules" SeparatorRules.read

/-- Rules of values of a document. -/
def ValidationRules.read : Reader ValidationRules :=
  record "ValidationRules" fun entries =>
    ValidationRules.mk <$> optional entries "pattern" string
      <*> optional entries "min" number
      <*> optional entries "max" number
      <*> optional entries "enum_values" (list string)
      <*> optional entries "required" boolean

/-- The fields of a data type. -/
def DataTypeBody.readEntries (entries : Entries) : Checked DataTypeBody :=
  DataTypeBody.mk <$> withDefault entries "base_type" "string" string
    <*> optional entries "validation" ValidationRules.read
    <*> optional entries "format" Format.read
    <*> withDefault entries "examples" [] (list anything)

/-- A data type of a document. -/
def readDataType : Supplied DataType :=
  readStored "PromptDataType" DataTypeBody.readEntries

/-- What a package says about itself in a document. -/
def readPackageInfo : Supplied PackageInfo := fun v given =>
  match v.entries? with
  | none => (.fail (.notRecord "PromptPackage") v, given)
  | some entries =>
    let (id, given) := readId entries given
    let info := PackageInfo.mk id <$> required entries "namespace" string
      <*> withDefault entries "additional_namespaces" [] (list string)
      <*> withDefault entries "name" "" string
      <*> withDefault entries "version" "0.1.0" string
      <*> withDefault entries "description" "" string
      <*> withDefault entries "author" "" string
      <*> withDefault entries "dependencies" [] (list string)
      <*> withDefault entries "exports" [] (list string)
    (info, given)

/-- Items read in order, each below its own step. -/
def readSuppliedItems {α : Type} (read : Supplied α) (index : Nat) :
    List Value → Supply → List (Checked α) × Supply
  | [], given => ([], given)
  | v :: rest, given =>
    let (first, given) := read v given
    let (others, given) := readSuppliedItems read (index + 1) rest given
    (first.below (.item index) :: others, given)

/-- A list that may give out ids, empty if the field is missing. -/
def readSuppliedList {α : Type} (entries : Entries) (name : String) (read : Supplied α)
    (given : Supply) : Checked (List α) × Supply :=
  match Entries.get? entries name with
  | none => (.ok [], given)
  | some v =>
    match v.items? with
    | none => ((Checked.fail .notList v).below (.field name), given)
    | some items =>
      let (checked, given) := readSuppliedItems read 0 items given
      ((Checked.sequence checked).below (.field name), given)

/-- A package of a document. -/
def readPackage : Supplied Package := fun v given =>
  match v.entries? with
  | none => (.fail (.notRecord "PackageExport") v, given)
  | some entries =>
    let (info, given) :=
      match Entries.get? entries "package" with
      | none => (.faulty [⟨[.field "package"], .missing, v⟩], given)
      | some inner =>
        let (info, given) := readPackageInfo inner given
        (info.below (.field "package"), given)
    let (sections, given) := readSuppliedList entries "sections" readSection given
    let (separatorSets, given) := readSuppliedList entries "separator_sets" readSeparatorSet given
    let (dataTypes, given) := readSuppliedList entries "data_types" readDataType given
    let package := Package.mk <$> withDefault entries "format_version" "1.0" string
      <*> optional entries "exported_at" string
      <*> info <*> sections <*> separatorSets <*> dataTypes
    (package, given)

end PromptTree
