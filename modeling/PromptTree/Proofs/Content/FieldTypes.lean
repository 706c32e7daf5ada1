import PromptTree.Proofs.Content.Flawless

/-!
# Types of fields

The check of a document looks at the places of nodes, at lists and at counts.  It does not
look at the texts, flags and formats in the other fields.  Which values these may have, so
that the document can be read, is said here by a table: for every kind of node its fields
with their types, and for the cases of a choice the types of what they are chosen by.

## Main Definitions

* `FieldType`, `FieldType.admits` — the types, and their values.
* `Entries.Fit` — all fields that are there have values of their types.
* `ContentTag.fieldTypes`, `ContentTag.caseTypes`, `testTypes` — the tables.
-/

namespace PromptTree

open Schema

/-! ## Types -/

/-- What a field may hold. -/
inductive FieldType where
  /-- A text or `null`. -/
  | text
  /-- A text, and not `null`. -/
  | word
  /-- A value that spells a boolean. -/
  | flag
  /-- A boolean, a number or a text. -/
  | scalar
  /-- A number within the range of floating point numbers. -/
  | weight
  /-- A list of texts or `null`. -/
  | texts
  /-- A list of weights or `null`. -/
  | weights
  /-- A format or `null`. -/
  | format
  deriving Repr, DecidableEq

/-- Whether a value is of a type. -/
def FieldType.admits : FieldType → Value → Bool
  | .text, v => v.isNull || v.str?.isSome
  | .word, v => v.str?.isSome
  | .flag, v => (boolean v).isOk
  | .scalar, v => v.isBool || v.isNumber || v.str?.isSome
  | .weight, v => (number v).isOk
  | .texts, v => v.isNull || v.items?.any fun items => items.all fun item => item.str?.isSome
  | .weights, v => v.isNull || v.items?.any fun items => items.all fun item => (number item).isOk
  | .format, v => v.isNull || (Format.read v).isOk

/-- All fields that are there have values of their types. -/
def Entries.Fit (entries : Entries) (fields : List (String × FieldType)) : Prop :=
  ∀ field ∈ fields, (entries.lookup field.1).all field.2.admits = true

instance (entries : Entries) (fields : List (String × FieldType)) :
    Decidable (entries.Fit fields) :=
  inferInstanceAs (Decidable (∀ field ∈ fields, _))

@[simp] theorem Entries.fit_nil (entries : Entries) : entries.Fit [] :=
  nofun

@[simp] theorem Entries.fit_cons (entries : Entries) (name : String) (type : FieldType)
    (rest : List (String × FieldType)) :
    entries.Fit ((name, type) :: rest) ↔
      ((entries.lookup name).all fun v => type.admits v) = true ∧ entries.Fit rest :=
  List.forall_mem_cons

/-! ## Tables -/

/-- The fields of a node of a kind that hold neither nodes nor counts. -/
def ContentTag.fieldTypes : ContentTag → List (String × FieldType)
  | .text => [("value", .text)]
  | .variable => [("variable_id", .text), ("path", .text), ("format", .format)]
  | .sectionRef => [("section_id", .text)]
  | .composite => []
  | .conditional => []
  | .list => [("variable_id", .text), ("separator_set_id", .text)]
  | .context => [("context_key", .text)]
  | .plural =>
    [("count_variable", .text), ("zero", .text), ("one", .text), ("two", .text), ("few", .text),
     ("many", .text), ("other", .text)]
  | .article => [("word_variable", .text), ("style", .word), ("capitalize", .flag)]
  | .countSwitch => [("count_variable", .text)]
  | .switch => [("variable_id", .text)]
  | .pickOne => [("weights", .weights)]
  | .pickMany => [("separator_set_id", .text), ("allow_duplicates", .flag)]
  | .randomValue =>
    [("pool", .texts), ("pool_variable", .text), ("data_type_id", .text), ("format", .format)]
  | .weightedPick => []
  | .shuffle => [("variable_id", .text), ("separator_set_id", .text)]

/-- The fields of the cases of a node of a kind that hold neither nodes nor counts. -/
def ContentTag.caseTypes : ContentTag → List (String × FieldType)
  | .switch => [("value", .scalar)]
  | .weightedPick => [("weight", .weight)]
  | _ => []

/-- The fields of a test. -/
def testTypes : List (String × FieldType) :=
  [("variable", .text), ("path", .text), ("context_key", .text), ("operator", .text)]

/-! ## Readers of fields -/

section Readers

variable {α : Type} {read : Reader α} {entries : Entries} {name : String}

/-- A field that has to be there, and is, by its value. -/
theorem isOk_required_getD (h : (Entries.getD entries name).isNull = false) :
    (required entries name read).isOk = (read (Entries.getD entries name)).isOk := by
  rw [isOk_required, lookup_of_given h, Option.any_some]

/-- A field that has to be there, and is, by its type. -/
theorem isOk_required_eq_all (h : (Entries.getD entries name).isNull = false) :
    (required entries name read).isOk = (entries.lookup name).all fun v => (read v).isOk := by
  rw [isOk_required, lookup_of_given h, Option.any_some, Option.all_some]

/-- A field that has to be there, and is, is read like one that may be missing. -/
theorem isOk_required_eq_optional (h : (Entries.getD entries name).isNull = false) :
    (required entries name read).isOk = (optional entries name read).isOk := by
  rw [isOk_required, isOk_optional, lookup_of_given h, Option.any_some, Option.all_some, h,
    Bool.false_or]

/-- A field that may be missing or `null`, by its value. -/
theorem all_getD (p : Value → Bool) :
    ((entries.lookup name).all fun v => v.isNull || p v) =
      ((Entries.getD entries name).isNull || p (Entries.getD entries name)) := by
  unfold Entries.getD
  cases entries.lookup name with
  | none => rfl
  | some v => rfl

/-- A field with a single node. -/
theorem all_given (p : Value → Bool) :
    (∀ v ∈ Entries.given entries name, p v = true) ↔
      ((entries.lookup name).all fun v => v.isNull || p v) = true := by
  rw [Entries.given_eq, all_getD]
  cases (Entries.getD entries name).isNull with
  | true => simp
  | false => simp

/-- A field with a list, if the check finds nothing wrong with it. -/
theorem all_items (hgiven : (Entries.getD entries name).isNull = false)
    (h : (listField entries name).2.Clean) (p : Value → Bool) :
    ((entries.lookup name).all fun v => v.items?.any fun items => items.all p) = true ↔
      ∀ v ∈ (listField entries name).1, p v = true := by
  rw [lookup_of_clean_listField hgiven h]
  simp [Value.items?]

end Readers

end PromptTree
