import PromptTree.Store.Entity

/-!
# Writing stored definitions

The documents of sections, separator sets, data types and packages.

## Main Definitions

* `Stored.dump` — the document of a definition, given its own fields.
* `Section.dump`, `SeparatorSet.dump`, `DataType.dump`, `Package.dump` — the documents.
-/

namespace PromptTree

open Schema

/-- The document of a definition, given its own fields. -/
def Stored.dump {α : Type} (fields : α → List (String × Option Value)) (entity : Stored α) :
    Value :=
  recordOf
    ([("id", some (.str entity.identity.id)),
      ("package_id", some (.str entity.identity.packageId)),
      ("namespace", some (.str entity.identity.scope)),
      ("name", some (.str entity.identity.name)),
      ("description", some (.str entity.identity.description))] ++ fields entity.body)

/-- The document of a variable. -/
def VariableDefinition.dump (v : VariableDefinition) : Value :=
  recordOf
    [("id", some (.str v.id)), ("name", some (.str v.name)),
     ("description", some (.str v.description)), ("type", some (.str v.type)),
     ("data_type_id", v.dataType.map .str), ("required", some (.bool v.required)),
     ("default_value", if v.defaultValue.isNull then none else some (portable v.defaultValue)),
     ("enum_values", v.enumValues.map Value.ofStrings)]

/-- The document of an example. -/
def Example.dump (e : Example) : Value :=
  .object
    [("name", .str e.name), ("description", .str e.description),
     ("variables", portable (.object e.vars)), ("expected_output", .str e.expectedOutput)]

/-- The fields of a section. -/
def SectionBody.fields (body : SectionBody) : List (String × Option Value) :=
  [("content", some body.content.dump), ("is_entry_point", some (.bool body.isEntryPoint)),
   ("exportable", some (.bool body.exportable)),
   ("required_variables", some (Value.ofStrings body.requiredVariables)),
   ("variables", some (.list (body.vars.map VariableDefinition.dump))),
   ("tags", some (Value.ofStrings body.tags)),
   ("examples", some (.list (body.examples.map Example.dump)))]

/-- The document of a section. -/
def Section.dump (section_ : Section) : Value :=
  Stored.dump SectionBody.fields section_

/-- The document of a separator set. -/
def SeparatorSet.dump (set : SeparatorSet) : Value :=
  Stored.dump (fun rules => [("rules", some rules.dump)]) set

/-- The document of rules of values. -/
def ValidationRules.dump (rules : ValidationRules) : Value :=
  recordOf
    [("pattern", rules.pattern.map .str), ("min", rules.min.map .float),
     ("max", rules.max.map .float), ("enum_values", rules.enumValues.map Value.ofStrings),
     ("required", rules.required.map .bool)]

/-- The fields of a data type. -/
def DataTypeBody.fields (body : DataTypeBody) : List (String × Option Value) :=
  [("base_type", some (.str body.baseType)),
   ("validation", body.validation.map ValidationRules.dump),
   ("format", body.format.map Format.dump),
   ("examples", some (portable (.list body.examples)))]

/-- The document of a data type. -/
def DataType.dump (type : DataType) : Value :=
  Stored.dump DataTypeBody.fields type

/-- The document of what a package says about itself. -/
def PackageInfo.dump (info : PackageInfo) : Value :=
  .object
    [("id", .str info.id), ("namespace", .str info.scope),
     ("additional_namespaces", Value.ofStrings info.additionalScopes),
     ("name", .str info.name), ("version", .str info.version),
     ("description", .str info.description), ("author", .str info.author),
     ("dependencies", Value.ofStrings info.dependencies),
     ("exports", Value.ofStrings info.exports)]

/-- The document of a package. -/
def Package.dump (package : Package) : Value :=
  recordOf
    [("format_version", some (.str package.formatVersion)),
     ("exported_at", package.exportedAt.map .str),
     ("package", some package.info.dump),
     ("sections", some (.list (package.sections.map Section.dump))),
     ("separator_sets", some (.list (package.separatorSets.map SeparatorSet.dump))),
     ("data_types", some (.list (package.dataTypes.map DataType.dump)))]

end PromptTree
