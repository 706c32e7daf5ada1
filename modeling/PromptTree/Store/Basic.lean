import PromptTree.Failure
import PromptTree.Store.Reader

/-!
# Stores of definitions

Definitions in the order in which they were added, looked up by id or name and by
namespace.

## Main Definitions

* `Shelf` — the definitions of one kind; `Shelf.put`, `Shelf.lookup?`.
* `Store` — a shelf for every kind, and the namespace that is current.
* `Store.section?`, `Store.separatorSet?`, `Store.dataType?` — lookups.
* `Store.ofPackage` — the store of a package.
* `Resolver` — lookups that may fail, which is all that rendering knows of a store.

## Design Notes

A key with a namespace finds definitions of that namespace only.  Without one, a section is
looked for in the current namespace and then among those that may be referred to from
elsewhere; sets and types are looked for everywhere.  Of several that match the first wins.
-/

namespace PromptTree

/-! ## Shelves -/

/-- The definitions of one kind, in order. -/
abbrev Shelf (α : Type) := List (Stored α)

namespace Shelf

variable {α : Type}

/-- Adds a definition: in the place of the one with its namespace and id, or at the end. -/
def put (entity : Stored α) : Shelf α → Shelf α
  | [] => [entity]
  | first :: rest =>
    if first.identity.sameKey entity.identity then entity :: rest else first :: put entity rest

/-- The first definition of a namespace that matches a key. -/
def findIn? (shelf : Shelf α) (scope key : String) : Option (Stored α) :=
  shelf.find? fun entity => entity.identity.scope == scope && entity.identity.matchesKey key

/-- The first definition that matches a key with or without a namespace. -/
def lookup? (shelf : Shelf α) (key : String) : Option (Stored α) :=
  match splitScopedId key with
  | (some scope, rest) => findIn? shelf scope rest
  | (none, whole) => shelf.find? fun entity => entity.identity.matchesKey whole

end Shelf

/-! ## Stores -/

/-- Definitions of all kinds. -/
structure Store where
  current : Option String := none
  sections : Shelf SectionBody := []
  separatorSets : Shelf SeparatorRules := []
  dataTypes : Shelf DataTypeBody := []
  deriving Inhabited

namespace Store

/-- The section of the current namespace that matches a key. -/
def currentSection? (store : Store) (key : String) : Option Section :=
  match store.current with
  | some scope => if scope.isEmpty then none else Shelf.findIn? store.sections scope key
  | none => none

/-- The section of a key. -/
def section? (store : Store) (key : String) : Option Section :=
  match splitScopedId key with
  | (some scope, rest) => Shelf.findIn? store.sections scope rest
  | (none, _) =>
    (store.currentSection? key).orElse fun _ =>
      store.sections.find? fun entity => entity.body.exportable && entity.identity.matchesKey key

/-- The separator set of a key. -/
def separatorSet? (store : Store) (key : String) : Option SeparatorSet :=
  Shelf.lookup? store.separatorSets key

/-- The data type of a key. -/
def dataType? (store : Store) (key : String) : Option DataType :=
  Shelf.lookup? store.dataTypes key

/-- A store with a section added. -/
def addSection (store : Store) (entity : Section) : Store :=
  { store with sections := Shelf.put entity store.sections }

/-- A store with a separator set added. -/
def addSeparatorSet (store : Store) (entity : SeparatorSet) : Store :=
  { store with separatorSets := Shelf.put entity store.separatorSets }

/-- A store with a data type added. -/
def addDataType (store : Store) (entity : DataType) : Store :=
  { store with dataTypes := Shelf.put entity store.dataTypes }

/-- The sections that a request may ask for, those of the current namespace first. -/
def entryPoints (store : Store) : List Section :=
  let all := store.sections.filter (·.body.isEntryPoint)
  let isCurrent (entity : Section) : Bool := some entity.identity.scope == store.current
  all.filter isCurrent ++ all.filter (!isCurrent ·)

/-- A definition of a package: what it does not say about its namespace and its package, it
takes from the package. -/
def own {α : Type} (info : PackageInfo) (entity : Stored α) : Stored α :=
  let identity := entity.identity
  { entity with
    identity := { identity with
      scope := if identity.scope.isEmpty then info.scope else identity.scope
      packageId := if identity.packageId.isEmpty then info.id else identity.packageId } }

/-- The store of a package, whose namespace becomes the current one. -/
def ofPackage (package : Package) : Store where
  current := some package.info.scope
  sections := package.sections.foldl (fun shelf e => Shelf.put (own package.info e) shelf) []
  separatorSets :=
    package.separatorSets.foldl (fun shelf e => Shelf.put (own package.info e) shelf) []
  dataTypes := package.dataTypes.foldl (fun shelf e => Shelf.put (own package.info e) shelf) []

end Store

/-! ## Resolvers -/

/-- Lookups that may fail. -/
structure Resolver where
  findSection : String → Except Failure (Option Section)
  findSeparatorSet : String → Except Failure (Option SeparatorSet)
  findDataType : String → Except Failure (Option DataType)

namespace Resolver

/-- The resolver that finds nothing. -/
def empty : Resolver where
  findSection _ := .ok none
  findSeparatorSet _ := .ok none
  findDataType _ := .ok none

end Resolver

/-- The lookups of a store, which never fail. -/
def Store.resolver (store : Store) : Resolver where
  findSection key := .ok (store.section? key)
  findSeparatorSet key := .ok (store.separatorSet? key)
  findDataType key := .ok (store.dataType? key)

end PromptTree
