import Mathlib.Data.List.Nodup
import PromptTree.Proofs.Store.Keys
import PromptTree.Store.Basic

/-!
# Stores that are filled by additions

A store comes about by adding definitions to an empty one, in any order and of any kinds;
`Store.ofAdditions` is the store that a history of additions leads to, and the store of a
package is one of these (`ofPackage_eq_ofAdditions`).

An addition takes the place of the definition with its namespace and id, or a new place at
the end (`places_put`).  So **no two definitions of a store are in the same place**, whatever
was added (`Store.ofAdditions_distinct`): one addition keeps this, and a history by induction.

## Main Definitions

* `Store.Addition`, `Store.add` — one addition.
* `Store.ofAdditions` — the store of a history.
* `Shelf.places`, `Shelf.keys` — the places and the keys of definitions, in order.
* `Store.Distinct` — the invariant.
-/

namespace PromptTree

/-! ## Shelves -/

namespace Shelf

variable {α : Type} {entity : Stored α} {shelf : Shelf α}

/-- The places of the definitions, in order. -/
def places (shelf : Shelf α) : List (String × String) :=
  shelf.map (·.identity.place)

/-- The keys of the definitions, in order. -/
def keys (shelf : Shelf α) : List String :=
  shelf.map (·.identity.scopedId)

theorem places_concat (shelf : Shelf α) (entity : Stored α) :
    places (shelf ++ [entity]) = places shelf ++ [entity.identity.place] :=
  List.map_append

theorem keys_concat (shelf : Shelf α) (entity : Stored α) :
    keys (shelf ++ [entity]) = keys shelf ++ [entity.identity.scopedId] :=
  List.map_append

/-- **A definition takes the place of the one with its namespace and id**, or a new place at
the end. -/
theorem places_put (entity : Stored α) (shelf : Shelf α) :
    (shelf.put entity).places =
      if entity.identity.place ∈ shelf.places then shelf.places
      else shelf.places ++ [entity.identity.place] := by
  induction shelf with
  | nil => simp [put, places]
  | cons first rest ih =>
      rw [put]
      split
      · rename_i hsame
        have hplace := Identity.sameKey_iff.mp hsame
        simp [places, hplace]
      · rename_i hother
        rw [Identity.sameKey_iff] at hother
        have hmem : entity.identity.place ∈ places (first :: rest) ↔
            entity.identity.place ∈ places rest := by
          simp [places, Ne.symm hother]
        simp only [hmem]
        change first.identity.place :: places (put entity rest) = _
        rw [ih]
        split
        · rfl
        · rfl

theorem nodup_places_put (h : shelf.places.Nodup) : (shelf.put entity).places.Nodup := by
  rw [places_put]
  split
  · exact h
  · rename_i hnew
    rw [← List.concat_eq_append, List.nodup_concat]
    exact ⟨hnew, h⟩

/-- Plain namespaces give definitions in different places different keys. -/
theorem nodup_keys_of_plain (h : shelf.places.Nodup)
    (hplain : ∀ entity ∈ shelf, entity.identity.HasPlainScope) : shelf.keys.Nodup := by
  refine List.Nodup.map_on (fun first hfirst second hsecond hkey => ?_) (List.Nodup.of_map _ h)
  have hsame := sameKey_of_scopedId_eq (hplain first hfirst) (hplain second hsecond) hkey
  exact List.inj_on_of_nodup_map h hfirst hsecond (Identity.sameKey_iff.mp hsame)

/-- **An addition is not seen by a search** for what is neither the definition that is added
nor one that it takes the place of. -/
theorem find?_put {p : Stored α → Bool} (hnew : p entity = false)
    (hold : ∀ old ∈ shelf, old.identity.sameKey entity.identity = true → p old = false) :
    (shelf.put entity).find? p = shelf.find? p := by
  induction shelf with
  | nil => simp [put, hnew]
  | cons first rest ih =>
      obtain ⟨hfirst, hrest⟩ := List.forall_mem_cons.mp hold
      rw [put]
      split
      · rename_i hsame
        simp [hnew, hfirst hsame]
      · rw [List.find?_cons, List.find?_cons, ih hrest]

end Shelf

/-! ## Histories -/

namespace Store

/-- A definition that is added to a store. -/
inductive Addition where
  | ofSection (entity : Section)
  | ofSeparatorSet (entity : SeparatorSet)
  | ofDataType (entity : DataType)

/-- A store after an addition. -/
def add (store : Store) : Addition → Store
  | .ofSection entity => store.addSection entity
  | .ofSeparatorSet entity => store.addSeparatorSet entity
  | .ofDataType entity => store.addDataType entity

/-- The store that additions lead to, from an empty one with a current namespace. -/
def ofAdditions (current : Option String) (additions : List Addition) : Store :=
  additions.foldl add { current := current }

/-- No two definitions of a kind have the same namespace and id. -/
structure Distinct (store : Store) : Prop where
  sections : (Shelf.places store.sections).Nodup
  separatorSets : (Shelf.places store.separatorSets).Nodup
  dataTypes : (Shelf.places store.dataTypes).Nodup

theorem Distinct.add {store : Store} (h : store.Distinct) (addition : Addition) :
    (store.add addition).Distinct := by
  cases addition with
  | ofSection entity => exact { h with sections := Shelf.nodup_places_put h.sections }
  | ofSeparatorSet entity =>
      exact { h with separatorSets := Shelf.nodup_places_put h.separatorSets }
  | ofDataType entity => exact { h with dataTypes := Shelf.nodup_places_put h.dataTypes }

theorem Distinct.foldl_add {store : Store} (h : store.Distinct) (additions : List Addition) :
    (additions.foldl Store.add store).Distinct := by
  induction additions generalizing store with
  | nil => exact h
  | cons first rest ih => exact ih (h.add first)

/-- **A store that was filled by additions has one definition in each place.** -/
theorem ofAdditions_distinct (current : Option String) (additions : List Addition) :
    (ofAdditions current additions).Distinct := by
  refine Distinct.foldl_add ?_ additions
  exact { sections := List.nodup_nil, separatorSets := List.nodup_nil, dataTypes := List.nodup_nil }

/-! ## Packages -/

/-- The additions of a package, in order. -/
def additionsOf (package : Package) : List Addition :=
  package.sections.map (fun entity => .ofSection (own package.info entity)) ++
    package.separatorSets.map (fun entity => .ofSeparatorSet (own package.info entity)) ++
    package.dataTypes.map (fun entity => .ofDataType (own package.info entity))

/-- Additions of one kind fill one shelf of a store. -/
private theorem foldl_add_kind {α : Type} {wrap : Stored α → Addition} (store : Shelf α → Store)
    (h : ∀ shelf entity, (store shelf).add (wrap entity) = store (shelf.put entity))
    (f : Stored α → Stored α) (entities : List (Stored α)) (shelf : Shelf α) :
    (entities.map fun entity => wrap (f entity)).foldl add (store shelf) =
      store (entities.foldl (fun shelf entity => Shelf.put (f entity) shelf) shelf) := by
  induction entities generalizing shelf with
  | nil => rfl
  | cons first rest ih =>
      rw [List.map_cons, List.foldl_cons, h, ih, List.foldl_cons]

/-- **The store of a package is filled by additions.** -/
theorem ofPackage_eq_ofAdditions (package : Package) :
    ofPackage package = ofAdditions (some package.info.scope) (additionsOf package) := by
  let info := package.info
  let filled := ofPackage package
  have hsections : (package.sections.map fun e => .ofSection (own info e)).foldl add
      { current := some info.scope } =
        { current := some info.scope, sections := filled.sections } :=
    foldl_add_kind (fun shelf => { current := some info.scope, sections := shelf })
      (fun _ _ => rfl) (own info) package.sections []
  have hsets : (package.separatorSets.map fun e => .ofSeparatorSet (own info e)).foldl add
      { current := some info.scope, sections := filled.sections } =
        { filled with dataTypes := [] } :=
    foldl_add_kind (fun shelf => { filled with separatorSets := shelf, dataTypes := [] })
      (fun _ _ => rfl) (own info) package.separatorSets []
  have htypes : (package.dataTypes.map fun e => .ofDataType (own info e)).foldl add
      { filled with dataTypes := [] } = filled :=
    foldl_add_kind (fun shelf => { filled with dataTypes := shelf })
      (fun _ _ => rfl) (own info) package.dataTypes []
  rw [ofAdditions, additionsOf, List.foldl_append, List.foldl_append, hsections, hsets, htypes]

end Store

end PromptTree
