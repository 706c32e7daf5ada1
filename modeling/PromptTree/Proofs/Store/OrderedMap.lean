import PromptTree.Proofs.Store.Lookup
import PromptTree.Store.Submit

/-!
# Stores as ordered maps

What is in a store after any documents were added to it, good ones and faulty ones?  For each
kind of definitions it is a **map in insertion order**: from places, each a namespace and an
id, to the definition that was added last in this place, in the order in which the places were
first taken (`Shelf.MapOf`).

One addition keeps this, on a shelf (`Shelf.MapOf.put`) and of any kind (`Store.MapOf.add`), so
any number of them does, by induction.  A history of documents comes to the additions of those
that are read (`Store.ofSubmissions_eq_ofAdditions`), because a rejected one leaves no trace.
Lookups with a namespace search this order (`Shelf.findIn?_eq_find?`).

## Main Definitions

* `Stored.IsLatest` — a definition that was added last in its place.
* `Shelf.MapOf`, `Store.MapOf` — the ordered map of what was added.
* `Submission` — a document that is to be added.
* `Store.after`, `Store.ofSubmissions` — a store after one document, and after a history.
* `Identity.AnswersTo` — a definition of a namespace with a text for its id or its name.
-/

namespace PromptTree

/-! ## Shelves -/

section Shelves

variable {α : Type} {shelf : Shelf α} {added : List (Stored α)} {entity other : Stored α}

/-- A definition was added, and no other one after it in its place. -/
def Stored.IsLatest (entity : Stored α) (added : List (Stored α)) : Prop :=
  ∃ earlier later, added = earlier ++ entity :: later ∧
    entity.identity.place ∉ Shelf.places later

theorem Stored.isLatest_concat :
    other.IsLatest (added ++ [entity]) ↔
      other = entity ∨ other.IsLatest added ∧ other.identity.place ≠ entity.identity.place := by
  constructor
  · rintro ⟨earlier, later, hadded, hlater⟩
    rcases List.eq_nil_or_concat' later with rfl | ⟨middle, last, rfl⟩
    · exact .inl (List.append_singleton_inj.mp hadded).2.symm
    · rw [← List.cons_append, ← List.append_assoc] at hadded
      obtain ⟨rfl, rfl⟩ := List.append_singleton_inj.mp hadded
      rw [Shelf.places_concat, List.mem_append, not_or, List.mem_singleton] at hlater
      exact .inr ⟨⟨earlier, middle, rfl, hlater.1⟩, hlater.2⟩
  · rintro (rfl | ⟨⟨earlier, later, rfl, hlater⟩, hne⟩)
    · exact ⟨added, [], rfl, List.not_mem_nil⟩
    · refine ⟨earlier, later ++ [entity], by simp, ?_⟩
      rw [Shelf.places_concat, List.mem_append, not_or, List.mem_singleton]
      exact ⟨hlater, hne⟩

namespace Shelf

/-- A shelf holds, for every place in the order in which the places were first taken, the
definition that was added last. -/
structure MapOf (shelf : Shelf α) (added : List (Stored α)) : Prop where
  /-- No place is taken twice. -/
  distinct : shelf.places.Nodup
  /-- The places stand in the order in which they were first taken. -/
  order : shelf.places = (places added).eraseDups
  /-- What was added last in its place is there, and nothing else. -/
  latest : ∀ entity, entity ∈ shelf ↔ entity.IsLatest added

theorem mapOf_nil : MapOf ([] : Shelf α) [] where
  distinct := List.nodup_nil
  order := rfl
  latest entity := by
    refine iff_of_false List.not_mem_nil ?_
    rintro ⟨earlier, later, hadded, -⟩
    simp at hadded

/-- An addition keeps all definitions but the one in its place. -/
theorem mem_put (h : shelf.places.Nodup) :
    other ∈ shelf.put entity ↔
      other = entity ∨ other ∈ shelf ∧ other.identity.place ≠ entity.identity.place := by
  induction shelf with
  | nil => simp [put]
  | cons first rest ih =>
      obtain ⟨hfirst, hrest⟩ := List.nodup_cons.mp h
      rw [put]
      split
      · rename_i hsame
        have hplace := Identity.sameKey_iff.mp hsame
        -- The first definition was the only one in the place of the new one.
        have hkept : ∀ kept ∈ rest, kept.identity.place ≠ entity.identity.place := by
          intro kept hkept heq
          exact hfirst (List.mem_map.mpr ⟨kept, hkept, heq.trans hplace.symm⟩)
        grind
      · rename_i hother
        rw [Identity.sameKey_iff] at hother
        rw [List.mem_cons, ih hrest]
        grind

/-- **An addition to an ordered map gives an ordered map.** -/
theorem MapOf.put (h : MapOf shelf added) (entity : Stored α) :
    MapOf (shelf.put entity) (added ++ [entity]) where
  distinct := nodup_places_put h.distinct
  order := by
    have htaken : entity.identity.place ∈ shelf.places ↔
        entity.identity.place ∈ places added := by
      rw [h.order, List.mem_eraseDups]
    rw [places_put, places_concat, List.eraseDups_append, ← h.order]
    by_cases hnew : entity.identity.place ∈ places added
    · rw [if_pos (htaken.mpr hnew)]
      simp [List.removeAll, hnew]
    · rw [if_neg (mt htaken.mp hnew)]
      simp [List.removeAll, hnew, List.eraseDups_cons]
  latest other := by
    rw [mem_put h.distinct, h.latest, Stored.isLatest_concat]

/-! Of a history of several kinds, a shelf takes one. -/

section Kinds

variable {β : Type} {kind? : β → Option (Stored α)} {history : List β} {addition : β}

theorem MapOf.concat_of_some (h : MapOf shelf (history.filterMap kind?))
    (hown : kind? addition = some entity) :
    MapOf (shelf.put entity) ((history ++ [addition]).filterMap kind?) := by
  rw [List.filterMap_append, List.filterMap_cons_some hown, List.filterMap_nil]
  exact h.put entity

theorem MapOf.concat_of_none (h : MapOf shelf (history.filterMap kind?))
    (hother : kind? addition = none) :
    MapOf shelf ((history ++ [addition]).filterMap kind?) := by
  rw [List.filterMap_append, List.filterMap_cons_none hother, List.filterMap_nil,
    List.append_nil]
  exact h

end Kinds

end Shelf

end Shelves

/-! ## Additions -/

namespace Store

namespace Addition

/-- The section that is added, if it is one. -/
def section? : Addition → Option Section
  | ofSection entity => some entity
  | _ => none

/-- The separator set that is added, if it is one. -/
def separatorSet? : Addition → Option SeparatorSet
  | ofSeparatorSet entity => some entity
  | _ => none

/-- The data type that is added, if it is one. -/
def dataType? : Addition → Option DataType
  | ofDataType entity => some entity
  | _ => none

end Addition

/-- Every kind of definitions is the ordered map of what was added. -/
structure MapOf (store : Store) (additions : List Addition) : Prop where
  sections : Shelf.MapOf store.sections (additions.filterMap Addition.section?)
  separatorSets : Shelf.MapOf store.separatorSets (additions.filterMap Addition.separatorSet?)
  dataTypes : Shelf.MapOf store.dataTypes (additions.filterMap Addition.dataType?)

variable {store : Store} {additions : List Addition}

theorem mapOf_empty (current : Option String) : MapOf { current := current } [] :=
  ⟨Shelf.mapOf_nil, Shelf.mapOf_nil, Shelf.mapOf_nil⟩

/-- **An addition of any kind keeps a store an ordered map.** -/
theorem MapOf.add (h : store.MapOf additions) (addition : Addition) :
    (store.add addition).MapOf (additions ++ [addition]) := by
  cases addition with
  | ofSection entity =>
      exact
        { sections := h.sections.concat_of_some rfl
          separatorSets := h.separatorSets.concat_of_none rfl
          dataTypes := h.dataTypes.concat_of_none rfl }
  | ofSeparatorSet entity =>
      exact
        { sections := h.sections.concat_of_none rfl
          separatorSets := h.separatorSets.concat_of_some rfl
          dataTypes := h.dataTypes.concat_of_none rfl }
  | ofDataType entity =>
      exact
        { sections := h.sections.concat_of_none rfl
          separatorSets := h.separatorSets.concat_of_none rfl
          dataTypes := h.dataTypes.concat_of_some rfl }

theorem MapOf.foldl_add (h : store.MapOf additions) (more : List Addition) :
    (more.foldl Store.add store).MapOf (additions ++ more) := by
  induction more generalizing store additions with
  | nil => simpa using h
  | cons first rest ih => simpa using ih (h.add first)

/-- **A store that was filled by additions is the ordered map of them.** -/
theorem ofAdditions_mapOf (current : Option String) (additions : List Addition) :
    (ofAdditions current additions).MapOf additions :=
  (mapOf_empty current).foldl_add additions

end Store

/-! ## Documents -/

/-- A document that is to be added, and how many ids were given out before it.  Ids are given
out elsewhere, too, so that number may be any. -/
inductive Submission where
  | ofSection (document : Value) (given : Supply)
  | ofSeparatorSet (document : Value) (given : Supply)
  | ofDataType (document : Value) (given : Supply)

namespace Submission

/-- The document has faults. -/
def IsRejected : Submission → Prop
  | ofSection document given => ∃ faults, (readSection document given).1 = .faulty faults
  | ofSeparatorSet document given =>
      ∃ faults, (readSeparatorSet document given).1 = .faulty faults
  | ofDataType document given => ∃ faults, (readDataType document given).1 = .faulty faults

/-- The definition that is added, unless the document is rejected. -/
def addition? : Submission → Option Store.Addition
  | ofSection document given =>
      (readSection document given).1.toExcept.toOption.map .ofSection
  | ofSeparatorSet document given =>
      (readSeparatorSet document given).1.toExcept.toOption.map .ofSeparatorSet
  | ofDataType document given =>
      (readDataType document given).1.toExcept.toOption.map .ofDataType

theorem addition?_of_isRejected {submission : Submission} (h : submission.IsRejected) :
    submission.addition? = none := by
  cases submission with
  | ofSection _ _ | ofSeparatorSet _ _ | ofDataType _ _ =>
      obtain ⟨faults, hfaults⟩ := h
      rw [addition?, hfaults]
      rfl

end Submission

namespace Store

/-- A store after a document was added, or rejected. -/
def after (store : Store) : Submission → Store
  | .ofSection document given => (store.submitSection document given).2.1
  | .ofSeparatorSet document given => (store.submitSeparatorSet document given).2.1
  | .ofDataType document given => (store.submitDataType document given).2.1

/-- The store that documents lead to, from an empty one with a current namespace. -/
def ofSubmissions (current : Option String) (history : List Submission) : Store :=
  history.foldl after { current := current }

/-- What is read is added, and otherwise the store stays as it is. -/
theorem store_submit {α : Type} (read : Supplied α) (add : Store → α → Store) (store : Store)
    (document : Value) (given : Supply) :
    (submit read add store document given).2.1 =
      (read document given).1.toExcept.toOption.elim store (add store) := by
  unfold submit
  rcases read document given with ⟨entity | faults, given⟩
  · rfl
  · rfl

theorem after_eq_add (store : Store) (submission : Submission) :
    store.after submission = submission.addition?.elim store store.add := by
  cases submission with
  | ofSection _ _ | ofSeparatorSet _ _ | ofDataType _ _ =>
      refine (store_submit _ _ _ _ _).trans ?_
      rw [Submission.addition?, Option.elim_map]
      rfl

/-- Rejected documents leave no trace. -/
theorem ofSubmissions_eq_ofAdditions (current : Option String) (history : List Submission) :
    ofSubmissions current history =
      ofAdditions current (history.filterMap Submission.addition?) := by
  unfold ofSubmissions ofAdditions
  generalize ({ current := current } : Store) = store
  induction history generalizing store with
  | nil => rfl
  | cons first rest ih =>
      rw [List.foldl_cons, ih, after_eq_add]
      cases hread : first.addition? with
      | none => rw [List.filterMap_cons_none hread, Option.elim_none]
      | some addition =>
          rw [List.filterMap_cons_some hread, Option.elim_some, List.foldl_cons]

end Store

/-! ## Lookups with a namespace -/

/-- A definition is in a namespace, and a text is its id or its name, if it has one. -/
def Identity.AnswersTo (identity : Identity) (scope key : String) : Prop :=
  identity.scope = scope ∧
    (identity.id = key ∨ identity.name ≠ "" ∧ identity.name = key)

instance (identity : Identity) (scope key : String) : Decidable (identity.AnswersTo scope key) :=
  inferInstanceAs (Decidable (_ ∧ _))

theorem Shelf.findIn?_eq_find? {α : Type} (shelf : Shelf α) (scope key : String) :
    findIn? shelf scope key = shelf.find? (·.identity.AnswersTo scope key) := by
  refine List.find?_congr fun entity _ => ?_
  rw [Bool.eq_iff_iff, decide_eq_true_eq, Identity.AnswersTo]
  simp [Identity.matchesKey]

theorem splitScopedId_of_notMem {scope : String} (h : ':' ∉ scope.toList) (key : String) :
    splitScopedId (scope ++ ":" ++ key) = (some scope, key) :=
  @splitScopedId_scopedId { id := key, scope := scope } h

theorem Shelf.lookup?_of_notMem {α : Type} (shelf : Shelf α) {scope : String}
    (h : ':' ∉ scope.toList) (key : String) :
    lookup? shelf (scope ++ ":" ++ key) = shelf.find? (·.identity.AnswersTo scope key) := by
  rw [← findIn?_eq_find?, lookup?, splitScopedId_of_notMem h]

/-- **A store is a map in insertion order.**  For every history of documents, good ones and
faulty ones, of sections, separator sets and data types in any order:

* of each kind, no two definitions are in the same place, the places stand in the order in
  which they were first taken, and each holds what was added last in it;
* a document that is rejected leaves the store as it is, and so every lookup;
* a lookup with a namespace finds the first definition, in this order, that is of the namespace
  and has the rest of the key for its id or its name. -/
theorem ofSubmissions_orderedMap (current : Option String) (history : List Submission) :
    let store := Store.ofSubmissions current history
    store.MapOf (history.filterMap Submission.addition?) ∧
    (∀ submission : Submission, submission.IsRejected → store.after submission = store) ∧
    ∀ scope key, ':' ∉ scope.toList →
      store.section? (scope ++ ":" ++ key) =
        store.sections.find? (·.identity.AnswersTo scope key) ∧
      store.separatorSet? (scope ++ ":" ++ key) =
        store.separatorSets.find? (·.identity.AnswersTo scope key) ∧
      store.dataType? (scope ++ ":" ++ key) =
        store.dataTypes.find? (·.identity.AnswersTo scope key) := by
  intro store
  refine ⟨?_, ?_, ?_⟩
  · have hmap := Store.ofAdditions_mapOf current (history.filterMap Submission.addition?)
    rwa [← Store.ofSubmissions_eq_ofAdditions] at hmap
  · intro submission hrejected
    rw [Store.after_eq_add, Submission.addition?_of_isRejected hrejected, Option.elim_none]
  · intro scope key hscope
    refine ⟨?_, Shelf.lookup?_of_notMem _ hscope key, Shelf.lookup?_of_notMem _ hscope key⟩
    rw [Store.section?_of_scoped (splitScopedId_of_notMem hscope key), Shelf.findIn?_eq_find?]

/-- A section of the namespace `mail`. -/
def letterPart (id name text : String) : Section :=
  ⟨{ id := id, scope := "mail", name := name }, { content := .text text }⟩

/-- The document of such a section. -/
def letterPartDocument (id : Value) (name text : String) : Value :=
  .object [("id", id), ("namespace", .str "mail"), ("name", .str name),
    ("content", .object [("type", .str "text"), ("value", .str text)])]

/-- A greeting, a closing, and the greeting again, with its id in another shape.  The second
greeting takes the place of the first one, and a greeting without content changes nothing. -/
theorem ofSubmissions_orderedMap_letter :
    let record : Value := .object
      [("tb", .str "section"), ("id", .object [("String", .str "greeting")])]
    let history : List Submission :=
      [.ofSection (letterPartDocument (.str "greeting") "" "Hello") 0,
        .ofSection (letterPartDocument (.str "closing") "" "Yours") 0,
        .ofSection (letterPartDocument record "opening" "Dear Ada") 0]
    let faulty : Submission := .ofSection (.object [("id", record), ("namespace", .str "mail")]) 0
    let store := Store.ofSubmissions none history
    let greeting := letterPart "greeting" "opening" "Dear Ada"
    store.MapOf (history.filterMap Submission.addition?) ∧
      store.sections.places = [("mail", "greeting"), ("mail", "closing")] ∧
      greeting ∈ store.sections ∧ faulty.IsRejected ∧ store.after faulty = store ∧
      ':' ∉ "mail".toList ∧ store.section? "mail:opening" = some greeting := by
  intro record history faulty store greeting
  obtain ⟨hmap, hrejected, hlookup⟩ := ofSubmissions_orderedMap none history
  have hlatest : greeting.IsLatest
      ((history.filterMap Submission.addition?).filterMap Store.Addition.section?) :=
    ⟨[letterPart "greeting" "" "Hello", letterPart "closing" "" "Yours"], [], rfl,
      List.not_mem_nil⟩
  have hfaulty : faulty.IsRejected := ⟨_, rfl⟩
  have hscope : ':' ∉ "mail".toList := by decide
  refine ⟨hmap, ?_, (hmap.sections.latest greeting).mpr hlatest, hfaulty,
    hrejected faulty hfaulty, hscope, (hlookup "mail" "opening" hscope).1.trans rfl⟩
  exact hmap.sections.order.trans (by decide +kernel)

end PromptTree
