import Mathlib.Data.List.Find
import PromptTree.Proofs.Store.Additions

/-!
# Looking up a section by its own key

The key of a section is its namespace and its id, and a lookup by a key with a namespace
takes the first section of that namespace whose id **or name** is the rest of the key.  So a
section answers to its own key unless another one answers before it: one of its namespace
that was added earlier and has the id of the section for its name (`section?_scopedId`).
Nothing else stands in the way, neither in other namespaces nor behind the section.

## Main Definitions

* `Store.exportedSection?` — the second search of a lookup without a namespace.
* `Identity.IsNamesake` — a definition that has the id of another one for its name.
-/

namespace PromptTree

/-! ## The searches of a lookup -/

namespace Store

variable {store : Store} {key scope rest : String}

/-- A key with a namespace is looked for in this namespace. -/
theorem section?_of_scoped (h : splitScopedId key = (some scope, rest)) :
    store.section? key = Shelf.findIn? store.sections scope rest := by
  simp only [section?, h]

/-- The first section that other namespaces may refer to and that matches a key. -/
def exportedSection? (store : Store) (key : String) : Option Section :=
  store.sections.find? fun entity => entity.body.exportable && entity.identity.matchesKey key

/-- A key without a namespace is looked for in the current one, and then among the sections
that other namespaces may refer to. -/
theorem section?_of_unscoped (h : (splitScopedId key).1 = none) :
    store.section? key = (store.currentSection? key).or (store.exportedSection? key) := by
  rcases hsplit : splitScopedId key with ⟨scope, rest⟩
  rw [hsplit] at h
  obtain rfl : scope = none := h
  simp only [section?, hsplit, Option.orElse_eq_or]
  rfl

/-- The search in the current namespace, if there is one. -/
theorem currentSection?_of_current (h : store.current = some scope) (hne : scope ≠ "") :
    store.currentSection? key = Shelf.findIn? store.sections scope key := by
  have hempty : scope.isEmpty = false := by simpa using hne
  simp [currentSection?, h, hempty]

end Store

/-! ## Namesakes -/

namespace Identity

/-- The definition is in the namespace of another one, and has its id for a name. -/
def IsNamesake (other identity : Identity) : Prop :=
  other.scope = identity.scope ∧ other.name ≠ "" ∧ other.name = identity.id

instance (other identity : Identity) : Decidable (other.IsNamesake identity) :=
  inferInstanceAs (Decidable (_ ∧ _))

/-- In another place of the namespace, only namesakes match the id of a definition. -/
theorem matches_iff_isNamesake {other identity : Identity} (h : other.place ≠ identity.place) :
    (other.scope == identity.scope && other.matchesKey identity.id) =
      decide (other.IsNamesake identity) := by
  rw [Bool.eq_iff_iff, decide_eq_true_eq, IsNamesake, Bool.and_eq_true, beq_iff_eq]
  refine and_congr_right fun hscope => ?_
  have hid : other.id ≠ identity.id := by
    refine fun hid => h ?_
    rw [place, place, hscope, hid]
  simp [matchesKey, hid]

end Identity

namespace Shelf

variable {α : Type} {before after : List (Stored α)} {entity : Stored α}

/-- What stands before a definition is in other places. -/
theorem place_ne_of_before (h : (places (before ++ entity :: after)).Nodup) :
    ∀ other ∈ before, other.identity.place ≠ entity.identity.place := by
  intro other hother
  rw [places, List.map_append, List.nodup_append] at h
  exact h.2.2 _ (List.mem_map_of_mem hother) _ (List.mem_map_of_mem List.mem_cons_self)

/-- **The search for a definition by its own namespace and id** finds the first namesake
before it, and itself if there is none. -/
theorem findIn?_own (h : (places (before ++ entity :: after)).Nodup) :
    findIn? (before ++ entity :: after) entity.identity.scope entity.identity.id =
      some ((before.find? fun other => other.identity.IsNamesake entity.identity).getD
        entity) := by
  have hbefore : (before.find? fun other =>
      other.identity.scope == entity.identity.scope &&
        other.identity.matchesKey entity.identity.id) =
          before.find? fun other => other.identity.IsNamesake entity.identity :=
    List.find?_congr fun other hother =>
      Identity.matches_iff_isNamesake (place_ne_of_before h other hother)
  -- Behind the namesakes the search stops at the definition, so what comes after is not seen.
  rw [findIn?, List.find?_append, hbefore, List.find?_cons_of_pos]
  · exact Option.or_some ..
  · simp [Identity.matchesKey_id]

end Shelf

/-- **A section answers to its own key unless a namesake does.**  In every store that was
filled by additions, the lookup by the key of a section, whose namespace has no colon, finds
the first of its namesakes that stand before it, and the section itself exactly if there are
none. -/
theorem section?_scopedId {current : Option String} {additions : List Store.Addition}
    {before after : List Section} {entity : Section}
    (hlisted : (Store.ofAdditions current additions).sections = before ++ entity :: after)
    (hplain : entity.identity.HasPlainScope) :
    let found := (Store.ofAdditions current additions).section? entity.identity.scopedId
    found = some ((before.find? fun other => other.identity.IsNamesake entity.identity).getD
      entity) ∧
    (found = some entity ↔ ∀ other ∈ before, ¬other.identity.IsNamesake entity.identity) := by
  intro found
  have hplaces := (Store.ofAdditions_distinct current additions).sections
  rw [hlisted] at hplaces
  have hfound : found = some ((before.find? fun other =>
      other.identity.IsNamesake entity.identity).getD entity) := by
    rw [← Shelf.findIn?_own hplaces, ← hlisted]
    exact Store.section?_of_scoped (splitScopedId_scopedId hplain)
  refine ⟨hfound, ?_⟩
  rw [hfound, Option.some_inj]
  cases hnamesake : before.find? fun other => other.identity.IsNamesake entity.identity with
  | none => simpa using hnamesake
  | some other =>
      have hmem := List.mem_of_find?_eq_some hnamesake
      have hsame : other.identity.IsNamesake entity.identity := by
        simpa using List.find?_some hnamesake
      have hne : other ≠ entity := by
        rintro rfl
        exact Shelf.place_ne_of_before hplaces other hmem rfl
      exact iff_of_false hne fun hnone => hnone other hmem hsame

/-- A closing with the name "closing", which is the id of the next one. -/
def regards : Section :=
  ⟨{ id := "regards", scope := "mail", name := "closing" }, { content := .text "Regards" }⟩

/-- A closing with the id "closing". -/
def closing : Section :=
  ⟨{ id := "closing", scope := "mail" }, { content := .text "Bye" }⟩

/-- In the order in which the closings are added here, both answer to their own keys. -/
theorem section?_scopedId_closing :
    let store := Store.ofAdditions none [.ofSection closing, .ofSection regards]
    store.sections = [closing] ++ regards :: [] ∧ regards.identity.HasPlainScope ∧
      store.section? "mail:regards" = some regards ∧
      store.sections = [] ++ closing :: [regards] ∧ closing.identity.HasPlainScope ∧
      store.section? "mail:closing" = some closing := by
  intro store
  have hregards : store.sections = [closing] ++ regards :: [] := rfl
  have hclosing : store.sections = [] ++ closing :: [regards] := rfl
  have hplain : regards.identity.HasPlainScope := by decide
  have hplain' : closing.identity.HasPlainScope := by decide
  refine ⟨hregards, hplain, ?_, hclosing, hplain', ?_⟩
  · refine (section?_scopedId hregards hplain).2.mpr ?_
    exact List.forall_mem_singleton.mpr (by decide)
  · exact (section?_scopedId hclosing hplain').2.mpr nofun

/-- Not every section answers to its own key.  In the other order, the closing that is only
named "closing" answers to the key of the one that has this id. -/
theorem section?_scopedId_namesake :
    let store := Store.ofAdditions none [.ofSection regards, .ofSection closing]
    closing ∈ store.sections ∧ closing.identity.scopedId = "mail:closing" ∧
      store.section? "mail:closing" = some regards ∧ regards ≠ closing ∧
      ¬∀ current additions entity, entity ∈ (Store.ofAdditions current additions).sections →
        (Store.ofAdditions current additions).section? entity.identity.scopedId =
          some entity := by
  intro store
  have hmem : closing ∈ store.sections := List.mem_cons_of_mem _ List.mem_cons_self
  have hfound : store.section? "mail:closing" = some regards := rfl
  have hne : regards ≠ closing := by
    intro heq
    exact absurd (congrArg (·.identity.id) heq) (by decide)
  refine ⟨hmem, by decide, hfound, hne, fun hall => hne ?_⟩
  have hself : store.section? "mail:closing" = some closing :=
    hall none [.ofSection regards, .ofSection closing] closing hmem
  exact Option.some_inj.mp (hfound.symm.trans hself)

end PromptTree
