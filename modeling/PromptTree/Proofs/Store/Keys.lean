import Mathlib.Data.Prod.Basic
import PromptTree.Store.Entity

/-!
# Keys of definitions

A definition is known by its namespace and its id, and its key is a text made of both.
The key is taken apart at its first colon, so it gives back what it was made of exactly as
long as the namespace has no colon (`splitScopedId_scopedId`).  **Keys of namespaces without
colons stand for one namespace and one id only** (`sameKey_of_scopedId_eq`); with a colon in
a namespace two definitions may share a key.

## Main Definitions

* `Identity.place` — the namespace and the id of a definition.
* `Identity.HasPlainScope` — the namespace has no colon.
-/

namespace PromptTree

/-! ## Cutting at the first separator -/

namespace Text

theorem cutChars_append {separator : Char} {before : List Char} (h : separator ∉ before)
    (after : List Char) :
    cutChars separator (before ++ separator :: after) = (before, some after) := by
  induction before with
  | nil => simp [cutChars]
  | cons c rest ih =>
      rw [List.mem_cons, not_or] at h
      simp [cutChars, Ne.symm h.1, ih h.2]

end Text

/-! ## Identities -/

namespace Identity

/-- The namespace and the id. -/
def place (identity : Identity) : String × String :=
  (identity.scope, identity.id)

/-- The namespace has no colon. -/
def HasPlainScope (identity : Identity) : Prop :=
  ':' ∉ identity.scope.toList

instance (identity : Identity) : Decidable identity.HasPlainScope :=
  inferInstanceAs (Decidable (':' ∉ identity.scope.toList))

theorem sameKey_iff {a b : Identity} : a.sameKey b = true ↔ a.place = b.place := by
  rw [place, place, Prod.mk_inj, and_comm, sameKey, Bool.and_eq_true, beq_iff_eq, beq_iff_eq]

/-- The key is made of the namespace and the id. -/
theorem scopedId_eq_of_place_eq {a b : Identity} (h : a.place = b.place) :
    a.scopedId = b.scopedId := by
  obtain ⟨hscope, hid⟩ := Prod.mk_inj.mp h
  rw [scopedId, scopedId, hscope, hid]

/-- A definition matches its own id. -/
theorem matchesKey_id (identity : Identity) : identity.matchesKey identity.id = true := by
  simp [matchesKey]

theorem toList_scopedId (identity : Identity) :
    identity.scopedId.toList = identity.scope.toList ++ ':' :: identity.id.toList := by
  simp [scopedId]

end Identity

/-- **A key gives back the namespace and the id it was made of**, if the namespace has no
colon. -/
theorem splitScopedId_scopedId {identity : Identity} (h : identity.HasPlainScope) :
    splitScopedId identity.scopedId = (some identity.scope, identity.id) := by
  unfold splitScopedId Text.cut
  rw [identity.toList_scopedId, Text.cutChars_append h]
  simp

/-- **Keys of plain namespaces are unique.** -/
theorem sameKey_of_scopedId_eq {a b : Identity} (ha : a.HasPlainScope) (hb : b.HasPlainScope)
    (h : a.scopedId = b.scopedId) : a.sameKey b = true := by
  have hsplit := splitScopedId_scopedId ha
  rw [h, splitScopedId_scopedId hb, Prod.mk_inj, Option.some_inj] at hsplit
  rw [Identity.sameKey_iff, Identity.place, Identity.place, hsplit.1, hsplit.2]

end PromptTree
