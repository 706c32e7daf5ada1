import PromptTree.Schema.Fault

/-!
# Values at places of documents

A place in a document is a list of steps: into fields of objects and items of lists.  This
module says what is at a place, and what the document is like with another value there.

## Main Definitions

* `Value.at?` — the value at a place.
* `Value.withAt` — the document with another value at a place.
-/

namespace PromptTree

open Schema

/-! ## Fields that were set -/

namespace Entries

variable (key other : String) (value : Value)

/-- A field has the value that it was set to, and all others have theirs. -/
theorem lookup_put (entries : Entries) :
    (put key value entries).lookup other =
      if other = key then some value else entries.lookup other := by
  induction entries with
  | nil =>
      by_cases h : other = key
      · simp [put, h]
      · simp [put, List.lookup_cons, h, beq_false_of_ne h]
  | cons entry rest ih =>
      obtain ⟨name, v⟩ := entry
      by_cases hname : name = key
      · subst hname
        by_cases h : other = name
        · simp [put, h]
        · simp [put, List.lookup_cons, h, beq_false_of_ne h]
      · by_cases h : other = name
        · subst h
          simp [put, hname]
        · simp [put, List.lookup_cons, hname, beq_false_of_ne h, ih]

theorem getD_put (entries : Entries) :
    getD (put key value entries) other = if other = key then value else getD entries other := by
  unfold getD
  rw [lookup_put]
  split
  · rfl
  · rfl

theorem getD_of_lookup {entries : Entries} {name : String} {v : Value}
    (h : entries.lookup name = some v) : getD entries name = v := by
  rw [getD, h, Option.getD_some]

/-- A field that is set to the value that it has. -/
theorem put_of_lookup {entries : Entries} {name : String} {v : Value}
    (h : entries.lookup name = some v) : put name v entries = entries := by
  induction entries with
  | nil => cases h
  | cons entry rest ih =>
      obtain ⟨first, w⟩ := entry
      by_cases hname : first = name
      · subst hname
        simp only [List.lookup_cons, BEq.rfl, Option.some.injEq] at h
        rw [put, if_pos rfl, h]
      · have hrest : rest.lookup name = some v := by
          simpa [List.lookup_cons, beq_false_of_ne (Ne.symm hname)] using h
        rw [put, if_neg hname, ih hrest]

end Entries

/-! ## Places -/

namespace Value

/-- The value at a place of a document. -/
def at? : Value → List Step → Option Value
  | v, [] => some v
  | .object entries, .field name :: rest => (entries.lookup name).bind (at? · rest)
  | .list items, .item index :: rest => items[index]?.bind (at? · rest)
  | _, _ => none

/-- The document with another value at a place. -/
def withAt : Value → List Step → Value → Value
  | _, [], new => new
  | .object entries, .field name :: rest, new =>
    .object (Entries.put name (withAt (Entries.getD entries name) rest new) entries)
  | .list items, .item index :: rest, new => .list (items.modify index (withAt · rest new))
  | v, _, _ => v

section Places

variable {v part : Value} {steps : List Step}

theorem at?_nil (v : Value) : v.at? [] = some v := by
  cases v with | _ => rfl

theorem withAt_nil (v new : Value) : v.withAt [] new = new := by
  cases v with | _ => rfl

/-- Something is at a place in a field. -/
theorem at?_field {name : String} {rest : List Step} :
    v.at? (.field name :: rest) = some part ↔
      ∃ entries u, v = .object entries ∧ entries.lookup name = some u ∧
        u.at? rest = some part := by
  cases v <;> simp [at?, Option.bind_eq_some_iff]

/-- Something is at a place in an item. -/
theorem at?_item {index : Nat} {rest : List Step} :
    v.at? (.item index :: rest) = some part ↔
      ∃ items u, v = .list items ∧ items[index]? = some u ∧ u.at? rest = some part := by
  cases v <;> simp [at?, Option.bind_eq_some_iff]

theorem withAt_field {name : String} {entries : Entries} {u : Value} (rest : List Step)
    (new : Value) (h : entries.lookup name = some u) :
    (Value.object entries).withAt (.field name :: rest) new =
      .object (Entries.put name (u.withAt rest new) entries) := by
  rw [withAt, Entries.getD_of_lookup h]

theorem withAt_item {index : Nat} {items : List Value} {u : Value} (rest : List Step)
    (new : Value) (h : items[index]? = some u) :
    (Value.list items).withAt (.item index :: rest) new =
      .list (items.set index (u.withAt rest new)) := by
  rw [withAt, List.modify_eq_set, h]
  rfl

/-- What is at a place below another one. -/
theorem at?_append (more : List Step) (h : v.at? steps = some part) :
    v.at? (steps ++ more) = part.at? more := by
  induction steps generalizing v with
  | nil =>
      rw [at?_nil] at h
      rw [List.nil_append, Option.some_inj.mp h]
  | cons step rest ih =>
      cases step with
      | field name =>
          obtain ⟨entries, u, rfl, hu, hpart⟩ := at?_field.mp h
          rw [List.cons_append, at?, hu, Option.bind_some, ih hpart]
      | item index =>
          obtain ⟨items, u, rfl, hu, hpart⟩ := at?_item.mp h
          rw [List.cons_append, at?, hu, Option.bind_some, ih hpart]

/-- What is already at a place may be put there. -/
theorem withAt_self (h : v.at? steps = some part) : v.withAt steps part = v := by
  induction steps generalizing v with
  | nil =>
      rw [at?_nil] at h
      rw [withAt_nil, Option.some_inj.mp h]
  | cons step rest ih =>
      cases step with
      | field name =>
          obtain ⟨entries, u, rfl, hu, hpart⟩ := at?_field.mp h
          rw [withAt_field rest part hu, ih hpart, Entries.put_of_lookup hu]
      | item index =>
          obtain ⟨items, u, rfl, hu, hpart⟩ := at?_item.mp h
          obtain ⟨hindex, rfl⟩ := List.getElem?_eq_some_iff.mp hu
          rw [withAt_item rest part hu, ih hpart, List.set_getElem_self]

/-- A place below another one. -/
theorem withAt_append (more : List Step) (new : Value) (h : v.at? steps = some part) :
    v.withAt (steps ++ more) new = v.withAt steps (part.withAt more new) := by
  induction steps generalizing v with
  | nil =>
      rw [at?_nil] at h
      rw [List.nil_append, withAt_nil, Option.some_inj.mp h]
  | cons step rest ih =>
      cases step with
      | field name =>
          obtain ⟨entries, u, rfl, hu, hpart⟩ := at?_field.mp h
          rw [List.cons_append, withAt_field _ _ hu, withAt_field _ _ hu, ih hpart]
      | item index =>
          obtain ⟨items, u, rfl, hu, hpart⟩ := at?_item.mp h
          rw [List.cons_append, withAt_item _ _ hu, withAt_item _ _ hu, ih hpart]

/-- A value that is there stays there, whatever is put into it. -/
theorem isNull_withAt {new : Value} (hnew : new.isNull = false) (h : v.isNull = false) :
    (v.withAt steps new).isNull = false := by
  cases steps with
  | nil => rwa [withAt_nil]
  | cons step rest =>
      cases step with
      | _ =>
          cases v with
          | null => cases h
          | _ => rfl

end Places

end Value

end PromptTree
