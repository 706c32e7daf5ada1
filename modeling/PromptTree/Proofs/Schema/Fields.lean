import PromptTree.Proofs.Schema.Writing
import PromptTree.Proofs.Value.Places

/-!
# Reading what was put there

A record that could be read, of which one field is then set to something else: all other
fields are read as before, and the field as what stands there now.  The same goes for a list
of which one item is replaced, which is read item by item (`list_eq_ok`).
-/

namespace PromptTree.Schema

namespace Checked

variable {α β : Type} {a : Checked α} {x : α}

theorem map_ok (f : α → β) (h : a = .ok x) : f <$> a = Checked.ok (f x) := by
  rw [h]
  rfl

theorem seq_ok {f : Checked (α → β)} {g : α → β} (hf : f = .ok g) (h : a = .ok x) :
    f <*> a = Checked.ok (g x) := by
  rw [hf, h]
  rfl

end Checked

variable {α : Type} {read : Reader α} {a : α} {v new : Value}

/-! ## Fields -/

section Fields

variable {entries : Entries} {name other : String} {fallback : α}

/-- A field that has to be there, and was read. -/
theorem required_eq_ok :
    required entries name read = .ok a ↔ ∃ v, entries.lookup name = some v ∧ read v = .ok a := by
  rw [required, requiredAs, entry?, Entries.get?]
  cases entries.lookup name with
  | none =>
      constructor
      · intro h
        cases h
      · rintro ⟨v, hv, -⟩
        cases hv
  | some v =>
      rw [Checked.below_eq_ok]
      constructor
      · intro h
        exact ⟨v, rfl, h⟩
      · rintro ⟨_, hv, h⟩
        cases hv
        exact h

/-- A field with a value for when it is missing, that is there. -/
theorem withDefault_eq_ok_of_lookup (h : entries.lookup name = some v) :
    withDefault entries name fallback read = .ok a ↔ read v = .ok a := by
  rw [withDefault, withDefaultAs, entry?, Entries.get?, h]
  exact Checked.below_eq_ok

/-- A field that may be missing, and is there. -/
theorem cases_of_optional {value : Option α} (h : entries.lookup name = some v)
    (hread : optional entries name read = .ok value) :
    v.isNull = true ∧ value = none ∨ ∃ a, read v = .ok a ∧ value = some a := by
  rw [optional, withDefault_eq_ok_of_lookup h, nullable] at hread
  split at hread
  · rename_i hnull
    cases hread
    exact .inl ⟨hnull, rfl⟩
  · obtain ⟨a, ha, rfl⟩ := Checked.map_eq_ok.mp hread
    exact .inr ⟨a, ha, rfl⟩

/-- A field is read alike if the value in it is. -/
theorem required_congr {read' : Reader α}
    (h : ∀ v : Value, v.depth ≤ Value.depthOfEntries entries → read v = read' v) :
    required entries name read = required entries name read' := by
  rw [required, required, requiredAs, requiredAs]
  cases hentry : entry? entries [name] with
  | none => rfl
  | some entry => simp only [h entry.2 (depth_le_of_entry hentry)]

/-! ### Another field was put there -/

theorem withDefault_put_of_ne (h : other ≠ name) :
    withDefault (Entries.put name new entries) other fallback read =
      withDefault entries other fallback read := by
  rw [withDefault, withDefaultAs, entry?, Entries.get?, Entries.lookup_put, if_neg h]
  rfl

theorem optional_put_of_ne (h : other ≠ name) :
    optional (Entries.put name new entries) other read = optional entries other read :=
  withDefault_put_of_ne h

theorem required_put_of_ne (h : other ≠ name) (hread : required entries other read = .ok a) :
    required (Entries.put name new entries) other read = .ok a := by
  obtain ⟨v, hlookup, hv⟩ := required_eq_ok.mp hread
  refine required_of_lookup other ?_ hv
  rw [Entries.lookup_put, if_neg h, hlookup]

/-! ### The field was put there -/

theorem lookup_put_self (name : String) (new : Value) (entries : Entries) :
    (Entries.put name new entries).lookup name = some new := by
  rw [Entries.lookup_put, if_pos rfl]

theorem withDefault_put (h : read new = .ok a) :
    withDefault (Entries.put name new entries) name fallback read = .ok a :=
  withDefault_of_lookup name (lookup_put_self name new entries) h

theorem required_put (h : read new = .ok a) :
    required (Entries.put name new entries) name read = .ok a :=
  required_of_lookup name (lookup_put_self name new entries) h

theorem optional_put (h : read new = .ok a) (hnew : new.isNull = false) :
    optional (Entries.put name new entries) name read = .ok (some a) := by
  refine withDefault_put ?_
  rw [nullable, hnew, h]
  rfl

end Fields

/-! ## Lists -/

section Lists

variable {items : List Value} {as : List α} {index : Nat}

/-- A list is read item by item. -/
theorem list_eq_ok : list read (.list items) = .ok as ↔ items.map read = as.map .ok := by
  have hitems : ∀ (items : List Value) (as : List α) (start : Nat),
      Checked.sequence (itemsFrom read start items) = .ok as ↔ items.map read = as.map .ok := by
    intro items
    induction items with
    | nil =>
        intro as start
        cases as with
        | nil => exact ⟨fun _ => rfl, fun _ => rfl⟩
        | cons _ _ => exact ⟨nofun, nofun⟩
    | cons first rest ih =>
        intro as start
        rw [itemsFrom, Checked.sequence_cons_eq_ok]
        simp only [Checked.below_eq_ok, ih]
        cases as with
        | nil => simp
        | cons a as => simp
  exact hitems items as 0

theorem list_getElem? (h : list read (.list items) = .ok as) (hv : items[index]? = some v) :
    ∃ a, as[index]? = some a ∧ read v = .ok a := by
  have hitem : (items.map read)[index]? = some (read v) := by rw [List.getElem?_map, hv]; rfl
  rw [list_eq_ok.mp h, List.getElem?_map] at hitem
  obtain ⟨a, ha, hread⟩ := Option.map_eq_some_iff.mp hitem
  exact ⟨a, ha, hread.symm⟩

/-- A list of which one item was replaced. -/
theorem list_set (h : list read (.list items) = .ok as) (hnew : read new = .ok a) :
    list read (.list (items.set index new)) = .ok (as.set index a) := by
  rw [list_eq_ok, List.map_set, List.map_set, list_eq_ok.mp h, hnew]

end Lists

end PromptTree.Schema
