import PromptTree.Proofs.Schema.Reading
import PromptTree.Schema.Dump

/-!
# Reading what was written

What a reader finds in a record that was written from fields: a field that is there, a
field that was left out, a list item by item.  With these lemmas a type proves that its
documents are read as what they were written from, naming each field once.

The last part is about values of any shape.  **If their numbers are finite, they are written
as they are but for tuples, which are written as lists** (`portable_eq_withLists`).

## Main Definitions

* `Value.all` — what holds of a value and of all values in it.
* `Value.IsFinite`, `Value.IsTupleFree` — values with finite numbers only, and without tuples.
* `Value.withLists` — a value with lists in place of tuples.
-/

namespace PromptTree

namespace Value

mutual

/-- Whether something holds of a value and of all values in it. -/
def all (p : Value → Bool) : Value → Bool
  | .list items => p (.list items) && allItems p items
  | .tuple items => p (.tuple items) && allItems p items
  | .object entries => p (.object entries) && allEntries p entries
  | v => p v

/-- Whether something holds of items and of all values in them. -/
def allItems (p : Value → Bool) : List Value → Bool
  | [] => true
  | v :: rest => all p v && allItems p rest

/-- Whether something holds of the values of entries and of all values in them. -/
def allEntries (p : Value → Bool) : List (String × Value) → Bool
  | [] => true
  | (_, v) :: rest => all p v && allEntries p rest

end

/-- Whether a value is no number that is not finite. -/
def isFiniteNumber : Value → Bool
  | .float x =>
    match Numeral.decode x with
    | .finite _ => true
    | _ => false
  | _ => true

/-- Whether a value is a tuple. -/
def isTuple : Value → Bool
  | .tuple _ => true
  | _ => false

/-- All numbers in the value are finite. -/
def IsFinite (v : Value) : Prop :=
  v.all isFiniteNumber = true

/-- The value is no tuple, and there is none in it. -/
def IsTupleFree (v : Value) : Prop :=
  v.all (fun v => !v.isTuple) = true

mutual

/-- The value with lists in place of all tuples in it. -/
def withLists : Value → Value
  | .list items | .tuple items => .list (itemsWithLists items)
  | .object entries => .object (entriesWithLists entries)
  | v => v

/-- Items with lists in place of all tuples in them. -/
def itemsWithLists : List Value → List Value
  | [] => []
  | v :: rest => withLists v :: itemsWithLists rest

/-- Entries with lists in place of all tuples in them. -/
def entriesWithLists : List (String × Value) → List (String × Value)
  | [] => []
  | (key, v) :: rest => (key, withLists v) :: entriesWithLists rest

end

mutual

/-- Without tuples there is nothing to replace. -/
theorem withLists_eq_self : ∀ v : Value, v.IsTupleFree → v.withLists = v
  | .null, _ | .bool _, _ | .int _, _ | .float _, _ | .str _, _ => rfl
  | .list items, hfree => by
      simp only [IsTupleFree, all, Bool.and_eq_true] at hfree
      rw [withLists, itemsWithLists_eq_self items hfree.2]
  | .tuple items, hfree => by
      simp only [IsTupleFree, all, Bool.and_eq_true] at hfree
      cases hfree.1
  | .object entries, hfree => by
      simp only [IsTupleFree, all, Bool.and_eq_true] at hfree
      rw [withLists, entriesWithLists_eq_self entries hfree.2]

theorem itemsWithLists_eq_self : ∀ items : List Value,
    allItems (fun v => !v.isTuple) items = true → itemsWithLists items = items
  | [], _ => rfl
  | v :: rest, hfree => by
      simp only [allItems, Bool.and_eq_true] at hfree
      rw [itemsWithLists, withLists_eq_self v hfree.1, itemsWithLists_eq_self rest hfree.2]

theorem entriesWithLists_eq_self : ∀ entries : List (String × Value),
    allEntries (fun v => !v.isTuple) entries = true → entriesWithLists entries = entries
  | [], _ => rfl
  | (key, v) :: rest, hfree => by
      simp only [allEntries, Bool.and_eq_true] at hfree
      rw [entriesWithLists, withLists_eq_self v hfree.1, entriesWithLists_eq_self rest hfree.2]

end

end Value

namespace Schema

/-! ## Scalars -/

theorem string_str (s : String) : string (.str s) = .ok s := rfl

theorem boolean_bool (b : Bool) : boolean (.bool b) = .ok b := rfl

theorem integer_int (n : Int) : integer (.int n) = .ok n := rfl

theorem number_float (x : Float) : number (.float x) = .ok x := rfl

theorem atLeast_of_le {least n : Int} (h : least ≤ n) : atLeast least (.int n) = .ok n := by
  simp only [atLeast, integer, Checked.andThen, Int.not_lt.mpr h, if_false]

theorem orElse_of_faulty {α : Type} {first second : Reader α} {v : Value} {a : α}
    {faults : List Fault} (h : first v = .faulty faults) (hsecond : second v = .ok a) :
    orElse first second v = .ok a := by
  simp only [orElse, h, hsecond]

/-! ## Fields -/

section Fields

variable {α β : Type} {entries : Entries}

@[simp] theorem lookup_present_nil (name : String) : (present []).lookup name = none := rfl

/-- A field that was left out is where the next one of its name would be. -/
@[simp] theorem lookup_present_cons (name key : String) (value : Option Value)
    (rest : List (String × Option Value)) :
    (present ((key, value) :: rest)).lookup name =
      if name = key then value.or ((present rest).lookup name) else (present rest).lookup name := by
  cases value with
  | none => simp [present]
  | some v =>
      simp only [present, List.filterMap_cons, Option.map_some, List.lookup_cons, Option.some_or]
      by_cases hname : name = key
      · simp only [hname, BEq.rfl, if_true]
      · simp only [beq_false_of_ne hname, hname, if_false]

theorem required_of_lookup (name : String) {v : Value} {read : Reader α} {a : α}
    (h : entries.lookup name = some v) (hread : read v = .ok a) :
    required entries name read = .ok a := by
  simp only [required, requiredAs, entry?, Entries.get?, h]
  exact Checked.below_eq_ok.mpr hread

theorem withDefault_of_lookup (name : String) {v : Value} {read : Reader α} {fallback a : α}
    (h : entries.lookup name = some v) (hread : read v = .ok a) :
    withDefault entries name fallback read = .ok a := by
  simp only [withDefault, withDefaultAs, entry?, Entries.get?, h]
  exact Checked.below_eq_ok.mpr hread

theorem withDefault_of_missing (name : String) {read : Reader α} {fallback : α}
    (h : entries.lookup name = none) :
    withDefault entries name fallback read = .ok fallback := by
  simp only [withDefault, withDefaultAs, entry?, Entries.get?, h]

/-- A field with two names, written under the first, that may be left out. -/
theorem nullableAs_of_lookup (name other : String) {value : Option α} (write : α → Value)
    (f : α → β) {read : Reader β} (h : entries.lookup name = value.map write)
    (hother : entries.lookup other = none) (hnull : ∀ a, (write a).isNull = false)
    (hread : ∀ a ∈ value, read (write a) = .ok (f a)) :
    withDefaultAs entries [name, other] none (nullable read) = .ok (value.map f) := by
  cases value with
  | none => simp only [withDefaultAs, entry?, Entries.get?, h, hother, Option.map_none]
  | some a =>
      simp only [withDefaultAs, entry?, Entries.get?, h, Option.map_some, Checked.below_eq_ok,
        nullable, hnull, hread a rfl]
      rfl

/-- A field that may be left out. -/
theorem optional_of_lookup (name : String) {value : Option α} (write : α → Value)
    (f : α → β) {read : Reader β} (h : entries.lookup name = value.map write)
    (hnull : ∀ a, (write a).isNull = false)
    (hread : ∀ a ∈ value, read (write a) = .ok (f a)) :
    optional entries name read = .ok (value.map f) := by
  cases value with
  | none =>
      simp only [optional, withDefault, withDefaultAs, entry?, Entries.get?, h, Option.map_none]
  | some a =>
      refine withDefault_of_lookup name h ?_
      simp only [nullable, hnull, hread a rfl]
      rfl

/-- A field that may be left out, and is read as what it was written from. -/
theorem optional_self (name : String) (value : Option α) (write : α → Value) {read : Reader α}
    (h : entries.lookup name = value.map write) (hnull : ∀ a, (write a).isNull = false)
    (hread : ∀ a, read (write a) = .ok a) : optional entries name read = .ok value := by
  have hsame := optional_of_lookup name write id h hnull fun a _ => hread a
  rwa [Option.map_id] at hsame

/-- A text that may be left out. -/
theorem optional_string (name : String) (value : Option String)
    (h : entries.lookup name = value.map .str) :
    optional entries name string = .ok value :=
  optional_self name value .str h (fun _ => rfl) string_str

end Fields

/-! ## Lists -/

section Lists

variable {α β : Type}

theorem list_map (write : α → Value) (f : α → β) {read : Reader β} {items : List α}
    (h : ∀ a ∈ items, read (write a) = .ok (f a)) :
    Schema.list read (.list (items.map write)) = .ok (items.map f) := by
  simp only [Schema.list, Value.items?]
  generalize 0 = index
  induction items generalizing index with
  | nil => rfl
  | cons a rest ih =>
      have hrest := ih (fun b hb => h b (List.mem_cons_of_mem _ hb)) (index + 1)
      simp only [List.map_cons, itemsFrom, h a List.mem_cons_self, Checked.sequence, hrest]
      rfl

/-- Items that are read as what they were written from. -/
theorem list_self (write : α → Value) {read : Reader α} {items : List α}
    (h : ∀ a ∈ items, read (write a) = .ok a) :
    Schema.list read (.list (items.map write)) = .ok items := by
  rw [list_map write id h, List.map_id]

end Lists

/-! ## Values of any shape -/

section Portable

mutual

/-- What JSON can carry it carries as it is. -/
theorem portable_portable : ∀ v, portable (portable v) = portable v
  | .null | .bool _ | .int _ | .str _ => rfl
  | .float x => by
      cases hx : Numeral.decode x with
      | finite d => simp only [portable, hx]
      | nan | infinite _ => simp only [portable, hx]
  | .list items | .tuple items => by
      simp only [portable, portableItems_portableItems items]
  | .object entries => by
      simp only [portable, portableEntries_portableEntries entries]

theorem portableItems_portableItems : ∀ items,
    portableItems (portableItems items) = portableItems items
  | [] => rfl
  | v :: rest => by
      simp only [portableItems, portable_portable v, portableItems_portableItems rest]

theorem portableEntries_portableEntries : ∀ entries,
    portableEntries (portableEntries entries) = portableEntries entries
  | [] => rfl
  | (key, v) :: rest => by
      simp only [portableEntries, portable_portable v, portableEntries_portableEntries rest]

end

theorem portable_float {x : Float} (h : (Value.float x).isFiniteNumber = true) :
    portable (.float x) = .float x := by
  cases hdecode : Numeral.decode x with
  | finite d => simp only [portable, hdecode]
  | nan | infinite _ =>
      simp only [Value.isFiniteNumber, hdecode] at h
      cases h

/-- Only `null` becomes `null` if numbers are finite. -/
theorem isNull_portable {v : Value} (h : v.IsFinite) : (portable v).isNull = v.isNull := by
  cases v with
  | float x => rw [portable_float h]
  | _ => rfl

mutual

/-- **Values with finite numbers are written as they are but for tuples**, which are written
as lists. -/
theorem portable_eq_withLists : ∀ v : Value, v.IsFinite → portable v = v.withLists
  | .null, _ | .bool _, _ | .int _, _ | .str _, _ => rfl
  | .float x, hfinite => portable_float hfinite
  | .list items, hfinite | .tuple items, hfinite => by
      simp only [Value.IsFinite, Value.all, Bool.and_eq_true] at hfinite
      rw [portable, Value.withLists, portableItems_eq_itemsWithLists items hfinite.2]
  | .object entries, hfinite => by
      simp only [Value.IsFinite, Value.all, Bool.and_eq_true] at hfinite
      rw [portable, Value.withLists, portableEntries_eq_entriesWithLists entries hfinite.2]

theorem portableItems_eq_itemsWithLists : ∀ items : List Value,
    Value.allItems Value.isFiniteNumber items = true →
      portableItems items = Value.itemsWithLists items
  | [], _ => rfl
  | v :: rest, hfinite => by
      simp only [Value.allItems, Bool.and_eq_true] at hfinite
      rw [portableItems, Value.itemsWithLists, portable_eq_withLists v hfinite.1,
        portableItems_eq_itemsWithLists rest hfinite.2]

theorem portableEntries_eq_entriesWithLists : ∀ entries : List (String × Value),
    Value.allEntries Value.isFiniteNumber entries = true →
      portableEntries entries = Value.entriesWithLists entries
  | [], _ => rfl
  | (key, v) :: rest, hfinite => by
      simp only [Value.allEntries, Bool.and_eq_true] at hfinite
      rw [portableEntries, Value.entriesWithLists, portable_eq_withLists v hfinite.1,
        portableEntries_eq_entriesWithLists rest hfinite.2]

end

end Portable

end Schema

end PromptTree
