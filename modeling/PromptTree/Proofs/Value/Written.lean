import Mathlib.Algebra.Group.Nat.Defs
import Mathlib.Logic.Basic
import PromptTree.Value.Writing

/-!
# Which values can be written

A value can be written exactly if every value in it can, and an integer exactly if its digits
are not too many (`isWritable_iff_lt_pow`).  Asking for it fails with one failure only.
-/

namespace PromptTree

/-! ## Integers -/

/-- **An integer can be written exactly if it is less than a power of ten**, whatever its sign. -/
theorem Numeral.isWritable_iff_lt_pow {n : Int} :
    isWritable n = true ↔ n.natAbs < 10 ^ digitLimit := by
  rw [isWritable, decide_eq_true_iff]
  exact Nat.length_toDigits_le_iff (by decide) (by decide)

namespace Value

/-! ## Values -/

section Parts

variable {items : List Value} {entries : Entries}

theorem areWritable_iff : areWritable items = true ↔ ∀ v ∈ items, v.isWritable = true := by
  induction items with
  | nil => simp [areWritable]
  | cons v rest ih => simp [areWritable, ih]

theorem entriesWritable_iff :
    entriesWritable entries = true ↔ ∀ entry ∈ entries, entry.2.isWritable = true := by
  induction entries with
  | nil => simp [entriesWritable]
  | cons entry rest ih => simp [entriesWritable, ih]

theorem isWritable_list_iff :
    (list items).isWritable = true ↔ ∀ v ∈ items, v.isWritable = true :=
  areWritable_iff

theorem isWritable_object_iff :
    (object entries).isWritable = true ↔ ∀ entry ∈ entries, entry.2.isWritable = true :=
  entriesWritable_iff

theorem isWritable_of_lookup {name : String} {v : Value} (h : (object entries).isWritable = true)
    (hv : entries.lookup name = some v) : v.isWritable = true := by
  obtain ⟨before, after, rfl, -⟩ := List.lookup_eq_some_iff.mp hv
  exact isWritable_object_iff.mp h (name, v) (by simp)

theorem isWritable_getD (h : (object entries).isWritable = true) (name : String) :
    (Entries.getD entries name).isWritable = true := by
  unfold Entries.getD
  cases hlookup : entries.lookup name with
  | none => rfl
  | some v => exact isWritable_of_lookup h hlookup

end Parts

/-- What counts as false can be written. -/
theorem isWritable_of_not_isTruthy {v : Value} (h : v.isTruthy = false) : v.isWritable = true := by
  cases v with
  | int n =>
      obtain rfl : n = 0 := by simpa [isTruthy] using h
      decide
  | list items | tuple items =>
      obtain rfl : items = [] := by simpa [isTruthy] using h
      rfl
  | object entries =>
      obtain rfl : entries = [] := by simpa [isTruthy] using h
      rfl
  | _ => rfl

theorem isWritable_ofStrings (texts : List String) : (ofStrings texts).isWritable = true :=
  isWritable_list_iff.mpr (List.forall_mem_map.mpr fun _ _ => rfl)

/-! ## Asking whether a value can be written -/

section Writing

variable {v : Value} {failure : Failure}

theorem writing_of_isWritable (h : v.isWritable = true) : v.writing = .ok () :=
  if_pos h

theorem writing_ofStrings (texts : List String) : (list (texts.map .str)).writing = .ok () :=
  writing_of_isWritable (isWritable_ofStrings texts)

theorem writing_eq_error_iff :
    v.writing = .error failure ↔ v.isWritable = false ∧ failure = .integerTooLong := by
  unfold writing
  cases v.isWritable with
  | true => simp
  | false => simp [eq_comm]

end Writing

end Value

end PromptTree
