import Mathlib.Data.String.Basic
import PromptTree.Render.Run

/-!
# Sets of names

What a rendering used is kept as a strictly sorted list of names.  This module says what
the two operations on such lists do:

* as **sets**: `mem_insert`, `mem_union`;
* as **lists**: they stay sorted (`sorted_insert`, `sorted_union`), so that two of them with
  the same names are equal;
* as **actions**: insertions commute and can be repeated (`insert_comm`, `insert_insert`),
  which makes a union the same whether a name is added before or after it
  (`union_insert`, `union_assoc`).  None of these needs the list to be sorted, which is what
  lets a run be compared with the same run on top of an arbitrary earlier record.
-/

namespace PromptTree.NameSet

theorem union_cons (name : String) (a rest : NameSet) :
    union a (name :: rest) = union (insert name a) rest := rfl

/-! ## Members -/

theorem mem_insert {name other : String} (set : NameSet) :
    other ∈ insert name set ↔ other = name ∨ other ∈ set := by
  induction set with
  | nil => simp [insert]
  | cons first rest ih =>
      unfold insert
      split
      · rename_i heq
        subst heq
        simp
      · split
        · simp
        · rw [List.mem_cons, ih, List.mem_cons]
          tauto

theorem mem_union {other : String} (a b : NameSet) :
    other ∈ union a b ↔ other ∈ a ∨ other ∈ b := by
  induction b generalizing a with
  | nil => simp [union]
  | cons name rest ih =>
      rw [union_cons, ih, mem_insert, List.mem_cons]
      tauto

/-! ## Order -/

/-- A name that is inserted is put in order. -/
theorem sorted_insert {set : NameSet} (name : String) (h : set.Pairwise (· < ·)) :
    (insert name set).Pairwise (· < ·) := by
  induction set with
  | nil => simp [insert]
  | cons first rest ih =>
      obtain ⟨hfirst, hrest⟩ := List.pairwise_cons.mp h
      unfold insert
      split
      · exact h
      · rename_i hne
        split
        · rename_i hlt
          refine List.pairwise_cons.mpr ⟨fun other hother => ?_, h⟩
          rcases List.mem_cons.mp hother with rfl | hother
          · exact hlt
          · exact lt_trans hlt (hfirst other hother)
        · rename_i hnlt
          refine List.pairwise_cons.mpr ⟨fun other hother => ?_, ih hrest⟩
          rcases (mem_insert rest).mp hother with rfl | hother
          · exact lt_of_le_of_ne (not_lt.mp hnlt) (Ne.symm hne)
          · exact hfirst other hother

theorem sorted_union {a : NameSet} (b : NameSet) (h : a.Pairwise (· < ·)) :
    (union a b).Pairwise (· < ·) := by
  induction b generalizing a with
  | nil => exact h
  | cons name rest ih => exact ih (sorted_insert name h)

/-! ## Insertions as actions -/

/-- A name that was just inserted is found where it stands. -/
theorem insert_insert (name : String) (set : NameSet) :
    insert name (insert name set) = insert name set := by
  induction set with
  | nil => simp [insert]
  | cons first rest ih =>
      by_cases heq : name = first
      · simp [insert, heq]
      · by_cases hlt : name < first
        · simp [insert, heq, hlt]
        · simp [insert, heq, hlt, ih]

theorem insert_comm (a b : String) (set : NameSet) :
    insert a (insert b set) = insert b (insert a set) := by
  induction set with
  | nil =>
      rcases lt_trichotomy a b with hlt | heq | hgt
      · simp [insert, hlt, hlt.ne, hlt.ne', hlt.not_gt]
      · rw [heq]
      · simp [insert, hgt, hgt.ne, hgt.ne', hgt.not_gt]
  | cons first rest ih =>
      grind [insert]

/-- An insertion that comes before a union may come after it. -/
theorem insert_union (name : String) (a b : NameSet) :
    union (insert name a) b = insert name (union a b) := by
  induction b generalizing a with
  | nil => rfl
  | cons first rest ih =>
      rw [union_cons, union_cons, insert_comm, ih]

/-- Adding to the second part of a union adds to the union. -/
theorem union_insert (name : String) (a b : NameSet) :
    union a (insert name b) = insert name (union a b) := by
  induction b generalizing a with
  | nil => rfl
  | cons first rest ih =>
      by_cases heq : name = first
      · have hsame : insert name (first :: rest) = first :: rest := by
          simp [insert, heq]
        rw [hsame, union_cons, ← heq, insert_union, insert_insert]
      · by_cases hlt : name < first
        · have hfront : insert name (first :: rest) = name :: first :: rest := by
            simp [insert, heq, hlt]
          rw [hfront, union_cons, insert_union]
        · have hlater : insert name (first :: rest) = first :: insert name rest := by
            simp [insert, heq, hlt]
          rw [hlater, union_cons, union_cons, ih]

/-- Of three sets any two may be put together first. -/
theorem union_assoc (a b c : NameSet) : union (union a b) c = union a (union b c) := by
  induction c generalizing b with
  | nil => rfl
  | cons name rest ih =>
      rw [union_cons, union_cons, ← union_insert]
      exact ih (insert name b)

end PromptTree.NameSet
