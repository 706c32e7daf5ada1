import PromptTree.Text.Cut

/-!
# Texts that can be taken apart

A text that was put together from pieces can be taken apart again, if every piece begins with
a mark that stands nowhere else in the pieces (`eq_of_flatMap_mark`).  Numbers have no marks in
them, and different numbers are written differently (`toString_injective`), so they may stand
in pieces.
-/

namespace PromptTree.Text

theorem join_eq_intercalate (separator : String) (texts : List String) :
    join separator texts = separator.intercalate texts := by
  induction texts with
  | nil => rw [join, String.intercalate_nil]
  | cons first rest ih =>
      cases rest with
      | nil => rw [join, String.intercalate_singleton]
      | cons second rest =>
          rw [String.intercalate_cons_cons, ← ih, join, String.append_assoc]
          nofun

/-- Strings with nothing between them are put together. -/
theorem join_blank (texts : List String) : join "" texts = String.join texts := by
  induction texts with
  | nil => rfl
  | cons first rest ih =>
      rw [String.join_cons, ← ih]
      cases rest with
      | nil => exact (String.append_empty).symm
      | cons second rest =>
          rw [join, String.empty_append]
          nofun

/-! ## Pieces -/

section Pieces

variable {mark : Char}

/-- What comes before the first mark can be told from what comes after it. -/
theorem eq_of_append_mark {piece other rest more : List Char} (h : mark ∉ piece)
    (h' : mark ∉ other) (hrest : rest = [] ∨ rest.head? = some mark)
    (hmore : more = [] ∨ more.head? = some mark) (heq : piece ++ rest = other ++ more) :
    piece = other ∧ rest = more := by
  induction piece generalizing other with
  | nil =>
      cases other with
      | nil => exact ⟨rfl, heq⟩
      | cons c other =>
          rw [List.nil_append, List.cons_append] at heq
          subst heq
          obtain hnil | hhead := hrest
          · cases hnil
          · cases hhead
            exact absurd List.mem_cons_self h'
  | cons c piece ih =>
      cases other with
      | nil =>
          rw [List.nil_append, List.cons_append] at heq
          subst heq
          obtain hnil | hhead := hmore
          · cases hnil
          · cases hhead
            exact absurd List.mem_cons_self h
      | cons d other =>
          obtain ⟨rfl, htail⟩ := List.cons.inj heq
          obtain ⟨rfl, hsame⟩ := ih (List.not_mem_of_not_mem_cons h)
            (List.not_mem_of_not_mem_cons h') htail
          exact ⟨rfl, hsame⟩

theorem head?_flatMap_mark (pieces : List (List Char)) :
    pieces.flatMap (mark :: ·) = [] ∨ (pieces.flatMap (mark :: ·)).head? = some mark := by
  cases pieces with
  | nil => exact .inl rfl
  | cons _ _ => exact .inr rfl

/-- **Pieces that begin with a mark are told apart by it.** -/
theorem eq_of_flatMap_mark {pieces others : List (List Char)} (h : ∀ piece ∈ pieces, mark ∉ piece)
    (h' : ∀ piece ∈ others, mark ∉ piece)
    (heq : pieces.flatMap (mark :: ·) = others.flatMap (mark :: ·)) : pieces = others := by
  induction pieces generalizing others with
  | nil =>
      cases others with
      | nil => rfl
      | cons _ _ => cases heq
  | cons piece pieces ih =>
      cases others with
      | nil => cases heq
      | cons other others =>
          obtain ⟨hpiece, hpieces⟩ := List.forall_mem_cons.mp h
          obtain ⟨hother, hothers⟩ := List.forall_mem_cons.mp h'
          rw [List.flatMap_cons, List.flatMap_cons, List.cons_append, List.cons_append] at heq
          obtain ⟨rfl, hrest⟩ := eq_of_append_mark hpiece hother (head?_flatMap_mark pieces)
            (head?_flatMap_mark others) (List.cons.inj heq).2
          rw [ih hpieces hothers hrest]

end Pieces

/-! ## Numbers -/

theorem toList_toString (n : Nat) : (toString n).toList = Nat.toDigits 10 n := by
  rw [Nat.toString_eq_ofList_toDigits, String.toList_ofList]

/-- Different numbers are written differently. -/
theorem toString_injective {n m : Nat} (h : (toString n).toList = (toString m).toList) : n = m := by
  rw [toList_toString, toList_toString] at h
  rw [← Nat.ofDigitChars_ten_toDigits (n := n), h, Nat.ofDigitChars_ten_toDigits]

/-- A number is written with digits only. -/
theorem notMem_toString {c : Char} (h : c.isDigit = false) (n : Nat) :
    c ∉ (toString n).toList := by
  intro hmem
  rw [toList_toString] at hmem
  rw [Nat.isDigit_of_mem_toDigits (by decide) (by decide) hmem] at h
  cases h

end PromptTree.Text
