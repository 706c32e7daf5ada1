import Mathlib.Data.List.FinRange
import PromptTree.Proofs.Text.Marks
import PromptTree.Separator.Builtin

/-!
# Pieces of joined texts

What rules make of items is known before the items are: it is a list of pieces, fixed texts and
items by their positions, that depends on the rules and on the number of items only
(`SeparatorRules.pieces`).  Joining items puts each of them, as it is, in its position
(`SeparatorRules.join_ofFn`).  So **no text of an item is ever read as part of a template**,
whatever braces are in it.

A template is filled in one pass, so filling it with pieces and then putting the items in is
the same as filling it with the texts of the pieces (`textOf_fillPieces`); everything else is
this law for the fillings of the three tiers.

## Main Definitions

* `TextPiece` — a fixed text, or the item of a position.
* `TextPiece.textOf` — the text of pieces, given the items.
* `fillPieces` — a template with its slots filled by pieces.
* `SeparatorRules.pieces` — the pieces of so many joined items.
-/

namespace PromptTree

namespace Separator

/-- A piece of a joined text: a fixed text, or the item of a position. -/
inductive TextPiece (n : Nat) where
  | fixed (text : String)
  | item (position : Fin n)
  deriving Repr, DecidableEq

namespace TextPiece

variable {n : Nat}

/-- The text of a piece, given the items. -/
def text (items : Fin n → String) : TextPiece n → String
  | fixed text => text
  | item position => items position

/-- The text of pieces, given the items. -/
def textOf (items : Fin n → String) (pieces : List (TextPiece n)) : String :=
  String.join (pieces.map (text items))

variable (items : Fin n → String)

@[simp]
theorem textOf_nil : textOf items [] = "" := rfl

@[simp]
theorem textOf_cons (piece : TextPiece n) (pieces : List (TextPiece n)) :
    textOf items (piece :: pieces) = piece.text items ++ textOf items pieces :=
  String.join_cons

@[simp]
theorem textOf_append (pieces more : List (TextPiece n)) :
    textOf items (pieces ++ more) = textOf items pieces ++ textOf items more := by
  rw [textOf, List.map_append, String.join_append, ← textOf, ← textOf]

/-- Pieces with a fixed text between them. -/
def join (separator : String) : List (List (TextPiece n)) → List (TextPiece n)
  | [] => []
  | [part] => part
  | part :: rest => part ++ fixed separator :: join separator rest

theorem join_cons_cons (separator : String) (part second : List (TextPiece n))
    (rest : List (List (TextPiece n))) :
    join separator (part :: second :: rest) =
      part ++ fixed separator :: join separator (second :: rest) := rfl

theorem textOf_join (separator : String) (parts : List (List (TextPiece n))) :
    textOf items (join separator parts) = Text.join separator (parts.map (textOf items)) := by
  induction parts with
  | nil => rfl
  | cons part rest ih =>
      cases rest with
      | nil => rfl
      | cons second rest =>
          rw [join_cons_cons, textOf_append, textOf_cons, ih]
          rfl

end TextPiece

/-! ## Templates -/

section Templates

variable {n : Nat}

/-- The pieces of a segment, given the pieces that fill slots. -/
def Segment.pieces (filling : Slot → Option (List (TextPiece n))) : Segment → List (TextPiece n)
  | .char c => [.fixed (String.singleton c)]
  | .slot place => (filling place).getD [.fixed (String.ofList place.mark)]

/-- A template with its slots filled by pieces. -/
def fillPieces (template : String) (filling : Slot → Option (List (TextPiece n))) :
    List (TextPiece n) :=
  (segments template).flatMap (Segment.pieces filling)

theorem textOf_pieces (items : Fin n → String) (filling : Slot → Option (List (TextPiece n)))
    (segment : Segment) :
    TextPiece.textOf items (segment.pieces filling) =
      String.ofList (segment.text fun place => (filling place).map (TextPiece.textOf items)) := by
  cases segment with
  | char c => simp [Segment.pieces, Segment.text, TextPiece.text]
  | slot place =>
      cases hfilling : filling place with
      | none => simp [Segment.pieces, Segment.text, hfilling, TextPiece.text]
      | some pieces => simp [Segment.pieces, Segment.text, hfilling]

/-- **A template is filled in one pass**: putting items into the pieces that fill it is filling it
with the texts of the pieces. -/
theorem textOf_fillPieces (items : Fin n → String) (template : String)
    (filling : Slot → Option (List (TextPiece n))) :
    TextPiece.textOf items (fillPieces template filling) =
      fill template fun place => (filling place).map (TextPiece.textOf items) := by
  unfold fillPieces fill
  induction segments template with
  | nil => rfl
  | cons segment rest ih =>
      rw [List.flatMap_cons, List.flatMap_cons, TextPiece.textOf_append, ih, textOf_pieces,
        String.ofList_append]

end Templates

end Separator

/-! ## Rules -/

namespace SeparatorRules

open Separator

/-- The pieces of lines with a number before each item. -/
def numberedPieces (n : Nat) : List (TextPiece n) :=
  TextPiece.join "\n" ((List.finRange n).map fun k =>
    [.fixed (toString (k.val + 1) ++ ". "), .item k])

/-- The pieces that fill the template of many items. -/
def manyPieces (rule : ManyRule) (n : Nat) : Slot → Option (List (TextPiece (n + 1)))
  | .items => some (TextPiece.join rule.itemSeparator ((List.finRange n).map ([.item ·.castSucc])))
  | .lastSeparator => some [.fixed rule.lastSeparator]
  | .last => some [.item (Fin.last n)]
  | _ => none

/-- The pieces of so many joined items. -/
def pieces (rules : SeparatorRules) : (n : Nat) → List (TextPiece n)
  | 0 => []
  | 1 =>
    fillPieces rules.single fun
      | .item => some [.item 0]
      | _ => none
  | 2 =>
    fillPieces rules.pair.template fun
      | .first => some [.item 0]
      | .separator => some [.fixed rules.pair.separator]
      | .second => some [.item 1]
      | _ => none
  | n + 3 =>
    if rules.many.numbered then numberedPieces (n + 3)
    else fillPieces rules.many.template (manyPieces rules.many (n + 2))

/-- Numbers are counted from one. -/
theorem numberedFrom_eq_mapIdx (number : Nat) (items : List String) :
    numberedFrom number items =
      items.mapIdx fun k item => toString (number + k) ++ ". " ++ item := by
  induction items generalizing number with
  | nil => rfl
  | cons item rest ih =>
      rw [numberedFrom, ih, List.mapIdx_cons]
      simp [Nat.add_comm, Nat.add_left_comm]

/-- Three items and more are numbered, or the last one stands apart. -/
theorem join_concat (rules : SeparatorRules) {front : List String} (h : 2 ≤ front.length)
    (last : String) :
    rules.join (front ++ [last]) =
      if rules.many.numbered then Text.join "\n" (numberedFrom 1 (front ++ [last]))
      else fill rules.many.template (manyFilling rules.many front last) := by
  match front, h with
  | first :: second :: rest, _ =>
      -- The rules look for three items, so what comes after the second one has to be seen.
      obtain ⟨third, more, hmore⟩ : ∃ third more, rest ++ [last] = third :: more := by
        cases rest with
        | nil => exact ⟨last, [], rfl⟩
        | cons third more => exact ⟨third, more ++ [last], rfl⟩
      have hitems : first :: second :: rest ++ [last] = first :: second :: third :: more := by
        simp [hmore]
      rw [hitems, join, ← hitems, List.dropLast_concat, List.getLastD_concat]
      all_goals nofun

theorem textOf_numberedPieces {n : Nat} (items : Fin n → String) :
    TextPiece.textOf items (numberedPieces n) =
      Text.join "\n" (numberedFrom 1 (List.ofFn items)) := by
  have hlines : (numberedFrom 1 (List.ofFn items)) =
      List.ofFn fun k : Fin n => toString (k.val + 1) ++ ". " ++ items k := by
    rw [numberedFrom_eq_mapIdx]
    exact List.ext_getElem (by simp) (by simp [Nat.add_comm])
  rw [numberedPieces, TextPiece.textOf_join, hlines, List.map_map, List.ofFn_eq_map]
  simp [Function.comp_def, TextPiece.text]

theorem textOf_manyPieces {n : Nat} (rule : ManyRule) (items : Fin (n + 1) → String)
    (place : Slot) :
    (manyPieces rule n place).map (TextPiece.textOf items) =
      manyFilling rule (List.ofFn fun k => items k.castSucc) (items (Fin.last n)) place := by
  cases place with
  | items =>
      simp [manyPieces, manyFilling, TextPiece.textOf_join, Function.comp_def, TextPiece.text,
        List.ofFn_eq_map]
  | lastSeparator | last => simp [manyPieces, manyFilling, TextPiece.text]
  | _ => rfl

/-- **Joining puts the items into pieces** that depend on the rules and on their number only. -/
theorem join_ofFn (rules : SeparatorRules) {n : Nat} (items : Fin n → String) :
    rules.join (List.ofFn items) = TextPiece.textOf items (rules.pieces n) := by
  match n with
  | 0 => rfl
  | 1 =>
      rw [pieces, textOf_fillPieces, List.ofFn_succ, List.ofFn_zero, join]
      congr 1
      funext place
      cases place <;> simp [TextPiece.text]
  | 2 =>
      rw [pieces, textOf_fillPieces, List.ofFn_succ, List.ofFn_succ, List.ofFn_zero, join]
      congr 1
      funext place
      cases place <;> simp [TextPiece.text]
  | n + 3 =>
      rw [List.ofFn_succ_last, join_concat rules (by simp), ← List.ofFn_succ_last, pieces]
      split
      · exact (textOf_numberedPieces items).symm
      · rw [textOf_fillPieces]
        congr 1
        funext place
        exact (textOf_manyPieces rules.many items place).symm

end SeparatorRules

/-- **Joining never reads the texts of items.**  For all rules and every number of items there
are pieces, each a fixed text or the position of an item, and whatever the items are, joining
them gives the texts of the pieces one after another, with every item as it is. -/
theorem join_eq_pieces (rules : SeparatorRules) (n : Nat) :
    ∃ pieces : List (Separator.TextPiece n), ∀ items : Fin n → String,
      rules.join (List.ofFn items) = Separator.TextPiece.textOf items pieces :=
  ⟨rules.pieces n, rules.join_ofFn⟩

/-- Slots in items and in separators are no slots. -/
example :
    let rules : SeparatorRules :=
      ⟨"", ⟨"\x7bsecond\x7d", Separator.pairTemplate⟩, ⟨"", "", "", false⟩⟩
    rules.join ["\x7bsecond\x7d", "\x7bfirst\x7d"] =
      "\x7bsecond\x7d\x7bsecond\x7d\x7bfirst\x7d" := by
  decide +kernel

end PromptTree
