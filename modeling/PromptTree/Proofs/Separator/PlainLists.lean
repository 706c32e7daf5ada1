import PromptTree.Proofs.Separator.Pieces

/-!
# Built-in sets as plain lists

A built-in set is given by three templates, for one, two and more items.  Together they
describe one list each, of any length (`builtinSets_join`): items with the same text between
them, items on lines of their own, or a list whose last item is set apart by a word.

All sets but the numbered one are made in the same way, of a lead and three separators
(`SeparatorRules.HasLead`), so what they join is computed once for all of them.  That **every
item appears once, and in order**, needs less: a template for each tier that has a slot for
every item (`SeparatorRules.ShowsItems`).

## Main Definitions

* `SeparatorRules.HasLead` — rules with a lead, and all items between separators.
* `SeparatorRules.ShowsItems` — rules that have a place for every item.
* `Separator.joinedBy?` — items joined by the built-in set of a name.
-/

namespace PromptTree

open Separator

/-! ## Templates in chunks -/

namespace Separator

/-- A slot that is filled, or stays as it is. -/
def slotText (filling : Slot → Option String) (place : Slot) : String :=
  (filling place).getD (String.ofList place.mark)

/-- The segments of slots with a text before each. -/
def chunkSegments (chunks : List (String × Slot)) : List Segment :=
  chunks.flatMap fun chunk => chunk.1.toList.map .char ++ [.slot chunk.2]

theorem text_slot (filling : Slot → Option String) (place : Slot) :
    Segment.text filling (.slot place) = (slotText filling place).toList := by
  cases hfilling : filling place with
  | none => simp [slotText, Segment.text, hfilling]
  | some text => simp [slotText, Segment.text, hfilling]

theorem fill_of_segments {template : String} {chunks : List (String × Slot)}
    (h : segments template = chunkSegments chunks) (filling : Slot → Option String) :
    fill template filling =
      String.join (chunks.map fun chunk => chunk.1 ++ slotText filling chunk.2) := by
  have hlead : ∀ lead : String,
      (lead.toList.map Segment.char).flatMap (Segment.text filling) = lead.toList := by
    intro lead
    rw [List.flatMap_map]
    exact List.flatMap_singleton' _
  rw [fill, h, chunkSegments, ← String.toList_inj]
  simp [List.flatMap_assoc, List.flatMap_map, hlead, text_slot]

end Separator

/-! ## Lists with a lead -/

/-- A text before each of some texts is one before them, and one after each separator. -/
theorem intercalate_map_lead {line lead : String} {texts : List String} (h : texts ≠ []) :
    line.intercalate (texts.map (lead ++ ·)) = lead ++ (line ++ lead).intercalate texts := by
  induction texts with
  | nil => exact absurd rfl h
  | cons first rest ih =>
      cases rest with
      | nil => simp
      | cons second rest =>
          rw [List.map_cons, List.map_cons, String.intercalate_cons_cons, ← List.map_cons,
            ih (List.cons_ne_nil _ _), String.intercalate_cons_cons]
          simp only [String.append_assoc]

namespace SeparatorRules

variable {rules : SeparatorRules} {lead : String}

/-- The templates begin with a lead, and have all items after it, with separators between
them. -/
structure HasLead (rules : SeparatorRules) (lead : String) : Prop where
  single : segments rules.single = chunkSegments [(lead, .item)]
  pair : segments rules.pair.template =
    chunkSegments [(lead, .first), ("", .separator), ("", .second)]
  many : segments rules.many.template =
    chunkSegments [(lead, .items), ("", .lastSeparator), ("", .last)]
  unnumbered : rules.many.numbered = false

namespace HasLead

variable (h : rules.HasLead lead)
include h

theorem join_one (item : String) : rules.join [item] = lead ++ item := by
  rw [join, fill_of_segments h.single]
  simp [slotText]

theorem join_two (first second : String) :
    rules.join [first, second] = lead ++ first ++ rules.pair.separator ++ second := by
  rw [join, fill_of_segments h.pair]
  simp [slotText, String.append_assoc]

theorem join_many {front : List String} (hfront : 2 ≤ front.length) (last : String) :
    rules.join (front ++ [last]) =
      lead ++ rules.many.itemSeparator.intercalate front ++ rules.many.lastSeparator ++ last := by
  rw [join_concat rules hfront, h.unnumbered, if_neg Bool.false_ne_true,
    fill_of_segments h.many]
  simp [slotText, manyFilling, Text.join_eq_intercalate, String.append_assoc]

/-- With the same separators in all tiers, a lead stands before every item. -/
theorem join_leads {line : String} (hpair : rules.pair.separator = line ++ lead)
    (hitem : rules.many.itemSeparator = line ++ lead)
    (hlast : rules.many.lastSeparator = line ++ lead) (items : List String) :
    rules.join items = line.intercalate (items.map (lead ++ ·)) := by
  rcases List.eq_nil_or_concat' items with rfl | ⟨front, last, rfl⟩
  · rfl
  match front with
  | [] => exact h.join_one last
  | [first] => simp [h.join_two, hpair, String.append_assoc]
  | first :: second :: rest =>
      rw [h.join_many (by simp), intercalate_map_lead (by simp),
        String.intercalate_append_of_ne_nil (by simp) (by simp), String.intercalate_singleton,
        hitem, hlast]
      simp only [String.append_assoc]

end HasLead

/-! ## Lists that are numbered -/

/-- The templates number the items, and from three items on lines are numbered without a
template. -/
structure IsNumbered (rules : SeparatorRules) : Prop where
  single : segments rules.single = chunkSegments [(toString 1 ++ ". ", .item)]
  pair : segments rules.pair.template =
    chunkSegments [(toString 1 ++ ". ", .first), ("\n" ++ (toString 2 ++ ". "), .second)]
  numbered : rules.many.numbered = true

theorem IsNumbered.join_eq (h : rules.IsNumbered) (items : List String) :
    rules.join items =
      "\n".intercalate (items.mapIdx fun k item => toString (k + 1) ++ ". " ++ item) := by
  rcases List.eq_nil_or_concat' items with rfl | ⟨front, last, rfl⟩
  · rfl
  match front with
  | [] =>
      rw [List.nil_append, join, fill_of_segments h.single]
      simp [slotText]
  | [first] =>
      rw [List.singleton_append, join, fill_of_segments h.pair]
      simp [slotText, String.append_assoc]
  | first :: second :: rest =>
      rw [join_concat rules (by simp), h.numbered, if_pos rfl, numberedFrom_eq_mapIdx,
        Text.join_eq_intercalate]
      simp only [Nat.add_comm]

end SeparatorRules

/-! ## Items in order -/

namespace Separator

variable {n : Nat}

/-- The item of a piece. -/
def TextPiece.position? : TextPiece n → Option (Fin n)
  | fixed _ => none
  | item position => some position

/-- The items of pieces, in order. -/
def TextPiece.positions (pieces : List (TextPiece n)) : List (Fin n) :=
  pieces.filterMap position?

theorem TextPiece.positions_append (pieces more : List (TextPiece n)) :
    positions (pieces ++ more) = positions pieces ++ positions more :=
  List.filterMap_append

theorem TextPiece.positions_join (separator : String) (parts : List (List (TextPiece n))) :
    positions (join separator parts) = parts.flatMap positions := by
  induction parts with
  | nil => rfl
  | cons part rest ih =>
      cases rest with
      | nil => simp [join]
      | cons second rest =>
          rw [join_cons_cons, positions_append, List.flatMap_cons, ← ih]
          rfl

/-- The slot of a segment, if it is for items and not for a separator. -/
def Segment.itemSlot? : Segment → Option Slot
  | .char _ | .slot .separator | .slot .lastSeparator => none
  | .slot place => some place

/-- The slots of a template that are for items, in order. -/
def itemSlots (template : String) : List Slot :=
  (segments template).filterMap Segment.itemSlot?

/-- A slot that is not filled has a fixed text. -/
theorem positions_slot (filling : Slot → Option (List (TextPiece n))) (place : Slot) :
    TextPiece.positions (Segment.pieces filling (.slot place)) =
      TextPiece.positions ((filling place).getD []) := by
  cases hfilling : filling place with
  | none => simp [Segment.pieces, hfilling, TextPiece.positions, TextPiece.position?]
  | some pieces => simp [Segment.pieces, hfilling]

/-- The items of a filled template are those of its slots for items. -/
theorem positions_fillPieces {filling : Slot → Option (List (TextPiece n))}
    (hseparator : TextPiece.positions ((filling .separator).getD []) = [])
    (hlast : TextPiece.positions ((filling .lastSeparator).getD []) = []) (template : String) :
    TextPiece.positions (fillPieces template filling) =
      (itemSlots template).flatMap fun place => TextPiece.positions ((filling place).getD []) := by
  have hsegment : ∀ segment : Segment, TextPiece.positions (segment.pieces filling) =
      segment.itemSlot?.toList.flatMap fun place =>
        TextPiece.positions ((filling place).getD []) := by
    intro segment
    cases segment with
    | char c => rfl
    | slot place =>
        rw [positions_slot]
        cases place with
        | separator => rw [hseparator]; rfl
        | lastSeparator => rw [hlast]; rfl
        | _ => simp [Segment.itemSlot?]
  unfold fillPieces itemSlots
  induction segments template with
  | nil => rfl
  | cons segment rest ih =>
      rw [List.flatMap_cons, TextPiece.positions_append, ih, hsegment, List.filterMap_cons]
      cases segment.itemSlot? with
      | none => rfl
      | some place => simp

end Separator

namespace SeparatorRules

/-- There is a place for every item in the template of each tier, and only one. -/
structure ShowsItems (rules : SeparatorRules) : Prop where
  single : itemSlots rules.single = [.item]
  pair : itemSlots rules.pair.template = [.first, .second]
  many : rules.many.numbered = true ∨ itemSlots rules.many.template = [.items, .last]

theorem positions_numberedPieces (n : Nat) :
    TextPiece.positions (numberedPieces n) = List.finRange n := by
  rw [numberedPieces, TextPiece.positions_join, List.flatMap_map]
  exact List.flatMap_singleton' _

/-- The items of the last two slots are all items. -/
theorem positions_manyPieces (rule : ManyRule) (n : Nat) :
    [Slot.items, Slot.last].flatMap (fun place =>
        TextPiece.positions ((manyPieces rule n place).getD [])) = List.finRange (n + 1) := by
  have hfront : (List.finRange n).map Fin.castSucc = TextPiece.positions
      (TextPiece.join rule.itemSeparator ((List.finRange n).map ([.item ·.castSucc]))) := by
    rw [TextPiece.positions_join, List.flatMap_map, List.map_eq_flatMap]
    rfl
  rw [List.finRange_succ_last, hfront]
  rfl

/-- **Rules with a place for every item show all items in order, and none of them twice.** -/
theorem ShowsItems.positions_pieces {rules : SeparatorRules} (h : rules.ShowsItems) (n : Nat) :
    TextPiece.positions (rules.pieces n) = List.finRange n := by
  match n with
  | 0 => rfl
  | 1 =>
      rw [pieces, positions_fillPieces rfl rfl, h.single]
      rfl
  | 2 =>
      rw [pieces, positions_fillPieces rfl rfl, h.pair]
      rfl
  | n + 3 =>
      rw [pieces]
      split
      · exact positions_numberedPieces (n + 3)
      · rename_i hplain
        rw [positions_fillPieces rfl rfl, h.many.resolve_left hplain]
        exact positions_manyPieces rules.many (n + 2)

end SeparatorRules

/-! ## Built-in sets -/

instance (rules : SeparatorRules) : Decidable rules.ShowsItems :=
  decidable_of_iff
    (itemSlots rules.single = [.item] ∧ itemSlots rules.pair.template = [.first, .second] ∧
      (rules.many.numbered = true ∨ itemSlots rules.many.template = [.items, .last]))
    ⟨fun h => ⟨h.1, h.2.1, h.2.2⟩, fun h => ⟨h.single, h.pair, h.many⟩⟩

namespace Separator

/-- Items joined by the built-in set of a name. -/
def joinedBy? (name : String) (items : List String) : Option String :=
  (builtin? name).map (·.join items)

/-- The built-in sets have a place for every item. -/
theorem showsItems_of_builtin {name : String} {rules : SeparatorRules}
    (h : builtin? name = some rules) : rules.ShowsItems := by
  have hall : ∀ entry ∈ builtinSets, entry.2.ShowsItems := by decide +kernel
  obtain ⟨before, after, hentry, -⟩ := List.lookup_eq_some_iff.mp h
  refine hall (name, rules) ?_
  rw [hentry]
  exact List.mem_append_right before List.mem_cons_self

theorem hasLead_between (pair item last : String) : (between pair item last).HasLead "" where
  single := by
    change segments "\x7bitem\x7d" = _
    decide +kernel
  pair := by
    change segments pairTemplate = _
    decide +kernel
  many := by
    change segments manyTemplate = _
    decide +kernel
  unnumbered := rfl

/-- With one separator, items have nothing but this separator between them. -/
theorem join_between (separator : String) (items : List String) :
    (between separator separator separator).join items = separator.intercalate items := by
  have hempty : separator = separator ++ "" := String.append_empty.symm
  have hlines : (between separator separator separator).join items =
      separator.intercalate (items.map ("" ++ ·)) :=
    (hasLead_between separator separator separator).join_leads hempty hempty hempty items
  simpa using hlines

theorem join_between_two (pair item last first second : String) :
    (between pair item last).join [first, second] = first ++ pair ++ second := by
  simpa [between] using (hasLead_between pair item last).join_two first second

theorem join_between_many (pair item last : String) {front : List String}
    (hfront : 2 ≤ front.length) (final : String) :
    (between pair item last).join (front ++ [final]) =
      item.intercalate front ++ last ++ final := by
  simpa [between] using (hasLead_between pair item last).join_many hfront final

end Separator

/-- **The built-in sets are plain lists**, of any length and whatever the items are:

* items with commas, blanks or line ends between them, lines with bullets, and lines with
  numbers counted from one;
* items with commas between them but the last one, which a word sets apart, with a comma of
  its own or without.

And for every set and every number of items there are pieces, in which every item stands once
and in order, such that joining items gives the texts of the pieces one after another. -/
theorem builtinSets_join :
    (∀ items, joinedBy? "simple-comma" items = some (", ".intercalate items) ∧
      joinedBy? "space" items = some (" ".intercalate items) ∧
      joinedBy? "newline" items = some ("\n".intercalate items) ∧
      joinedBy? "bullet-list" items = some ("\n".intercalate (items.map ("• " ++ ·))) ∧
      joinedBy? "numbered-list" items =
        some ("\n".intercalate (items.mapIdx fun k item => toString (k + 1) ++ ". " ++ item))) ∧
    (∀ first front last, joinedBy? "and-list-no-oxford" (first :: front ++ [last]) =
      some (", ".intercalate (first :: front) ++ " and " ++ last)) ∧
    (∀ first second,
      joinedBy? "oxford-comma" [first, second] = some (first ++ " and " ++ second) ∧
      joinedBy? "or-list" [first, second] = some (first ++ " or " ++ second)) ∧
    (∀ first second front last,
      joinedBy? "oxford-comma" (first :: second :: front ++ [last]) =
        some (", ".intercalate (first :: second :: front) ++ ", and " ++ last) ∧
      joinedBy? "or-list" (first :: second :: front ++ [last]) =
        some (", ".intercalate (first :: second :: front) ++ ", or " ++ last)) ∧
    ∀ name rules, builtin? name = some rules → ∀ n, ∃ pieces : List (TextPiece n),
      (∀ items : Fin n → String, rules.join (List.ofFn items) = TextPiece.textOf items pieces) ∧
      TextPiece.positions pieces = List.finRange n := by
  refine ⟨?_, ?_, ?_, ?_, ?_⟩
  · intro items
    refine ⟨congrArg some (join_between ", " items), congrArg some (join_between " " items),
      congrArg some (join_between "\n" items), congrArg some ?_, congrArg some ?_⟩
    · refine SeparatorRules.HasLead.join_leads ?_ rfl rfl rfl items
      constructor <;> decide +kernel
    · refine SeparatorRules.IsNumbered.join_eq ?_ items
      constructor <;> decide +kernel
  · intro first front last
    refine congrArg some ?_
    cases front with
    | nil => exact join_between_two " and " ", " " and " first last
    | cons second front => exact join_between_many " and " ", " " and " (by simp) last
  · intro first second
    exact ⟨congrArg some (join_between_two _ _ _ first second),
      congrArg some (join_between_two _ _ _ first second)⟩
  · intro first second front last
    exact ⟨congrArg some (join_between_many _ _ _ (by simp) last),
      congrArg some (join_between_many _ _ _ (by simp) last)⟩
  · intro name rules hname n
    exact ⟨rules.pieces n, rules.join_ofFn, (showsItems_of_builtin hname).positions_pieces n⟩

/-- Three guests, the last one set apart. -/
theorem builtinSets_join_guests :
    let rules := between " or " ", " ", or "
    builtin? "or-list" = some rules ∧
      joinedBy? "or-list" ["Ada", "Bo", "Cy"] = some "Ada, Bo, or Cy" ∧
      ∃ pieces : List (TextPiece 3),
        (∀ items : Fin 3 → String,
          rules.join (List.ofFn items) = TextPiece.textOf items pieces) ∧
        TextPiece.positions pieces = [0, 1, 2] := by
  intro rules
  obtain ⟨-, -, -, hmany, hpieces⟩ := builtinSets_join
  have hname : builtin? "or-list" = some rules := rfl
  obtain ⟨pieces, hjoin, hpositions⟩ := hpieces "or-list" rules hname 3
  refine ⟨hname, ?_, pieces, hjoin, hpositions.trans (by decide)⟩
  exact (hmany "Ada" "Bo" [] "Cy").2.trans (by decide)

end PromptTree
