import PromptTree.Proofs.Content.CheckedSlots

/-!
# The piece of a slot

The check of a node is put together from pieces, and the node in a slot is one of them.  That
it is exactly one, and that no other piece depends on it, is `OnePart`; **it holds of every slot
that is checked** (`onePart_node`).  It is shown slot by slot, and of the pieces around the slot
only that they hold still (`Steady`).

## Main Definitions

* `Steady` — pieces that are the same, whatever value is put there.
* `OnePart` — pieces of which one is the check of a node, whatever that node is.
-/

namespace PromptTree

open Findings Schema

/-! ## Pieces of which one is a node -/

section OnePart

variable {place : List PlaceStep} {f g : Value → List Piece}

/-- The pieces are the same for all values that are there. -/
def Steady (f : Value → List Piece) : Prop :=
  ∃ pieces, ∀ new : Value, new.isNull = false → f new = pieces

/-- One of the pieces is the check of the value, for all values that are there, and the
others are the same for all of them. -/
def OnePart (place : List PlaceStep) (f : Value → List Piece) : Prop :=
  ∃ before after, ∀ new : Value, new.isNull = false → f new = before ++ .part place new :: after

/-- Pieces are steady if no two values that are there make a difference. -/
theorem steady_of_congr
    (h : ∀ new other : Value, new.isNull = false → other.isNull = false → f new = f other) :
    Steady f :=
  ⟨f (.bool true), fun new hnew => h new (.bool true) hnew rfl⟩

theorem steady_const (pieces : List Piece) : Steady fun _ => pieces :=
  ⟨pieces, fun _ _ => rfl⟩

theorem onePart_single : OnePart place fun new => [.part place new] :=
  ⟨[], [], fun _ _ => rfl⟩

theorem OnePart.append_right (h : OnePart place f) (hg : Steady g) :
    OnePart place fun new => f new ++ g new := by
  obtain ⟨before, after, hf⟩ := h
  obtain ⟨pieces, hpieces⟩ := hg
  refine ⟨before, after ++ pieces, ?_⟩
  intro new hnew
  simp only [hf new hnew, hpieces new hnew, List.append_assoc, List.cons_append]

theorem OnePart.append_left (hg : Steady g) (h : OnePart place f) :
    OnePart place fun new => g new ++ f new := by
  obtain ⟨before, after, hf⟩ := h
  obtain ⟨pieces, hpieces⟩ := hg
  refine ⟨pieces ++ before, after, ?_⟩
  intro new hnew
  simp only [hf new hnew, hpieces new hnew, List.append_assoc]

theorem OnePart.congr (h : OnePart place f)
    (hg : ∀ new : Value, new.isNull = false → g new = f new) : OnePart place g := by
  obtain ⟨before, after, hf⟩ := h
  exact ⟨before, after, fun new hnew => (hg new hnew).trans (hf new hnew)⟩

theorem OnePart.below (h : OnePart place f) (step : PlaceStep) :
    OnePart (step :: place) fun new => piecesBelow step (f new) := by
  obtain ⟨before, after, hf⟩ := h
  refine ⟨piecesBelow step before, piecesBelow step after, ?_⟩
  intro new hnew
  simp only [hf new hnew, piecesBelow, List.map_append, List.map_cons, Piece.below]

theorem Steady.append (hf : Steady f) (hg : Steady g) : Steady fun new => f new ++ g new := by
  obtain ⟨pieces, hpieces⟩ := hf
  obtain ⟨more, hmore⟩ := hg
  exact ⟨pieces ++ more, fun new hnew => congrArg₂ _ (hpieces new hnew) (hmore new hnew)⟩

end OnePart

/-! ## Lists with another item -/

section Lists

variable {place : List PlaceStep}

/-- The pieces of a list of which one item was replaced. -/
theorem exists_itemPieces_set (label : String) (inner : Value → List Piece) {index : Nat}
    {items : List Value} (h : index < items.length) (start : Nat) :
    ∃ before after, ∀ v, (itemPieces label inner start (items.set index v)).flatten =
      before ++ (piecesBelow (.item label (start + index)) (inner v) ++ after) := by
  induction items generalizing index start with
  | nil => exact absurd h (Nat.not_lt_zero _)
  | cons first rest ih =>
      cases index with
      | zero => exact ⟨[], (itemPieces label inner (start + 1) rest).flatten, fun v => rfl⟩
      | succ index =>
          obtain ⟨before, after, hrest⟩ := ih (Nat.lt_of_succ_lt_succ h) (start + 1)
          refine ⟨piecesBelow (.item label start) (inner first) ++ before, after, ?_⟩
          intro v
          rw [List.set_cons_succ, itemPieces, List.flatten_cons, hrest, List.append_assoc,
            Nat.add_right_comm, Nat.add_assoc]

/-- A list with the node in one of its items. -/
theorem onePart_list {entries : Entries} {name : String} {inner : Value → List Piece}
    {write : Value → Value} {index : Nat} {items : List Value} (h : index < items.length)
    (hinner : OnePart place fun new => inner (write new)) :
    OnePart (.item name index :: place) fun new =>
      listPieces (Entries.put name (.list (items.set index (write new))) entries) name inner := by
  obtain ⟨before, after, hitems⟩ := exists_itemPieces_set name inner h 0
  have hbelow := (hinner.below (.item name (0 + index))).append_right (steady_const after)
  have hall := OnePart.append_left (steady_const (.own (.ok []) :: before)) hbelow
  rw [Nat.zero_add] at hall hitems
  refine hall.congr fun new _ => ?_
  rw [listPieces, listField, Entries.getD_put, if_pos rfl, List.flatten_cons, hitems]
  rfl

end Lists

/-! ## Objects with another field -/

section Fields

variable {field name : String} {value : Value} {entries : Entries}

theorem getD_put_of_ne (h : name ≠ field) :
    Entries.getD (Entries.put field value entries) name = Entries.getD entries name := by
  rw [Entries.getD_put, if_neg h]

/-- A field that is put there is there, and all others are if they were. -/
theorem isNull_getD_put (h : value.isNull = false) :
    (Entries.getD (Entries.put field value entries) name).isNull =
      if name = field then false else (Entries.getD entries name).isNull := by
  rw [Entries.getD_put]
  split
  · exact h
  · rfl

theorem missingFields_put {other : Value} (h : value.isNull = false) (h' : other.isNull = false)
    (tag : ContentTag) :
    missingFields (Entries.put field value entries) tag =
      missingFields (Entries.put field other entries) tag := by
  simp only [missingFields, isNull_getD_put h, isNull_getD_put h']

theorem childPieces_put_of_ne (h : name ≠ field) (label : String) :
    childPieces (Entries.put field value entries) name label = childPieces entries name label := by
  rw [childPieces, childPieces, getD_put_of_ne h]

theorem childPieces_put (h : value.isNull = false) (label : String) :
    childPieces (Entries.put field value entries) field label = [.part [.field label] value] := by
  rw [childPieces, Entries.getD_put, if_pos rfl]
  cases value with
  | null => cases h
  | _ => rfl

theorem listPieces_put_of_ne (h : name ≠ field) (inner : Value → List Piece) :
    listPieces (Entries.put field value entries) name inner = listPieces entries name inner := by
  rw [listPieces, listPieces, listField, listField, getD_put_of_ne h]

theorem childrenPieces_put_of_notMem (h : field ∉ childFields.map Prod.fst) :
    childrenPieces (Entries.put field value entries) = childrenPieces entries := by
  refine congrArg List.flatten (List.map_congr_left fun child hchild => ?_)
  refine childPieces_put_of_ne (fun heq => h ?_) child.2
  exact heq ▸ List.mem_map_of_mem hchild

/-- A field with nodes that does not belong to the kind has no part in what the kind asks. -/
theorem kindPieces_put {other : Value} (h : value.isNull = false) (h' : other.isNull = false)
    (hfield : field ∈ "parts" :: childFields.map Prod.fst) (tag : ContentTag) :
    kindPieces (Entries.put field value entries) tag =
      kindPieces (Entries.put field other entries) tag := by
  have hne : ∀ name, name ∉ "parts" :: childFields.map Prod.fst → name ≠ field := by
    rintro name hname rfl
    exact hname hfield
  have hother : ∀ name v, name ∉ "parts" :: childFields.map Prod.fst →
      Entries.getD (Entries.put field v entries) name = Entries.getD entries name :=
    fun name v hname => getD_put_of_ne (hne name hname)
  have hlist : ∀ name v inner, name ∉ "parts" :: childFields.map Prod.fst →
      listPieces (Entries.put field v entries) name inner = listPieces entries name inner :=
    fun name v inner hname => listPieces_put_of_ne (hne name hname) inner
  -- Articles ask whether such a field is there, but not what is in it; other kinds do not ask.
  cases tag with
  | conditional => simp only [kindPieces, hother "condition" _ (by decide)]
  | article =>
      simp only [kindPieces, checkArticle, isNull_getD_put h, isNull_getD_put h',
        hother "word_variable" _ (by decide), hother "style" _ (by decide)]
  | countSwitch | switch => simp only [kindPieces, hlist "cases" _ _ (by decide)]
  | weightedPick => simp only [kindPieces, hlist "options" _ _ (by decide)]
  | pickOne =>
      simp only [kindPieces, listField, hlist "candidates" _ _ (by decide),
        hother "candidates" _ (by decide), hother "weights" _ (by decide)]
  | pickMany =>
      simp only [kindPieces, hlist "candidates" _ _ (by decide), hother "count" _ (by decide)]
  | randomValue => simp only [kindPieces, checkSources, isNull_getD_put h, isNull_getD_put h']
  | shuffle => simp only [kindPieces, hother "count" _ (by decide)]
  | _ => rfl

end Fields

/-! ## The pieces of a slot -/

section Slots

variable {entries fields : Entries} {tag : ContentTag}

/-- The content of a case or an option is the only part of it. -/
theorem onePart_content :
    OnePart [.field "content"] fun new => contentPieces (Entries.put "content" new fields) := by
  refine onePart_single.congr fun new hnew => ?_
  rw [contentPieces, Entries.getD_put, if_pos rfl]
  cases new with
  | null => cases hnew
  | _ => rfl

/-- A case or an option, with a node as its content. -/
theorem onePart_case (own : Findings) {inner : Value → List Piece}
    (hinner : ∀ new, inner (.object (Entries.put "content" new fields)) =
      .own own :: contentPieces (Entries.put "content" new fields)) :
    OnePart [.field "content"] fun new => inner (.object (Entries.put "content" new fields)) :=
  (OnePart.append_left (steady_const [.own own]) onePart_content).congr fun new _ => hinner new

/-- The single nodes, with one of them in its field. -/
theorem onePart_children (field : SingleField) :
    OnePart [.field field.label] fun new =>
      childrenPieces (Entries.put field.name new entries) := by
  -- The field is one of the six, and each of the others is called otherwise.
  obtain ⟨before, after, hfields, hne⟩ : ∃ before after,
      childFields = before ++ (field.name, field.label) :: after ∧
        ∀ child ∈ before ++ after, child.1 ≠ field.name := by
    cases field with
    | yes => exact ⟨[], childFields.drop 1, rfl, by decide⟩
    | no => exact ⟨childFields.take 1, childFields.drop 2, rfl, by decide⟩
    | template => exact ⟨childFields.take 2, childFields.drop 3, rfl, by decide⟩
    | fallback => exact ⟨childFields.take 3, childFields.drop 4, rfl, by decide⟩
    | word => exact ⟨childFields.take 4, childFields.drop 5, rfl, by decide⟩
    | otherwise => exact ⟨childFields.take 5, [], rfl, by decide⟩
  have hrest : ∀ more : List (String × String), (∀ child ∈ more, child.1 ≠ field.name) →
      Steady fun new => (more.map fun child =>
        childPieces (Entries.put field.name new entries) child.1 child.2).flatten := by
    intro more hmore
    refine ⟨(more.map fun child => childPieces entries child.1 child.2).flatten, ?_⟩
    intro new _
    exact congrArg List.flatten (List.map_congr_left fun child hchild =>
      childPieces_put_of_ne (hmore child hchild) child.2)
  obtain ⟨hbefore, hafter⟩ := List.forall_mem_append.mp hne
  refine (OnePart.append_left (hrest before hbefore)
    (onePart_single.append_right (hrest after hafter))).congr fun new hnew => ?_
  rw [childrenPieces, hfields, List.map_append, List.map_cons, List.flatten_append,
    List.flatten_cons]
  simp only [childPieces_put hnew]

/-- Candidates, with a node as one of them. -/
theorem onePart_candidates (htag : tag = .pickOne ∨ tag = .pickMany) {index : Nat}
    {items : List Value} (h : index < items.length) :
    OnePart [.item "candidates" index] fun new =>
      kindPieces (Entries.put "candidates" (.list (items.set index new)) entries) tag := by
  have hlist : OnePart [.item "candidates" index] fun new =>
      listPieces (Entries.put "candidates" (.list (items.set index new)) entries) "candidates"
        wholePieces :=
    onePart_list h onePart_single
  obtain rfl | rfl := htag
  · refine (hlist.append_right (steady_const [.own (checkWeights items.length
      (Entries.getD entries "weights"))])).congr fun new _ => ?_
    rw [kindPieces, listField, Entries.getD_put, if_pos rfl, getD_put_of_ne (by decide)]
    simp only [List.length_set]
  · refine (hlist.append_right (steady_const [.own (checkPickCount
      (Entries.getD entries "count"))])).congr fun new _ => ?_
    rw [kindPieces, getD_put_of_ne (by decide)]

/-- Cases and options, with a node as the content of one of them. -/
theorem onePart_cases {field : CaseField} {index : Nat}
    (own : (NodeSlot.case field index).IsChecked tag) {items : List Value}
    (h : index < items.length) :
    OnePart [.item field.name index, .field "content"] fun new =>
      kindPieces (Entries.put field.name
        (.list (items.set index (.object (Entries.put "content" new fields)))) entries) tag := by
  cases field with
  | cases =>
      obtain rfl | rfl := own
      · refine onePart_list h
          (onePart_case (checkCaseCount (Entries.getD fields "count")) fun new => ?_)
        rw [countCasePieces, getD_put_of_ne (by decide)]
      · refine onePart_list h (onePart_case (if (Entries.getD fields "value").isNull then
          found .caseWithoutValue else .ok []) fun new => ?_)
        rw [valueCasePieces, getD_put_of_ne (by decide)]
  | options =>
      obtain rfl := own
      refine onePart_list h (onePart_case
        (below (.field "weight") (checkWeight (Entries.getD fields "weight"))) fun new => ?_)
      rw [optionPieces, getD_put_of_ne (by decide)]

end Slots

/-! ## The pieces of a node -/

section Nodes

variable {entries : Entries} {tag : ContentTag} {part : Value}

section Put

variable {field : String} {write : Value → Value} {place : List PlaceStep}
  (hwrite : ∀ new : Value, new.isNull = false → (write new).isNull = false)
include hwrite

/-- A field with nodes was put there that does not belong to the kind. -/
theorem steady_kind (hfield : field ∈ "parts" :: childFields.map Prod.fst) :
    Steady fun new => kindPieces (Entries.put field (write new) entries) tag :=
  steady_of_congr fun new other hnew hother =>
    kindPieces_put (hwrite new hnew) (hwrite other hother) hfield tag

variable (kind : ContentTag.ofValue? (Entries.getD entries "type") = some tag)
include kind

/-- A field was put there: the kind is the same, and so are the fields that are missing. -/
theorem onePart_put (hfield : field ≠ "type")
    (hrest : OnePart place fun new =>
      childrenPieces (Entries.put field (write new) entries) ++
        (listPieces (Entries.put field (write new) entries) "parts" wholePieces ++
          kindPieces (Entries.put field (write new) entries) tag)) :
    OnePart place fun new => nodePieces (.object (Entries.put field (write new) entries)) := by
  have hmissing : Steady fun new =>
      [.own (missingFields (Entries.put field (write new) entries) tag)] :=
    steady_of_congr fun new other hnew hother => by
      rw [missingFields_put (hwrite new hnew) (hwrite other hother)]
  refine (OnePart.append_left hmissing hrest).congr fun new _ => nodePieces_of_kind ?_
  rwa [getD_put_of_ne hfield.symm]

/-- A list of the kind was put there. -/
theorem onePart_put_of_kind (hfield : field ∉ "type" :: "parts" :: childFields.map Prod.fst)
    (hkind : OnePart place fun new => kindPieces (Entries.put field (write new) entries) tag) :
    OnePart place fun new => nodePieces (.object (Entries.put field (write new) entries)) := by
  have htype := List.ne_of_not_mem_cons hfield
  have hrest := List.not_mem_of_not_mem_cons hfield
  have hparts := List.ne_of_not_mem_cons hrest
  have hchildren := List.not_mem_of_not_mem_cons hrest
  refine onePart_put hwrite kind htype (OnePart.append_left
    ⟨childrenPieces entries, fun new _ => childrenPieces_put_of_notMem hchildren⟩
    (OnePart.append_left ⟨listPieces entries "parts" wholePieces, fun new _ => ?_⟩ hkind))
  exact listPieces_put_of_ne (Ne.symm hparts) wholePieces

end Put

/-- **The node in a slot is one piece of the check, and no other piece depends on it.** -/
theorem onePart_node {slot : NodeSlot}
    (kind : ContentTag.ofValue? (Entries.getD entries "type") = some tag)
    (own : slot.IsChecked tag) (there : (Value.object entries).at? slot.steps = some part) :
    OnePart slot.place fun new => nodePieces ((Value.object entries).withAt slot.steps new) := by
  cases slot with
  | single field =>
      simp only [NodeSlot.withAt_single]
      have hmem : field.name ∈ "parts" :: childFields.map Prod.fst := by cases field <;> decide
      have hparts : Steady fun new =>
          listPieces (Entries.put field.name new entries) "parts" wholePieces :=
        ⟨_, fun new _ => listPieces_put_of_ne (by cases field <;> decide) wholePieces⟩
      exact onePart_put (fun _ hnew => hnew) kind (by cases field <;> decide)
        ((onePart_children field).append_right
          (hparts.append (steady_kind (fun _ hnew => hnew) hmem)))
  | item field index =>
      obtain ⟨items, hlist, hitem⟩ := NodeSlot.at?_item.mp there
      obtain ⟨hindex, -⟩ := List.getElem?_eq_some_iff.mp hitem
      simp only [NodeSlot.withAt_item hlist hitem]
      cases field with
      | parts =>
          have hchildren : Steady fun new =>
              childrenPieces (Entries.put "parts" (.list (items.set index new)) entries) :=
            ⟨_, fun new _ => childrenPieces_put_of_notMem (by decide)⟩
          exact onePart_put (fun _ _ => rfl) kind (by decide) (OnePart.append_left hchildren
            ((onePart_list hindex onePart_single).append_right
              (steady_kind (fun _ _ => rfl) List.mem_cons_self)))
      | candidates =>
          exact onePart_put_of_kind (fun _ _ => rfl) kind (by decide)
            (onePart_candidates own hindex)
  | case field index =>
      obtain ⟨items, fields, hlist, hcase, -⟩ := NodeSlot.at?_case.mp there
      obtain ⟨hindex, -⟩ := List.getElem?_eq_some_iff.mp hcase
      simp only [NodeSlot.withAt_case hlist hcase]
      exact onePart_put_of_kind (fun _ _ => rfl) kind (by cases field <;> decide)
        (onePart_cases own hindex)

end Nodes

end PromptTree
