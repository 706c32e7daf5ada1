import Mathlib.Data.List.Basic
import PromptTree.Content.Check

/-!
# The pieces of a check

What is found at a node of a document is put together from pieces: findings about the node
itself, and the checks of nodes below it, each at its place.  `nodePieces` lists them, in
the order in which they are reported, and `checkNodeWith_eq_collect` says that nothing else
goes into the check.

The pieces do not know how nodes are checked.  So the places of the nodes right below a
node can be read off them, and whatever is to be shown of a check falls into two parts that
do not meet: what the findings about a single node are like, and which nodes are checked.

## Main Definitions

* `Piece` — findings of a node, or a node below it and its place.
* `collect` — the findings of pieces, given the check of nodes.
* `nodePieces` — the pieces of the check of a node.
* `documents` — the nodes that are checked with pieces.
-/

namespace PromptTree

/-! ## Gathering -/

namespace Findings

variable (step : PlaceStep) (first : Findings) (findings more : List Findings)

theorem gather_cons :
    gather (first :: findings) =
      first.bind fun problems => (gather findings).map (problems ++ ·) := by
  cases first with
  | ok problems => rfl
  | error failure => rfl

theorem gather_singleton : gather [first] = first := by
  cases first with
  | ok problems => exact congrArg Except.ok (List.append_nil problems)
  | error failure => rfl

/-- What was gathered may be gathered with the rest. -/
theorem gather_gather_cons : gather (gather findings :: more) = gather (findings ++ more) := by
  induction findings with
  | nil =>
      rw [gather_cons, gather, List.nil_append]
      cases gather more with
      | ok problems => rfl
      | error failure => rfl
  | cons first rest ih =>
      rw [List.cons_append, gather_cons first (rest ++ more), ← ih, gather_cons first rest]
      cases first with
      | error failure => rfl
      | ok problems =>
          cases hrest : gather rest with
          | error failure => rfl
          | ok others =>
              rw [Except.bind, Except.map, gather_cons, gather_cons]
              cases gather more with
              | error failure => rfl
              | ok last => exact congrArg Except.ok (List.append_assoc problems others last)

theorem below_gather : below step (gather findings) = gather (findings.map (below step)) := by
  induction findings with
  | nil => rfl
  | cons first rest ih =>
      rw [List.map_cons, gather_cons, gather_cons, ← ih]
      cases first with
      | error failure => rfl
      | ok problems =>
          cases gather rest with
          | error failure => rfl
          | ok others => exact congrArg Except.ok (List.map_append ..)

end Findings

open Findings

/-! ## Pieces -/

/-- A piece of the check of a node: findings, or a node below it and its place. -/
inductive Piece where
  | own (findings : Findings)
  | part (place : List PlaceStep) (v : Value)

namespace Piece

/-- The piece as part of the check of the node above. -/
def below (step : PlaceStep) : Piece → Piece
  | own findings => own (findings.below step)
  | part place v => part (step :: place) v

/-- The findings of a piece. -/
def findings (node : Value → Findings) : Piece → Findings
  | own findings => findings
  | part place v => place.foldr Findings.below (node v)

/-- The node that is checked, if the piece is one. -/
def document? : Piece → Option Value
  | own _ => none
  | part _ v => some v

theorem findings_below (node : Value → Findings) (step : PlaceStep) (piece : Piece) :
    (piece.below step).findings node = (piece.findings node).below step := by
  cases piece with
  | own _ => rfl
  | part _ _ => rfl

theorem document?_below (step : PlaceStep) (piece : Piece) :
    (piece.below step).document? = piece.document? := by
  cases piece with
  | own _ => rfl
  | part _ _ => rfl

end Piece

/-- The findings of pieces. -/
def collect (node : Value → Findings) (pieces : List Piece) : Findings :=
  gather (pieces.map (·.findings node))

/-- The nodes that are checked with pieces. -/
def documents (pieces : List Piece) : List Value :=
  pieces.filterMap Piece.document?

/-- Every piece as part of the check of the node above. -/
def piecesBelow (step : PlaceStep) (pieces : List Piece) : List Piece :=
  pieces.map (.below step)

section Collect

variable (node : Value → Findings) (step : PlaceStep)

theorem collect_own (findings : Findings) : collect node [.own findings] = findings :=
  gather_singleton findings

theorem collect_part (place : List PlaceStep) (v : Value) :
    collect node [.part place v] = place.foldr Findings.below (node v) :=
  gather_singleton _

/-- Groups of pieces are gathered one after the other. -/
theorem gather_map_collect (groups : List (List Piece)) :
    gather (groups.map (collect node)) = collect node groups.flatten := by
  induction groups with
  | nil => rfl
  | cons pieces rest ih =>
      rw [List.map_cons, gather_cons, ih, List.flatten_cons, collect, collect, collect,
        List.map_append, ← gather_gather_cons, gather_cons]

theorem below_collect (pieces : List Piece) :
    (collect node pieces).below step = collect node (piecesBelow step pieces) := by
  rw [collect, below_gather, collect, piecesBelow, List.map_map, List.map_map]
  exact congrArg gather (List.map_congr_left fun piece _ => (piece.findings_below node step).symm)

end Collect

/-! ## The pieces of lists -/

/-- The pieces of items, each below its own step. -/
def itemPieces (label : String) (inner : Value → List Piece) (index : Nat) :
    List Value → List (List Piece)
  | [] => []
  | v :: rest =>
    piecesBelow (.item label index) (inner v) :: itemPieces label inner (index + 1) rest

/-- The pieces of a field that holds a list. -/
def listPieces (entries : Entries) (name : String) (inner : Value → List Piece) : List Piece :=
  ([.own (listField entries name).2] :: itemPieces name inner 0 (listField entries name).1).flatten

section Lists

variable {node check : Value → Findings} {inner : Value → List Piece}
  (h : ∀ v, check v = collect node (inner v))
include h

theorem checkItems_eq_collect (label : String) (index : Nat) (items : List Value) :
    checkItems label check index items =
      (itemPieces label inner index items).map (collect node) := by
  induction items generalizing index with
  | nil => rfl
  | cons v rest ih => rw [checkItems, itemPieces, List.map_cons, ih, h v, below_collect]

theorem checkListField_eq_collect (entries : Entries) (name : String) :
    checkListField entries name check = collect node (listPieces entries name inner) := by
  rw [listPieces, ← gather_map_collect, List.map_cons, collect_own, ← checkItems_eq_collect h]
  rfl

end Lists

/-! ## The pieces of nodes -/

/-- The only piece of a node that stands by itself. -/
def wholePieces (v : Value) : List Piece :=
  [.part [] v]

/-- The content of a case or an option, if it is there. -/
def contentPieces (entries : Entries) : List Piece :=
  match Entries.getD entries "content" with
  | .null => [.own (found .withoutContent)]
  | v => [.part [.field "content"] v]

/-- The pieces of a case of a choice by count. -/
def countCasePieces (v : Value) : List Piece :=
  match v with
  | .object entries =>
    .own (checkCaseCount (Entries.getD entries "count")) :: contentPieces entries
  | _ => [.own (found .caseNotObject)]

/-- The pieces of a case of a choice by value. -/
def valueCasePieces (v : Value) : List Piece :=
  match v with
  | .object entries =>
    .own (if (Entries.getD entries "value").isNull then found .caseWithoutValue else .ok []) ::
      contentPieces entries
  | _ => [.own (found .caseNotObject)]

/-- The pieces of an option with a weight. -/
def optionPieces (v : Value) : List Piece :=
  match v with
  | .object entries =>
    .own (below (.field "weight") (checkWeight (Entries.getD entries "weight"))) ::
      contentPieces entries
  | _ => [.own (found .optionNotObject)]

/-- The pieces that only a node of a kind can have. -/
def kindPieces (entries : Entries) : ContentTag → List Piece
  | .conditional =>
    match Entries.getD entries "condition" with
    | .null => []
    | v => [.own (below (.field "condition") (checkCondition v))]
  | .article => [.own (checkArticle entries)]
  | .countSwitch => listPieces entries "cases" countCasePieces
  | .switch => listPieces entries "cases" valueCasePieces
  | .pickOne =>
    listPieces entries "candidates" wholePieces ++
      [.own (checkWeights (listField entries "candidates").1.length
        (Entries.getD entries "weights"))]
  | .pickMany =>
    listPieces entries "candidates" wholePieces ++
      [.own (checkPickCount (Entries.getD entries "count"))]
  | .randomValue => [.own (checkSources entries)]
  | .weightedPick => listPieces entries "options" optionPieces
  | .shuffle => [.own (checkShuffleCount (Entries.getD entries "count"))]
  | _ => []

/-- A single node in a field, if it is there. -/
def childPieces (entries : Entries) (field label : String) : List Piece :=
  match Entries.getD entries field with
  | .null => []
  | v => [.part [.field label] v]

/-- The single nodes in the fields that may hold one. -/
def childrenPieces (entries : Entries) : List Piece :=
  (childFields.map fun (field, label) => childPieces entries field label).flatten

/-- The fields that a node of a kind has to have and has not. -/
def missingFields (entries : Entries) (tag : ContentTag) : Findings :=
  .ok ((tag.requiredFields.filter fun name => (Entries.getD entries name).isNull).map
    fun name => .here (.missingField tag.name name))

/-- The pieces of the check of a node. -/
def nodePieces (v : Value) : List Piece :=
  match v with
  | .object entries =>
    match ContentTag.ofValue? (Entries.getD entries "type") with
    | none =>
      let type := Entries.getD entries "type"
      [.own (showing type (found (.unknownType type.plain)))]
    | some tag =>
      [[.own (missingFields entries tag)], childrenPieces entries,
        listPieces entries "parts" wholePieces, kindPieces entries tag].flatten
  | v => [.own (found (.nodeNotObject v.kindName))]

section Nodes

variable (node : Value → Findings)

theorem eq_collect_whole (v : Value) : node v = collect node (wholePieces v) :=
  (collect_part node [] v).symm

theorem checkCaseContent_eq_collect (entries : Entries) :
    checkCaseContent node entries = collect node (contentPieces entries) := by
  unfold checkCaseContent contentPieces
  cases Entries.getD entries "content" with
  | null => exact (collect_own node (found .withoutContent)).symm
  | _ => exact (collect_part node [.field "content"] _).symm

/-- A finding before pieces. -/
private theorem gather_own_collect (findings : Findings) (pieces : List Piece) :
    gather [findings, collect node pieces] = collect node (.own findings :: pieces) := by
  have hgroups := gather_map_collect node [[.own findings], pieces]
  rwa [List.map_cons, List.map_singleton, collect_own, List.flatten_cons,
    List.flatten_singleton] at hgroups

/-- A finding after pieces. -/
private theorem gather_collect_own (pieces : List Piece) (findings : Findings) :
    gather [collect node pieces, findings] = collect node (pieces ++ [.own findings]) := by
  have hgroups := gather_map_collect node [pieces, [.own findings]]
  rwa [List.map_cons, List.map_singleton, collect_own, List.flatten_cons,
    List.flatten_singleton] at hgroups

theorem checkCountCase_eq_collect (v : Value) :
    checkCountCase node v = collect node (countCasePieces v) := by
  cases v with
  | object entries =>
      rw [checkCountCase, checkCaseContent_eq_collect]
      exact gather_own_collect node _ _
  | _ => exact (collect_own node _).symm

theorem checkValueCase_eq_collect (v : Value) :
    checkValueCase node v = collect node (valueCasePieces v) := by
  cases v with
  | object entries =>
      rw [checkValueCase, checkCaseContent_eq_collect]
      exact gather_own_collect node _ _
  | _ => exact (collect_own node _).symm

theorem checkOption_eq_collect (v : Value) :
    checkOption node v = collect node (optionPieces v) := by
  cases v with
  | object entries =>
      rw [checkOption, checkCaseContent_eq_collect]
      exact gather_own_collect node _ _
  | _ => exact (collect_own node _).symm

theorem checkKind_eq_collect (entries : Entries) (tag : ContentTag) :
    checkKind node entries tag = collect node (kindPieces entries tag) := by
  cases tag with
  | conditional =>
      simp only [checkKind, kindPieces]
      cases Entries.getD entries "condition" with
      | null => rfl
      | _ => exact (collect_own node (below (.field "condition") (checkCondition _))).symm
  | article | randomValue | shuffle => exact (collect_own node _).symm
  | countSwitch => exact checkListField_eq_collect (checkCountCase_eq_collect node) entries "cases"
  | switch => exact checkListField_eq_collect (checkValueCase_eq_collect node) entries "cases"
  | weightedPick => exact checkListField_eq_collect (checkOption_eq_collect node) entries "options"
  | pickOne | pickMany =>
      simp only [checkKind, checkListField_eq_collect (eq_collect_whole node)]
      exact gather_collect_own node _ _
  | _ => rfl

theorem checkChild_eq_collect (entries : Entries) (field label : String) :
    checkChild node entries field label = collect node (childPieces entries field label) := by
  unfold checkChild childPieces
  cases Entries.getD entries field with
  | null => rfl
  | _ => exact (collect_part node [.field label] _).symm

theorem gather_checkChild_eq_collect (entries : Entries) :
    gather (childFields.map fun (field, label) => checkChild node entries field label) =
      collect node (childrenPieces entries) := by
  rw [childrenPieces, ← gather_map_collect, List.map_map]
  refine congrArg gather (List.map_congr_left fun field _ => ?_)
  exact checkChild_eq_collect node entries field.1 field.2

/-- **The check of a node is put together from its pieces.** -/
theorem checkNodeWith_eq_collect (v : Value) :
    checkNodeWith node v = collect node (nodePieces v) := by
  cases v with
  | object entries =>
      cases htag : ContentTag.ofValue? (Entries.getD entries "type") with
      | none =>
          simp only [checkNodeWith, nodePieces, htag]
          exact (collect_own node _).symm
      | some tag =>
          have hpieces := gather_map_collect node [[.own (missingFields entries tag)],
            childrenPieces entries, listPieces entries "parts" wholePieces,
            kindPieces entries tag]
          simp only [List.map_cons, List.map_nil, collect_own] at hpieces
          simp only [checkNodeWith, nodePieces, htag]
          rw [← hpieces, ← checkKind_eq_collect, ← gather_checkChild_eq_collect,
            ← checkListField_eq_collect (eq_collect_whole node)]
          rfl
  | _ => exact (collect_own node _).symm

end Nodes

/-! ## The nodes that are checked -/

section Documents

theorem documents_flatten (groups : List (List Piece)) :
    documents groups.flatten = groups.flatMap documents := by
  rw [documents, List.filterMap_flatten, List.flatMap_def]
  rfl

theorem documents_piecesBelow (step : PlaceStep) (pieces : List Piece) :
    documents (piecesBelow step pieces) = documents pieces := by
  rw [documents, piecesBelow, List.filterMap_map]
  exact List.filterMap_congr fun piece _ => piece.document?_below step

/-- Findings go into no node. -/
theorem documents_append_own (pieces : List Piece) (findings : Findings) :
    documents (pieces ++ [.own findings]) = documents pieces := by
  rw [documents, List.filterMap_append]
  exact List.append_nil _

theorem documents_list (entries : Entries) (name : String) (inner : Value → List Piece) :
    documents (listPieces entries name inner) =
      (listField entries name).1.flatMap fun v => documents (inner v) := by
  have hitems : ∀ (items : List Value) index,
      (itemPieces name inner index items).flatMap documents =
        items.flatMap fun v => documents (inner v) := by
    intro items
    induction items with
    | nil => exact fun _ => rfl
    | cons v rest ih =>
        intro index
        rw [itemPieces, List.flatMap_cons, documents_piecesBelow, ih, List.flatMap_cons]
  rw [listPieces, documents_flatten, List.flatMap_cons, hitems]
  rfl

end Documents

end PromptTree
