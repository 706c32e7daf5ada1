import Mathlib.Algebra.Ring.Nat
import Mathlib.Data.List.Perm.Basic
import PromptTree.Proofs.Answers
import PromptTree.Proofs.Content.Pieces

/-!
# Findings that are not about unknown kinds

`Findings.Reports` says how many problems with a code a check finds, if it does not fail.
Findings that are put together report what they report together, so that the numbers can be
taken from the pieces of a check (`reports_collect`).

Of the findings about a node by itself, one only is about a node of no known kind, and it
stands alone.  **All other findings are quiet about such nodes** (`quiet_nodePieces`).  When
the checks that lead to them fail is another question, and `Proofs.Content.Failing` answers it.

## Main Definitions

* `Findings.Reports` — how many problems with a code were found.
* `Findings.Quiet`, `QuietPieces` — none of them is about a node of no known kind.
-/

namespace PromptTree

open Findings

/-! ## Counting problems -/

/-- If the check does not fail, that many problems with the code were found. -/
def Findings.Reports (findings : Findings) (code : String) (n : Nat) : Prop :=
  ∀ problems, findings = .ok problems →
    problems.countP (fun problem => problem.kind.code == code) = n

namespace Findings

variable {code : String} {findings : Findings} {n m : Nat}

theorem reports_error {failure : Failure} : Reports (.error failure) code n :=
  nofun

theorem reports_nil : Reports (.ok []) code 0 := by
  rintro problems ⟨⟩
  rfl

theorem reports_found {kind : ProblemKind} (h : (kind.code == code) = false) :
    (found kind).Reports code 0 := by
  rintro problems ⟨⟩
  rw [List.countP_singleton]
  exact if_neg (Bool.eq_false_iff.mp h)

theorem Reports.below (h : findings.Reports code n) (step : PlaceStep) :
    (findings.below step).Reports code n := by
  intro problems hproblems
  obtain ⟨inner, hinner, rfl⟩ := map_eq_ok_iff.mp hproblems
  rw [List.countP_map, ← h inner hinner]
  rfl

theorem Reports.foldr_below (h : findings.Reports code n) (place : List PlaceStep) :
    (place.foldr Findings.below findings).Reports code n := by
  induction place with
  | nil => exact h
  | cons step _ ih => exact ih.below step

theorem reports_foundAt {kind : ProblemKind} (label : String) (h : (kind.code == code) = false) :
    (foundAt label kind).Reports code 0 :=
  (reports_found h).below _

/-- A value that is shown is written, or the check fails. -/
theorem Reports.showing (h : findings.Reports code n) (v : Value) :
    (findings.showing v).Reports code n := by
  intro problems hproblems
  obtain ⟨-, -, hfindings⟩ := bind_eq_ok_iff.mp hproblems
  exact h problems hfindings

theorem Reports.gather_cons {rest : List Findings} (h : findings.Reports code n)
    (hrest : (gather rest).Reports code m) : (gather (findings :: rest)).Reports code (n + m) := by
  intro all hall
  rw [Findings.gather_cons] at hall
  obtain ⟨problems, hproblems, hmore⟩ := bind_eq_ok_iff.mp hall
  obtain ⟨others, hothers, rfl⟩ := map_eq_ok_iff.mp hmore
  rw [List.countP_append, h problems hproblems, hrest others hothers]

end Findings

/-! ## Findings about other things -/

/-- The check finds no node of no known kind. -/
abbrev Findings.Quiet (findings : Findings) : Prop :=
  findings.Reports "UNKNOWN_CONTENT_TYPE" 0

namespace Findings

theorem quiet_gather_cons {first : Findings} {rest : List Findings} (h : first.Quiet)
    (hrest : (gather rest).Quiet) : (gather (first :: rest)).Quiet :=
  h.gather_cons hrest

theorem quiet_gather_pair {first second : Findings} (h : first.Quiet) (h' : second.Quiet) :
    (gather [first, second]).Quiet :=
  quiet_gather_cons h (quiet_gather_cons h' reports_nil)

/-- A choice between findings. -/
theorem quiet_ite {c : Prop} [Decidable c] {first second : Findings} (h : first.Quiet)
    (h' : second.Quiet) : (if c then first else second).Quiet := by
  split
  · exact h
  · exact h'

theorem quiet_checkItems {check : Value → Findings} {items : List Value}
    (h : ∀ v ∈ items, (check v).Quiet) (label : String) (index : Nat) :
    (gather (checkItems label check index items)).Quiet := by
  induction items generalizing index with
  | nil => exact reports_nil
  | cons v rest ih =>
      obtain ⟨hfirst, hrest⟩ := List.forall_mem_cons.mp h
      exact quiet_gather_cons (hfirst.below _) (ih hrest (index + 1))

end Findings

section Conditions

theorem quiet_checkTest (entries : Entries) : (checkTest entries).Quiet := by
  unfold checkTest
  refine quiet_gather_pair (quiet_ite reports_nil (reports_found rfl)) ?_
  split
  · exact reports_found rfl
  · split
    · exact (reports_foundAt "operator" rfl).showing _
    · exact quiet_ite (reports_found rfl) reports_nil

theorem quiet_checkJoined {part : Value → Findings} (h : ∀ v, (part v).Quiet) (key : String)
    (v : Value) : (checkJoined part key v).Quiet := by
  unfold checkJoined
  split
  · exact reports_nil
  · exact quiet_checkItems (fun v _ => h v) key 0
  · exact reports_foundAt key rfl

theorem quiet_checkConditionWith {part : Value → Findings} (h : ∀ v, (part v).Quiet) (v : Value) :
    (checkConditionWith part v).Quiet := by
  unfold checkConditionWith
  split
  · refine quiet_gather_cons (quiet_checkJoined h "and" _) ?_
    refine quiet_gather_cons (quiet_checkJoined h "or" _) (quiet_gather_pair ?_ ?_)
    · exact quiet_ite reports_nil ((h _).below _)
    · exact quiet_ite (quiet_checkTest _) reports_nil
  · exact reports_found rfl

theorem quiet_checkCondition (v : Value) : (checkCondition v).Quiet := by
  have hwithin : ∀ depth v, (checkConditionWithin depth v).Quiet := by
    intro depth
    induction depth with
    | zero => exact fun _ => reports_error
    | succ depth ih => exact quiet_checkConditionWith ih
  exact hwithin _ v

end Conditions

section Fields

theorem quiet_checkWeight (v : Value) : (checkWeight v).Quiet := by
  unfold checkWeight
  split
  · exact (reports_found rfl).showing v
  · exact quiet_ite ((reports_found rfl).showing v) reports_nil

theorem quiet_checkWeights (candidates : Nat) (v : Value) : (checkWeights candidates v).Quiet := by
  unfold checkWeights
  split
  · exact reports_nil
  · refine quiet_gather_cons (quiet_ite reports_nil (reports_foundAt "weights" rfl)) ?_
    exact quiet_checkItems (fun v _ => quiet_checkWeight v) "weights" 0
  · exact reports_foundAt "weights" rfl

theorem quiet_checkPickCount (v : Value) : (checkPickCount v).Quiet := by
  unfold checkPickCount
  split
  · exact reports_nil
  · split
    · refine quiet_ite (reports_foundAt "count" rfl) (quiet_ite ?_ reports_nil)
      exact ((reports_foundAt "count" rfl).showing _).showing _
    · exact reports_foundAt "count" rfl
  · exact quiet_ite ((reports_foundAt "count" rfl).showing _) reports_nil
  · exact (reports_foundAt "count" rfl).showing _

theorem quiet_checkShuffleCount (v : Value) : (checkShuffleCount v).Quiet := by
  unfold checkShuffleCount
  split
  · exact reports_nil
  · exact quiet_ite ((reports_foundAt "count" rfl).showing _) reports_nil
  · exact (reports_foundAt "count" rfl).showing _

theorem quiet_checkArticle (entries : Entries) : (checkArticle entries).Quiet := by
  unfold checkArticle
  refine quiet_gather_pair (quiet_ite reports_nil (reports_found rfl)) ?_
  split
  · exact reports_nil
  · exact quiet_ite reports_nil ((reports_foundAt "style" rfl).showing _)

theorem quiet_checkSources (entries : Entries) : (checkSources entries).Quiet := by
  unfold checkSources
  simp only
  split
  · exact reports_found rfl
  · exact reports_nil
  · exact reports_found rfl

theorem quiet_missingFields (entries : Entries) (tag : ContentTag) :
    (missingFields entries tag).Quiet := by
  rintro problems ⟨⟩
  refine List.countP_eq_zero.mpr fun problem hproblem => ?_
  obtain ⟨name, -, rfl⟩ := List.mem_map.mp hproblem
  exact Bool.eq_false_iff.mp rfl

theorem quiet_listField (entries : Entries) (name : String) : (listField entries name).2.Quiet := by
  unfold listField
  split
  · exact reports_nil
  · exact reports_nil
  · exact reports_foundAt name rfl

theorem quiet_checkCaseCount (v : Value) : (checkCaseCount v).Quiet := by
  unfold checkCaseCount
  split
  · exact reports_nil
  · split
    · exact reports_error
    · exact quiet_ite reports_nil ((reports_foundAt "count" rfl).showing _)

end Fields

/-! ## Findings of a node of a known kind -/

/-- None of the pieces is a finding about a node of no known kind. -/
def QuietPieces (pieces : List Piece) : Prop :=
  ∀ findings, Piece.own findings ∈ pieces → findings.Quiet

section QuietPieces

theorem quietPieces_nil : QuietPieces [] :=
  fun _ hfindings => absurd hfindings List.not_mem_nil

theorem quietPieces_own {findings : Findings} {pieces : List Piece} (h : findings.Quiet)
    (hpieces : QuietPieces pieces) : QuietPieces (.own findings :: pieces) := by
  intro other hother
  rcases List.mem_cons.mp hother with heq | hmem
  · cases heq
    exact h
  · exact hpieces other hmem

theorem quietPieces_part (place : List PlaceStep) (v : Value) :
    QuietPieces [.part place v] := by
  intro findings hfindings
  cases List.mem_singleton.mp hfindings

theorem quietPieces_flatten {groups : List (List Piece)} (h : ∀ group ∈ groups, QuietPieces group) :
    QuietPieces groups.flatten := by
  intro findings hfindings
  obtain ⟨group, hgroup, hmem⟩ := List.mem_flatten.mp hfindings
  exact h group hgroup findings hmem

theorem QuietPieces.append {pieces more : List Piece} (h : QuietPieces pieces)
    (h' : QuietPieces more) : QuietPieces (pieces ++ more) :=
  fun findings hfindings => (List.mem_append.mp hfindings).elim (h findings) (h' findings)

theorem QuietPieces.below {pieces : List Piece} (h : QuietPieces pieces) (step : PlaceStep) :
    QuietPieces (piecesBelow step pieces) := by
  intro findings hfindings
  obtain ⟨piece, hpiece, heq⟩ := List.mem_map.mp hfindings
  cases piece with
  | own inner =>
      cases heq
      exact (h inner hpiece).below step
  | part _ _ => cases heq

theorem quietPieces_list {entries : Entries} {name : String} {inner : Value → List Piece}
    (h : ∀ v ∈ (listField entries name).1, QuietPieces (inner v)) :
    QuietPieces (listPieces entries name inner) := by
  have hitems : ∀ items : List Value, (∀ v ∈ items, QuietPieces (inner v)) → ∀ index,
      ∀ group ∈ itemPieces name inner index items, QuietPieces group := by
    intro items
    induction items with
    | nil => exact fun _ _ => List.forall_mem_nil _
    | cons v rest ih =>
        intro hquiet index
        obtain ⟨hfirst, hrest⟩ := List.forall_mem_cons.mp hquiet
        exact List.forall_mem_cons.mpr ⟨hfirst.below _, ih hrest (index + 1)⟩
  refine quietPieces_flatten (List.forall_mem_cons.mpr ⟨?_, hitems _ h 0⟩)
  exact quietPieces_own (quiet_listField entries name) quietPieces_nil

theorem quietPieces_content (entries : Entries) : QuietPieces (contentPieces entries) := by
  unfold contentPieces
  split
  · exact quietPieces_own (reports_found rfl) quietPieces_nil
  · exact quietPieces_part _ _

theorem quietPieces_countCase (v : Value) : QuietPieces (countCasePieces v) := by
  unfold countCasePieces
  split
  · exact quietPieces_own (quiet_checkCaseCount _) (quietPieces_content _)
  · exact quietPieces_own (reports_found rfl) quietPieces_nil

theorem quietPieces_valueCase (v : Value) : QuietPieces (valueCasePieces v) := by
  unfold valueCasePieces
  split
  · exact quietPieces_own (quiet_ite (reports_found rfl) reports_nil) (quietPieces_content _)
  · exact quietPieces_own (reports_found rfl) quietPieces_nil

theorem quietPieces_option (v : Value) : QuietPieces (optionPieces v) := by
  unfold optionPieces
  split
  · exact quietPieces_own ((quiet_checkWeight _).below _) (quietPieces_content _)
  · exact quietPieces_own (reports_found rfl) quietPieces_nil

theorem quietPieces_kind (entries : Entries) (tag : ContentTag) :
    QuietPieces (kindPieces entries tag) := by
  have hwhole : ∀ name, QuietPieces (listPieces entries name wholePieces) :=
    fun name => quietPieces_list fun v _ => quietPieces_part [] v
  cases tag with
  | conditional =>
      simp only [kindPieces]
      split
      · exact quietPieces_nil
      · exact quietPieces_own ((quiet_checkCondition _).below _) quietPieces_nil
  | article => exact quietPieces_own (quiet_checkArticle entries) quietPieces_nil
  | randomValue => exact quietPieces_own (quiet_checkSources entries) quietPieces_nil
  | shuffle => exact quietPieces_own (quiet_checkShuffleCount _) quietPieces_nil
  | countSwitch => exact quietPieces_list fun v _ => quietPieces_countCase v
  | switch => exact quietPieces_list fun v _ => quietPieces_valueCase v
  | weightedPick => exact quietPieces_list fun v _ => quietPieces_option v
  | pickOne =>
      exact (hwhole "candidates").append (quietPieces_own (quiet_checkWeights _ _) quietPieces_nil)
  | pickMany =>
      exact (hwhole "candidates").append (quietPieces_own (quiet_checkPickCount _) quietPieces_nil)
  | text | «variable» | sectionRef | composite | list | context | plural => exact quietPieces_nil

theorem quietPieces_children (entries : Entries) : QuietPieces (childrenPieces entries) := by
  refine quietPieces_flatten fun group hgroup => ?_
  obtain ⟨field, -, rfl⟩ := List.mem_map.mp hgroup
  simp only [childPieces]
  split
  · exact quietPieces_nil
  · exact quietPieces_part _ _

/-- **Nothing is found at a node of a known kind that is about nodes of no known kind.** -/
theorem quiet_nodePieces {entries : Entries} {tag : ContentTag}
    (htag : ContentTag.ofValue? (Entries.getD entries "type") = some tag) :
    QuietPieces (nodePieces (.object entries)) := by
  simp only [nodePieces, htag]
  refine quietPieces_flatten ?_
  simp only [List.forall_mem_cons]
  refine ⟨quietPieces_own (quiet_missingFields entries tag) quietPieces_nil,
    quietPieces_children entries, quietPieces_list fun v _ => quietPieces_part [] v,
    quietPieces_kind entries tag, List.forall_mem_nil _⟩

end QuietPieces

/-- The problems of pieces are those of the nodes that are checked, if no other piece has
any. -/
theorem reports_collect {pieces : List Piece} (hquiet : QuietPieces pieces)
    {node : Value → Findings} {counts : List Nat}
    (hparts : List.Forall₂ (fun v => (node v).Reports "UNKNOWN_CONTENT_TYPE")
      (documents pieces) counts) :
    (collect node pieces).Reports "UNKNOWN_CONTENT_TYPE" counts.sum := by
  induction pieces generalizing counts with
  | nil =>
      cases hparts
      exact reports_nil
  | cons piece rest ih =>
      have hrest : QuietPieces rest := fun findings hmem =>
        hquiet findings (List.mem_cons_of_mem _ hmem)
      cases piece with
      | own findings =>
          have hown : findings.Quiet := hquiet findings List.mem_cons_self
          have hall := hown.gather_cons (ih hrest hparts)
          rwa [Nat.zero_add] at hall
      | part place v =>
          cases hparts with
          | cons hfirst hothers => exact (hfirst.foldr_below place).gather_cons (ih hrest hothers)

end PromptTree
