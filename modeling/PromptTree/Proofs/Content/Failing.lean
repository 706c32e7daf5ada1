import PromptTree.Proofs.Content.Messages

/-!
# What the check of a node fails at

The check of a document is made for documents of any shape: whatever stands in a field is a
problem, or it is none.  There are two exceptions.  The count of a case is looked up among words,
and a list or an object cannot be looked up; and the message of a problem may show what cannot be
written.

**At a node by itself the check fails at these values, and at nothing else** (`fails_node`).

## Main Definitions

* `Fails` — pieces among which there is a failure.
* `ContentTag.silent` — kinds of nodes about which nothing is shown.
-/

namespace PromptTree

open Findings

/-- The failure is among the pieces. -/
def Fails (pieces : List Piece) (failure : Failure) : Prop :=
  .own (.error failure) ∈ pieces

/-! ## Pieces -/

section Pieces

variable {entries : Entries} {findings : Findings} {pieces more : List Piece} {v : Value}
  {failure : Failure}

theorem fails_own : Fails [.own findings] failure ↔ findings = .error failure := by
  rw [Fails, List.mem_singleton, Piece.own.injEq, eq_comm]

theorem not_fails_part {place : List PlaceStep} : ¬Fails [.part place v] failure := by
  rw [Fails, List.mem_singleton]
  exact nofun

theorem fails_append : Fails (pieces ++ more) failure ↔ Fails pieces failure ∨ Fails more failure :=
  List.mem_append

theorem fails_flatten {groups : List (List Piece)} :
    Fails groups.flatten failure ↔ ∃ group ∈ groups, Fails group failure :=
  List.mem_flatten

theorem fails_below {step : PlaceStep} :
    Fails (piecesBelow step pieces) failure ↔ Fails pieces failure := by
  refine ⟨fun h => ?_, fun h => List.mem_map.mpr ⟨_, h, rfl⟩⟩
  obtain ⟨piece, hpiece, heq⟩ := List.mem_map.mp h
  cases piece with
  | part place v => cases heq
  | own findings =>
      obtain rfl : findings = .error failure := below_eq_error.mp (Piece.own.inj heq)
      exact hpiece

/-- A list fails in its items. -/
theorem fails_list {name : String} {inner : Value → List Piece} :
    Fails (listPieces entries name inner) failure ↔
      ∃ v ∈ (listField entries name).1, Fails (inner v) failure := by
  have hitems : ∀ (items : List Value) index,
      Fails (itemPieces name inner index items).flatten failure ↔
        ∃ v ∈ items, Fails (inner v) failure := by
    intro items
    induction items with
    | nil =>
        intro index
        exact ⟨nofun, nofun⟩
    | cons v rest ih =>
        intro index
        rw [itemPieces, fails_flatten, List.exists_mem_cons_iff, fails_below, ← fails_flatten, ih,
          List.exists_mem_cons_iff]
  have hfield : ¬Fails [.own (listField entries name).2] failure := by
    rw [fails_own, listField]
    split
    · exact ok_ne_error
    · exact ok_ne_error
    · exact foundAt_ne_error
  rw [listPieces, fails_flatten, List.exists_mem_cons_iff, ← fails_flatten, hitems]
  exact or_iff_right hfield

theorem not_fails_whole {name : String} : ¬Fails (listPieces entries name wholePieces) failure := by
  rw [fails_list]
  exact fun ⟨_, _, hfails⟩ => not_fails_part hfails

theorem not_fails_content : ¬Fails (contentPieces entries) failure := by
  unfold contentPieces
  split
  · exact mt fails_own.mp found_ne_error
  · exact not_fails_part

theorem not_fails_children : ¬Fails (childrenPieces entries) failure := by
  rw [childrenPieces, fails_flatten]
  rintro ⟨group, hgroup, hfails⟩
  obtain ⟨field, -, rfl⟩ := List.mem_map.mp hgroup
  simp only [childPieces] at hfails
  split at hfails
  · cases hfails
  · exact not_fails_part hfails

/-- A case or an option fails in its label. -/
theorem fails_labelled {label : Findings} :
    Fails (.own label :: contentPieces entries) failure ↔ label = .error failure := by
  rw [← List.singleton_append, fails_append, fails_own]
  exact or_iff_left not_fails_content

theorem fails_countCase :
    Fails (countCasePieces v) failure ↔
      ∃ fields, v = .object fields ∧
        checkCaseCount (Entries.getD fields "count") = .error failure := by
  cases v with
  | object fields => simp [countCasePieces, fails_labelled]
  | _ => simp [countCasePieces, fails_own, found_ne_error]

theorem not_fails_valueCase : ¬Fails (valueCasePieces v) failure := by
  cases v with
  | object fields =>
      rw [valueCasePieces, fails_labelled]
      exact ite_ne_error found_ne_error ok_ne_error
  | _ => exact mt fails_own.mp found_ne_error

theorem fails_option :
    Fails (optionPieces v) failure ↔
      ∃ fields, v = .object fields ∧
        checkWeight (Entries.getD fields "weight") = .error failure := by
  cases v with
  | object fields => simp [optionPieces, fails_labelled, below_eq_error]
  | _ => simp [optionPieces, fails_own, found_ne_error]

theorem checkSources_ne_error : checkSources entries ≠ .error failure := by
  unfold checkSources
  dsimp only
  split
  · exact found_ne_error
  · exact ok_ne_error
  · exact found_ne_error

/-! ## What only nodes of a kind have -/

/-- The kinds of nodes about which nothing is shown. -/
def ContentTag.silent : List ContentTag :=
  [.text, .variable, .sectionRef, .composite, .list, .context, .plural, .switch, .randomValue]

theorem not_fails_silent {tag : ContentTag} (h : tag ∈ ContentTag.silent) :
    ¬Fails (kindPieces entries tag) failure := by
  cases tag with
  | text | «variable» | sectionRef | composite | list | context | plural => exact List.not_mem_nil
  | switch =>
      rw [kindPieces, fails_list]
      rintro ⟨v, -, hfails⟩
      exact not_fails_valueCase hfails
  | randomValue =>
      rw [kindPieces, fails_own]
      exact checkSources_ne_error
  | _ => exact absurd h (by decide)

theorem fails_countSwitch :
    Fails (kindPieces entries .countSwitch) failure ↔
      (∃ fields, .object fields ∈ (listField entries "cases").1 ∧
        ∃ kind, unhashable? (Entries.getD fields "count") = some kind ∧
          failure = .unhashable kind) ∨
      ∃ shown, KindShows .countSwitch entries shown ∧ shown.writing = .error failure := by
  simp only [kindPieces, fails_list, fails_countCase, checkCaseCount_eq_error]
  constructor
  · rintro ⟨_, hcase, fields, rfl, ⟨kind, hkind, rfl⟩ | ⟨hhashable, hno, hunknown, hlong⟩⟩
    · exact .inl ⟨fields, hcase, kind, hkind, rfl⟩
    · exact .inr ⟨_, .caseCount hcase hhashable hno hunknown, hlong⟩
  · rintro (⟨fields, hcase, hkind⟩ | ⟨shown, hshown, hlong⟩)
    · exact ⟨_, hcase, fields, rfl, .inl hkind⟩
    · cases hshown with
      | caseCount hcase hhashable hno hunknown =>
          exact ⟨_, hcase, _, rfl, .inr ⟨hhashable, hno, hunknown, hlong⟩⟩

theorem fails_conditional :
    Fails (kindPieces entries .conditional) failure ↔
      ∃ shown, KindShows .conditional entries shown ∧ shown.writing = .error failure := by
  have hcondition : Fails (kindPieces entries .conditional) failure ↔
      checkCondition (Entries.getD entries "condition") = .error failure := by
    simp only [kindPieces]
    split
    · rename_i hnull
      rw [hnull]
      exact iff_of_false (List.not_mem_nil) found_ne_error
    · rw [fails_own, below_eq_error]
  rw [hcondition, checkCondition, checkConditionWithin_eq_error (Nat.lt_succ_self _)]
  constructor
  · rintro ⟨shown, hshown, hlong⟩
    exact ⟨shown, .operator hshown, hlong⟩
  · rintro ⟨shown, hshown, hlong⟩
    cases hshown with
    | operator hcondition => exact ⟨shown, hcondition, hlong⟩

theorem fails_article :
    Fails (kindPieces entries .article) failure ↔
      ∃ shown, KindShows .article entries shown ∧ shown.writing = .error failure := by
  rw [kindPieces, fails_own, checkArticle_eq_error]
  constructor
  · rintro ⟨hgiven, hunknown, hlong⟩
    exact ⟨_, .style hgiven hunknown, hlong⟩
  · rintro ⟨shown, hshown, hlong⟩
    cases hshown with
    | style hgiven hunknown => exact ⟨hgiven, hunknown, hlong⟩

theorem fails_weightedPick :
    Fails (kindPieces entries .weightedPick) failure ↔
      ∃ shown, KindShows .weightedPick entries shown ∧ shown.writing = .error failure := by
  simp only [kindPieces, fails_list, fails_option, checkWeight_eq_error]
  constructor
  · rintro ⟨_, hoption, fields, rfl, hfaulty, hlong⟩
    exact ⟨_, .optionWeight hoption hfaulty, hlong⟩
  · rintro ⟨shown, hshown, hlong⟩
    cases hshown with
    | optionWeight hoption hfaulty => exact ⟨_, hoption, _, rfl, hfaulty, hlong⟩

theorem fails_pickOne :
    Fails (kindPieces entries .pickOne) failure ↔
      ∃ shown, KindShows .pickOne entries shown ∧ shown.writing = .error failure := by
  rw [kindPieces, fails_append, or_iff_right not_fails_whole, fails_own, checkWeights_eq_error]
  constructor
  · rintro ⟨_, hlist, w, hw, hfaulty, hlong⟩
    exact ⟨w, .weight hlist hw hfaulty, hlong⟩
  · rintro ⟨w, hshown, hlong⟩
    cases hshown with
    | weight hlist hw hfaulty => exact ⟨_, hlist, w, hw, hfaulty, hlong⟩

theorem fails_pickMany :
    Fails (kindPieces entries .pickMany) failure ↔
      ∃ shown, KindShows .pickMany entries shown ∧ shown.writing = .error failure := by
  rw [kindPieces, fails_append, or_iff_right not_fails_whole, fails_own, checkPickCount_eq_error]
  constructor
  · rintro (⟨hgiven, hfixed, hfaulty, hlong⟩ |
      ⟨bounds, low, high, bound, hcount, hmin, hmax, hnot, hreversed, heither, hlong⟩)
    · exact ⟨_, .pickCount hgiven hfixed hfaulty, hlong⟩
    · exact ⟨_, .range hcount hmin hmax hnot hreversed heither, hlong⟩
  · rintro ⟨shown, hshown, hlong⟩
    cases hshown with
    | pickCount hgiven hfixed hfaulty => exact .inl ⟨hgiven, hfixed, hfaulty, hlong⟩
    | range hcount hmin hmax hnot hreversed heither =>
        exact .inr ⟨_, _, _, _, hcount, hmin, hmax, hnot, hreversed, heither, hlong⟩

theorem fails_shuffle :
    Fails (kindPieces entries .shuffle) failure ↔
      ∃ shown, KindShows .shuffle entries shown ∧ shown.writing = .error failure := by
  rw [kindPieces, fails_own, checkShuffleCount_eq_error]
  constructor
  · rintro ⟨hgiven, hfaulty, hlong⟩
    exact ⟨_, .shuffleCount hgiven hfaulty, hlong⟩
  · rintro ⟨shown, hshown, hlong⟩
    cases hshown with
    | shuffleCount hgiven hfaulty => exact ⟨hgiven, hfaulty, hlong⟩

/-- **What only nodes of a kind have fails** in the counts of cases that cannot be looked up, and
in what is shown and cannot be written. -/
theorem fails_kind {tag : ContentTag} :
    Fails (kindPieces entries tag) failure ↔
      (tag = .countSwitch ∧ ∃ fields, .object fields ∈ (listField entries "cases").1 ∧
        ∃ kind, unhashable? (Entries.getD fields "count") = some kind ∧
          failure = .unhashable kind) ∨
      ∃ shown, KindShows tag entries shown ∧ shown.writing = .error failure := by
  -- only a choice by count looks anything up
  by_cases hchoice : tag = .countSwitch
  · subst hchoice
    rw [fails_countSwitch, eq_self, true_and]
  · rw [or_iff_right (mt And.left hchoice)]
    cases tag with
    | countSwitch => exact absurd rfl hchoice
    | conditional => exact fails_conditional
    | article => exact fails_article
    | weightedPick => exact fails_weightedPick
    | pickOne => exact fails_pickOne
    | pickMany => exact fails_pickMany
    | shuffle => exact fails_shuffle
    | _ =>
        refine iff_of_false (not_fails_silent (by decide)) ?_
        rintro ⟨shown, hshown, -⟩
        cases hshown

/-! ## Nodes -/

/-- A node of a known kind fails in what only nodes of the kind have: of the four groups of its
pieces the first three are the same for all kinds, and they do not fail. -/
theorem fails_known {tag : ContentTag}
    (htag : ContentTag.ofValue? (Entries.getD entries "type") = some tag) :
    Fails (nodePieces (.object entries)) failure ↔ Fails (kindPieces entries tag) failure := by
  simp only [nodePieces, htag, fails_flatten, List.exists_mem_cons_iff, fails_own, missingFields,
    ok_ne_error, not_fails_children, not_fails_whole, false_or, List.not_mem_nil, false_and,
    exists_false, or_false]

/-- A node of no known kind fails in its kind. -/
theorem fails_unknown (htag : ContentTag.ofValue? (Entries.getD entries "type") = none) :
    Fails (nodePieces (.object entries)) failure ↔
      (Entries.getD entries "type").writing = .error failure := by
  simp only [nodePieces, htag, fails_own, showing_eq_error found_ne_error]

/-- **A node fails in the counts of its cases and in what is shown about it**, and in nothing
else. -/
theorem fails_node :
    Fails (nodePieces v) failure ↔
      (∃ count kind, CountOf v count ∧ unhashable? count = some kind ∧
        failure = .unhashable kind) ∨
      ∃ shown, Shows v shown ∧ shown.writing = .error failure := by
  cases v with
  | object entries =>
      cases htag : ContentTag.ofValue? (Entries.getD entries "type") with
      | none =>
          rw [fails_unknown htag]
          constructor
          · exact fun hlong => .inr ⟨_, .type htag, hlong⟩
          · rintro (⟨_, _, ⟨hchoice, -⟩, -⟩ | ⟨shown, hshows, hlong⟩)
            · rw [htag] at hchoice
              cases hchoice
            · cases hshows with
              | type _ => exact hlong
              | field hknown _ =>
                  rw [htag] at hknown
                  cases hknown
      | some tag =>
          rw [fails_known htag, fails_kind]
          constructor
          · rintro (⟨rfl, fields, hcase, kind, hkind, rfl⟩ | ⟨shown, hshows, hlong⟩)
            · exact .inl ⟨_, kind, .case htag hcase, hkind, rfl⟩
            · exact .inr ⟨shown, .field htag hshows, hlong⟩
          · rintro (⟨_, kind, ⟨hchoice, hcase⟩, hkind, hfailure⟩ | ⟨shown, hshows, hlong⟩)
            · rw [htag] at hchoice
              exact .inl ⟨Option.some_inj.mp hchoice, _, hcase, kind, hkind, hfailure⟩
            · cases hshows with
              | type hunknown =>
                  rw [htag] at hunknown
                  cases hunknown
              | field hknown hfield =>
                  rw [htag] at hknown
                  cases hknown
                  exact .inr ⟨shown, hfield, hlong⟩
  | _ =>
      refine iff_of_false (mt fails_own.mp found_ne_error) ?_
      rintro (⟨_, _, hcount, -⟩ | ⟨_, hshows, -⟩)
      · cases hcount
      · cases hshows

end Pieces

end PromptTree
