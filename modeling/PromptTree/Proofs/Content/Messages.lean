import Mathlib.Data.List.Basic
import PromptTree.Proofs.Answers
import PromptTree.Proofs.Content.Pieces
import PromptTree.Proofs.Schema.Reading
import PromptTree.Proofs.Value.Written

/-!
# What messages show

The message of a problem shows a value, and an integer of too many digits cannot be written.  Then
the check that found the problem fails, and what was found before is lost.  So does the check of
a case whose count cannot be looked up among words.

`Shows` says which values of a node are shown, and `CountOf` which are looked up.  For each check
of a field there is a lemma that says when it fails (`checkPickCount_eq_error` and its siblings).
Conditions may be nested, and fail at what they show at any depth
(`checkConditionWithin_eq_error`).

## Main Definitions

* `ConditionShows`, `KindShows`, `Shows` — the values in messages about a condition, about what
  only nodes of a kind have, and about a node.
* `CountOf` — the counts of the cases of a node.
-/

namespace PromptTree

open Findings

/-! ## Gathering failures -/

namespace Findings

variable {findings : Findings} {failure : Failure}

theorem below_eq_error {step : PlaceStep} :
    findings.below step = .error failure ↔ findings = .error failure :=
  map_eq_error_iff

theorem foldr_below_eq_error (place : List PlaceStep) :
    place.foldr Findings.below findings = .error failure ↔ findings = .error failure := by
  induction place with
  | nil => rfl
  | cons step _ ih => rw [List.foldr_cons, below_eq_error, ih]

/-- What fails when it is gathered, fails by itself. -/
theorem mem_of_gather_error {all : List Findings} (h : gather all = .error failure) :
    .error failure ∈ all := by
  induction all with
  | nil => cases h
  | cons first rest ih =>
      rw [gather_cons] at h
      obtain rfl | ⟨problems, -, hrest⟩ := bind_eq_error_iff.mp h
      · exact List.mem_cons_self
      · exact List.mem_cons_of_mem _ (ih (map_eq_error_iff.mp hrest))

/-- Whatever fails by itself, some failure comes first when it is gathered. -/
theorem exists_gather_error {all : List Findings} (h : .error failure ∈ all) :
    ∃ first, gather all = .error first := by
  induction all with
  | nil => cases h
  | cons first rest ih =>
      rw [gather_cons]
      cases first with
      | error other => exact ⟨other, rfl⟩
      | ok problems =>
          obtain hfirst | hrest := List.mem_cons.mp h
          · cases hfirst
          · obtain ⟨other, hother⟩ := ih hrest
            exact ⟨other, map_eq_error_iff.mpr hother⟩

theorem error_mem_checkItems {label : String} {check : Value → Findings} {index : Nat}
    {items : List Value} :
    .error failure ∈ checkItems label check index items ↔
      ∃ v ∈ items, check v = .error failure := by
  induction items generalizing index with
  | nil => simp [checkItems]
  | cons v rest ih =>
      rw [checkItems, List.mem_cons, ih, List.exists_mem_cons_iff, eq_comm, below_eq_error]

/-- Where the first of two does not fail, the second does. -/
theorem gather_pair_eq_error {first second : Findings} (h : ∀ {other}, first ≠ .error other) :
    gather [first, second] = .error failure ↔ second = .error failure := by
  cases first with
  | error other => exact absurd rfl h
  | ok problems =>
      rw [gather, gather_singleton]
      exact map_eq_error_iff

theorem ok_ne_error {problems : List Problem} : (.ok problems : Findings) ≠ .error failure :=
  nofun

theorem found_ne_error {kind : ProblemKind} : found kind ≠ .error failure :=
  nofun

theorem foundAt_ne_error {label : String} {kind : ProblemKind} :
    foundAt label kind ≠ .error failure :=
  nofun

section Choice

variable {c : Prop} [Decidable c] {first second : Findings}

theorem ite_ne_error (h : first ≠ .error failure) (h' : second ≠ .error failure) :
    (if c then first else second) ≠ .error failure := by
  split
  · exact h
  · exact h'

/-- The other one of two decides, if the first does not fail. -/
theorem ite_else_eq_error (h : first ≠ .error failure) :
    (if c then first else second) = .error failure ↔ ¬c ∧ second = .error failure := by
  split
  · rename_i hc
    exact iff_of_false h fun hnot => hnot.1 hc
  · rename_i hc
    exact (and_iff_right hc).symm

theorem ite_then_eq_error (h : second ≠ .error failure) :
    (if c then first else second) = .error failure ↔ c ∧ first = .error failure := by
  rw [← ite_not, ite_else_eq_error h, not_not]

end Choice

/-- A message fails if what it shows cannot be written. -/
theorem showing_eq_error {v : Value} (h : ∀ {other}, findings ≠ .error other) :
    showing v findings = .error failure ↔ v.writing = .error failure := by
  rw [showing, bind_eq_error_iff]
  exact or_iff_left fun ⟨_, _, hfindings⟩ => h hfindings

/-- A message that shows two values fails if either cannot be written. -/
theorem showing_pair_eq_error {v w : Value} (h : ∀ {other}, findings ≠ .error other) :
    showing v (showing w findings) = .error failure ↔
      v.writing = .error failure ∨ w.writing = .error failure := by
  rw [showing, bind_eq_error_iff]
  simp only [showing_eq_error h]
  refine or_congr_right' fun hv => ⟨fun ⟨_, _, hw⟩ => hw, fun hw => ?_⟩
  cases hwriting : v.writing with
  | ok written => exact ⟨written, rfl, hw⟩
  | error other =>
      rw [hwriting, (Value.writing_eq_error_iff.mp hwriting).2,
        (Value.writing_eq_error_iff.mp hw).2] at hv
      exact absurd rfl hv

/-- The first of some messages that fail decides, but all fail in the same way. -/
theorem gather_eq_error_iff {all : List Findings} {Shown : Value → Prop}
    (h : ∀ failure, .error failure ∈ all ↔
      ∃ shown, Shown shown ∧ shown.writing = .error failure) :
    gather all = .error failure ↔ ∃ shown, Shown shown ∧ shown.writing = .error failure := by
  refine ⟨fun hgather => (h failure).mp (mem_of_gather_error hgather), ?_⟩
  rintro ⟨shown, hshown, hfails⟩
  have hlong := (Value.writing_eq_error_iff.mp hfails).2
  obtain ⟨first, hfirst⟩ := exists_gather_error ((h failure).mpr ⟨shown, hshown, hfails⟩)
  obtain ⟨other, -, hother⟩ := (h first).mp (mem_of_gather_error hfirst)
  rw [hfirst, hlong, (Value.writing_eq_error_iff.mp hother).2]

end Findings

/-! ## Conditions -/

/-- A message about a condition shows a value: the operator of a test in it, which is not known.
What is compared when conditions are joined is not looked at. -/
inductive ConditionShows : Value → Value → Prop where
  | operator {entries : Entries}
      (alone : ∀ key ∈ ["and", "or", "not"], (Entries.getD entries key).isNull = true)
      (given : (Entries.getD entries "operator").isNull = false)
      (unknown : (Entries.getD entries "operator").str?.filter conditionOperators.contains = none) :
      ConditionShows (.object entries) (Entries.getD entries "operator")
  | joined {entries : Entries} {key : String} {parts : List Value} {part shown : Value}
      (joins : key ∈ ["and", "or"]) (list : Entries.getD entries key = .list parts)
      (there : part ∈ parts) (deeper : ConditionShows part shown) :
      ConditionShows (.object entries) shown
  | negated {entries : Entries} {shown : Value}
      (given : (Entries.getD entries "not").isNull = false)
      (deeper : ConditionShows (Entries.getD entries "not") shown) :
      ConditionShows (.object entries) shown

section Conditions

variable {failure : Failure}

theorem checkTest_eq_error {entries : Entries} :
    checkTest entries = .error failure ↔
      (Entries.getD entries "operator").isNull = false ∧
        (Entries.getD entries "operator").str?.filter conditionOperators.contains = none ∧
        (Entries.getD entries "operator").writing = .error failure := by
  rw [checkTest, gather_pair_eq_error (ite_ne_error ok_ne_error found_ne_error)]
  cases hoperator : Entries.getD entries "operator" with
  | null => exact iff_of_false nofun (fun h => Bool.noConfusion h.1)
  | _ =>
      dsimp only
      split
      · rename_i hunknown
        rw [showing_eq_error foundAt_ne_error]
        exact ⟨fun h => ⟨rfl, hunknown, h⟩, fun h => h.2.2⟩
      · rename_i name hname
        refine iff_of_false (ite_ne_error found_ne_error ok_ne_error) fun h => ?_
        rw [h.2.1] at hname
        cases hname

theorem checkJoined_eq_error {part : Value → Findings} {key : String} {v : Value}
    {Shown : Value → Value → Prop}
    (h : ∀ parts, v = .list parts → ∀ item ∈ parts, ∀ failure, part item = .error failure ↔
      ∃ shown, Shown item shown ∧ shown.writing = .error failure) :
    checkJoined part key v = .error failure ↔
      ∃ shown, (∃ parts, v = .list parts ∧ ∃ item ∈ parts, Shown item shown) ∧
        shown.writing = .error failure := by
  cases v with
  | list parts =>
      have hmem : ∀ failure, .error failure ∈ checkItems key part 0 parts ↔
          ∃ shown, (∃ others, Value.list parts = .list others ∧
            ∃ item ∈ others, Shown item shown) ∧ shown.writing = .error failure := by
        intro failure
        rw [error_mem_checkItems]
        constructor
        · rintro ⟨item, hitem, hfails⟩
          obtain ⟨shown, hshown, hlong⟩ := (h parts rfl item hitem failure).mp hfails
          exact ⟨shown, ⟨parts, rfl, item, hitem, hshown⟩, hlong⟩
        · rintro ⟨shown, ⟨_, ⟨⟩, item, hitem, hshown⟩, hlong⟩
          exact ⟨item, hitem, (h parts rfl item hitem failure).mpr ⟨shown, hshown, hlong⟩⟩
      cases parts with
      | nil =>
          refine iff_of_false nofun fun ⟨_, ⟨_, hparts, _, hitem, _⟩, _⟩ => ?_
          cases hparts
          cases hitem
      | cons first rest => exact gather_eq_error_iff hmem
  | _ => exact iff_of_false nofun fun ⟨_, ⟨_, hparts, _⟩, _⟩ => nomatch hparts

/-- **The check of a condition fails at the operators that it shows**, by induction on the room
there is. -/
theorem checkConditionWithin_eq_error {room : Nat} {v : Value} (hroom : v.depth < room) :
    checkConditionWithin room v = .error failure ↔
      ∃ shown, ConditionShows v shown ∧ shown.writing = .error failure := by
  induction room generalizing v failure with
  | zero => exact absurd hroom (Nat.not_lt_zero _)
  | succ room ih =>
      cases v with
      | object entries =>
          have hbound : Value.depthOfEntries entries < room := Nat.lt_of_succ_lt_succ hroom
          -- what is inside is less deep, so that the room that is left is enough for it
          have hjoined : ∀ key failure,
              checkJoined (checkConditionWithin room) key (Entries.getD entries key) =
                .error failure ↔ ∃ shown, (∃ parts, Entries.getD entries key = .list parts ∧
                  ∃ item ∈ parts, ConditionShows item shown) ∧ shown.writing = .error failure := by
            intro key failure
            refine checkJoined_eq_error fun parts hparts item hitem failure => ih ?_
            have hlist := Schema.depth_getD_le entries key
            rw [hparts] at hlist
            have hitem := Schema.depth_le_of_mem hitem
            change Value.depthOfItems parts + 1 ≤ _ at hlist
            omega
          have hnegated : ∀ failure, (if (Entries.getD entries "not").isNull then .ok []
              else below (.field "not") (checkConditionWithin room (Entries.getD entries "not"))) =
                .error failure ↔ (Entries.getD entries "not").isNull = false ∧
                  ∃ shown, ConditionShows (Entries.getD entries "not") shown ∧
                    shown.writing = .error failure := by
            intro failure
            have hdepth := Schema.depth_getD_le entries "not"
            split
            · rename_i hnull
              rw [hnull]
              exact iff_of_false ok_ne_error nofun
            · rename_i hgiven
              rw [below_eq_error, ih (by omega), Bool.eq_false_iff]
              exact (and_iff_right hgiven).symm
          refine gather_eq_error_iff fun failure => ?_
          simp only [List.mem_cons, List.not_mem_nil, or_false, eq_comm (a := Except.error failure),
            hjoined, hnegated, ite_then_eq_error ok_ne_error, checkTest_eq_error]
          constructor
          · rintro (⟨shown, ⟨parts, hparts, item, hitem, hshown⟩, hlong⟩ |
              ⟨shown, ⟨parts, hparts, item, hitem, hshown⟩, hlong⟩ |
              ⟨hgiven, shown, hshown, hlong⟩ | ⟨halone, hgiven, hunknown, hlong⟩)
            · exact ⟨shown, .joined (by simp) hparts hitem hshown, hlong⟩
            · exact ⟨shown, .joined (by simp) hparts hitem hshown, hlong⟩
            · exact ⟨shown, .negated hgiven hshown, hlong⟩
            · exact ⟨_, .operator (by simpa [and_assoc] using halone) hgiven hunknown, hlong⟩
          · rintro ⟨shown, hshown, hlong⟩
            cases hshown with
            | operator halone hgiven hunknown =>
                refine .inr (.inr (.inr ⟨?_, hgiven, hunknown, hlong⟩))
                simpa [and_assoc] using halone
            | @joined _ key parts part _ hjoins hparts hpart hdeeper =>
                obtain rfl | rfl := List.mem_pair.mp hjoins
                · exact .inl ⟨shown, ⟨parts, hparts, part, hpart, hdeeper⟩, hlong⟩
                · exact .inr (.inl ⟨shown, ⟨parts, hparts, part, hpart, hdeeper⟩, hlong⟩)
            | negated hgiven hdeeper => exact .inr (.inr (.inl ⟨hgiven, shown, hdeeper, hlong⟩))
      | _ => exact iff_of_false nofun fun ⟨_, hshown, _⟩ => nomatch hshown

end Conditions

/-! ## Nodes -/

/-- A message about a field that only nodes of a kind have shows a value.

What is shown is a style that is not known, a count of a case that is neither an integer nor a
word, a weight that is not a number or is negative, a number to pick or to keep that is not an
integer or is negative, and the bounds of a range that is reversed. -/
inductive KindShows : ContentTag → Entries → Value → Prop where
  | operator {entries : Entries} {shown : Value}
      (condition : ConditionShows (Entries.getD entries "condition") shown) :
      KindShows .conditional entries shown
  | style {entries : Entries} (given : (Entries.getD entries "style").isNull = false)
      (unknown : ∀ name, Entries.getD entries "style" = .str name →
        ArticleStyle.names.lookup name = none) :
      KindShows .article entries (Entries.getD entries "style")
  | caseCount {entries fields : Entries}
      (case : .object fields ∈ (listField entries "cases").1)
      (hashable : unhashable? (Entries.getD fields "count") = none)
      (noInteger : ∀ n, Entries.getD fields "count" ≠ .int n)
      (unknown : ∀ name, Entries.getD fields "count" = .str name →
        name ∉ ["zero", "one", "other"]) :
      KindShows .countSwitch entries (Entries.getD fields "count")
  | weight {entries : Entries} {weights : List Value} {w : Value}
      (list : Entries.getD entries "weights" = .list weights) (there : w ∈ weights)
      (faulty : ∀ n, w.number? = some n → n.less (.int 0) = true) :
      KindShows .pickOne entries w
  | optionWeight {entries fields : Entries}
      (option : .object fields ∈ (listField entries "options").1)
      (faulty : ∀ n, (Entries.getD fields "weight").number? = some n → n.less (.int 0) = true) :
      KindShows .weightedPick entries (Entries.getD fields "weight")
  | pickCount {entries : Entries} (given : (Entries.getD entries "count").isNull = false)
      (fixed : (Entries.getD entries "count").entries? = none)
      (faulty : ∀ n, Entries.getD entries "count" = .int n → n < 0) :
      KindShows .pickMany entries (Entries.getD entries "count")
  | range {entries bounds : Entries} {low high bound : Int}
      (count : Entries.getD entries "count" = .object bounds)
      (min : Entries.getD bounds "min" = .int low) (max : Entries.getD bounds "max" = .int high)
      (notNegative : 0 ≤ high) (reversed : high < low) (either : bound = low ∨ bound = high) :
      KindShows .pickMany entries (.int bound)
  | shuffleCount {entries : Entries} (given : (Entries.getD entries "count").isNull = false)
      (faulty : ∀ n, Entries.getD entries "count" = .int n → n < 0) :
      KindShows .shuffle entries (Entries.getD entries "count")

/-- A message about a node by itself shows a value. -/
inductive Shows : Value → Value → Prop where
  | type {entries : Entries}
      (unknown : ContentTag.ofValue? (Entries.getD entries "type") = none) :
      Shows (.object entries) (Entries.getD entries "type")
  | field {entries : Entries} {tag : ContentTag} {shown : Value}
      (known : ContentTag.ofValue? (Entries.getD entries "type") = some tag)
      (field : KindShows tag entries shown) : Shows (.object entries) shown

/-- The second value is the count of a case of the first, a choice by count. -/
inductive CountOf : Value → Value → Prop where
  | case {entries fields : Entries}
      (choice : ContentTag.ofValue? (Entries.getD entries "type") = some .countSwitch)
      (case : .object fields ∈ (listField entries "cases").1) :
      CountOf (.object entries) (Entries.getD fields "count")

section Fields

variable {v : Value} {failure : Failure}

/-- A value is no text that is known. -/
theorem any_str?_eq_false {known : String → Bool} :
    v.str?.any known = false ↔ ∀ name, v = .str name → known name = false := by
  cases v with
  | str name => simp [Value.str?]
  | _ => simp [Value.str?]

theorem checkCaseCount_eq_error :
    checkCaseCount v = .error failure ↔
      (∃ kind, unhashable? v = some kind ∧ failure = .unhashable kind) ∨
        unhashable? v = none ∧ (∀ n, v ≠ .int n) ∧
          (∀ name, v = .str name → name ∉ ["zero", "one", "other"]) ∧
            v.writing = .error failure := by
  cases v with
  | int n =>
      -- an integer is never looked up
      refine iff_of_false ok_ne_error ?_
      rintro (⟨kind, hkind, -⟩ | ⟨-, hnoInteger, -⟩)
      · cases hkind
      · exact hnoInteger n rfl
  | _ =>
      simp only [checkCaseCount]
      split
      · rename_i kind hkind
        simp [hkind, eq_comm]
      · rename_i hhashable
        rw [ite_else_eq_error ok_ne_error, showing_eq_error foundAt_ne_error, hhashable,
          Bool.not_eq_true, any_str?_eq_false]
        simp

theorem checkWeight_eq_error :
    checkWeight v = .error failure ↔
      (∀ n, v.number? = some n → n.less (.int 0) = true) ∧ v.writing = .error failure := by
  unfold checkWeight
  split
  · rename_i hnone
    rw [showing_eq_error found_ne_error, hnone]
    exact (and_iff_right nofun).symm
  · rename_i n hn
    rw [ite_then_eq_error ok_ne_error, showing_eq_error found_ne_error, hn]
    simp

theorem checkWeights_eq_error {candidates : Nat} :
    checkWeights candidates v = .error failure ↔
      ∃ weights, v = .list weights ∧ ∃ w ∈ weights,
        (∀ n, w.number? = some n → n.less (.int 0) = true) ∧ w.writing = .error failure := by
  cases v with
  | list weights =>
      have hmem : ∀ failure, .error failure ∈
          (if weights.length = candidates then .ok []
            else foundAt "weights" (.weightCount weights.length candidates)) ::
              checkItems "weights" checkWeight 0 weights ↔
            ∃ w, (w ∈ weights ∧ ∀ n, w.number? = some n → n.less (.int 0) = true) ∧
              w.writing = .error failure := by
        intro failure
        rw [List.mem_cons, or_iff_right (ite_ne_error ok_ne_error foundAt_ne_error).symm,
          error_mem_checkItems]
        simp only [checkWeight_eq_error, and_assoc]
      simp only [checkWeights, gather_eq_error_iff hmem, Value.list.injEq, and_assoc,
        exists_eq_left']
  | _ => exact iff_of_false (by nofun) fun ⟨_, hweights, _⟩ => nomatch hweights

theorem checkPickCount_eq_error :
    checkPickCount v = .error failure ↔
      v.isNull = false ∧ v.entries? = none ∧ (∀ n, v = .int n → n < 0) ∧
          v.writing = .error failure ∨
        ∃ bounds low high bound, v = .object bounds ∧ Entries.getD bounds "min" = .int low ∧
          Entries.getD bounds "max" = .int high ∧ 0 ≤ high ∧ high < low ∧
            (bound = low ∨ bound = high) ∧ (Value.int bound).writing = .error failure := by
  cases v with
  | null =>
      refine iff_of_false ok_ne_error ?_
      rintro (⟨hnull, -⟩ | ⟨_, _, _, _, hobject, -⟩)
      · cases hnull
      · cases hobject
  | object bounds =>
      -- a range shows both of its bounds or none, and either may be too long
      simp only [checkPickCount]
      split
      · rename_i low high hlow hhigh
        rw [ite_else_eq_error foundAt_ne_error, ite_then_eq_error ok_ne_error,
          showing_pair_eq_error foundAt_ne_error]
        simp only [Bool.or_eq_true, decide_eq_true_eq, not_or, Int.not_lt]
        constructor
        · rintro ⟨⟨-, hnotNegative⟩, hreversed, hlong⟩
          refine .inr ?_
          obtain hlow' | hhigh' := hlong
          · exact ⟨bounds, low, high, low, rfl, hlow, hhigh, hnotNegative, hreversed, .inl rfl,
              hlow'⟩
          · exact ⟨bounds, low, high, high, rfl, hlow, hhigh, hnotNegative, hreversed, .inr rfl,
              hhigh'⟩
        · rintro (⟨-, hfixed, -⟩ |
            ⟨_, l, h, bound, ⟨⟩, hlow', hhigh', hnotNegative, hreversed, heither, hlong⟩)
          · cases hfixed
          · rw [hlow] at hlow'
            rw [hhigh] at hhigh'
            cases hlow'
            cases hhigh'
            refine ⟨⟨by omega, hnotNegative⟩, hreversed, ?_⟩
            obtain rfl | rfl := heither
            · exact .inl hlong
            · exact .inr hlong
      · rename_i hnot
        refine iff_of_false foundAt_ne_error ?_
        rintro (⟨-, hfixed, -⟩ | ⟨_, low, high, _, ⟨⟩, hlow, hhigh, -⟩)
        · cases hfixed
        · exact hnot low high hlow hhigh
  | int n =>
      simp only [checkPickCount, ite_then_eq_error ok_ne_error, showing_eq_error foundAt_ne_error]
      simp [Value.isNull, Value.entries?]
  | _ =>
      simp only [checkPickCount, showing_eq_error foundAt_ne_error]
      simp [Value.isNull, Value.entries?]

theorem checkShuffleCount_eq_error :
    checkShuffleCount v = .error failure ↔
      v.isNull = false ∧ (∀ n, v = .int n → n < 0) ∧ v.writing = .error failure := by
  cases v with
  | null => exact iff_of_false ok_ne_error fun h => Bool.noConfusion h.1
  | int n =>
      simp [checkShuffleCount, ite_then_eq_error ok_ne_error, showing_eq_error foundAt_ne_error,
        Value.isNull]
  | _ => simp [checkShuffleCount, showing_eq_error foundAt_ne_error, Value.isNull]

theorem checkArticle_eq_error {entries : Entries} :
    checkArticle entries = .error failure ↔
      (Entries.getD entries "style").isNull = false ∧
        (∀ name, Entries.getD entries "style" = .str name →
          ArticleStyle.names.lookup name = none) ∧
        (Entries.getD entries "style").writing = .error failure := by
  rw [checkArticle, gather_pair_eq_error (ite_ne_error ok_ne_error found_ne_error)]
  cases Entries.getD entries "style" with
  | null => exact iff_of_false ok_ne_error fun h => Bool.noConfusion h.1
  | _ =>
      dsimp only
      rw [ite_else_eq_error ok_ne_error, showing_eq_error foundAt_ne_error, Bool.not_eq_true,
        any_str?_eq_false]
      simp only [Option.isSome_eq_false_iff, Option.isNone_iff_eq_none]
      exact (and_iff_right rfl).symm

end Fields

end PromptTree
