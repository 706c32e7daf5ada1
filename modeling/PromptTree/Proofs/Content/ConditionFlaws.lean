import PromptTree.Proofs.Answers
import PromptTree.Proofs.Content.Parts
import PromptTree.Proofs.Content.Pieces

/-!
# What can be wrong with a condition that was read

A condition that was read is an object, and what it joins are lists of conditions.  The check
of its document can still find that a test lacks something, or asks for what is not known, or
that nothing is joined.  `Condition.HasFlaw` says what, and where; **the check finds nothing
else** (`only_checkCondition_dump`), if the numbers that are compared with are finite.  Others
are not carried by documents, so that the check does not see them.

## Main Definitions

* `Findings.Only` — a check that finds problems of a certain kind only, if it does not fail.
* `Condition.HasFlaw` — what is wrong with a condition, with the place and the code.
-/

namespace PromptTree

open Findings Schema

/-! ## Finding certain problems only -/

/-- All problems that the check finds have the property, if it does not fail. -/
def Findings.Only (findings : Findings) (P : Problem → Prop) : Prop :=
  ∀ problems, findings = .ok problems → ∀ problem ∈ problems, P problem

namespace Findings

variable {P Q : Problem → Prop} {findings : Findings} {step : PlaceStep} {kind : ProblemKind}

theorem only_nil : Only (.ok []) P := by
  rintro problems ⟨⟩
  exact List.forall_mem_nil _

theorem only_found (h : P (.here kind)) : (found kind).Only P := by
  rintro problems ⟨⟩
  exact List.forall_mem_singleton.mpr h

theorem Only.imp (himp : ∀ problem, P problem → Q problem) (h : findings.Only P) :
    findings.Only Q :=
  fun problems hproblems problem hproblem => himp problem (h problems hproblems problem hproblem)

theorem Only.below (h : findings.Only fun problem => P (problem.below step)) :
    (findings.below step).Only P := by
  intro problems hproblems
  obtain ⟨inner, hinner, rfl⟩ := map_eq_ok_iff.mp hproblems
  exact List.forall_mem_map.mpr (h inner hinner)

theorem only_foundAt {label : String} (h : P ⟨[.field label], kind⟩) :
    (foundAt label kind).Only P :=
  (only_found h).below

theorem Only.showing (h : findings.Only P) (v : Value) : (findings.showing v).Only P := by
  intro problems hproblems
  obtain ⟨-, -, hfindings⟩ := bind_eq_ok_iff.mp hproblems
  exact h problems hfindings

/-- What is gathered has the property if all of it has. -/
theorem only_gather {all : List Findings} (h : ∀ findings ∈ all, findings.Only P) :
    (gather all).Only P := by
  induction all with
  | nil => exact only_nil
  | cons first rest ih =>
      obtain ⟨hfirst, hrest⟩ := List.forall_mem_cons.mp h
      intro found hfound
      rw [gather_cons] at hfound
      obtain ⟨problems, hproblems, hmore⟩ := bind_eq_ok_iff.mp hfound
      obtain ⟨others, hothers, rfl⟩ := map_eq_ok_iff.mp hmore
      exact List.forall_mem_append.mpr ⟨hfirst problems hproblems, ih hrest others hothers⟩

theorem only_gather_pair {first second : Findings} (h : first.Only P) (h' : second.Only P) :
    (gather [first, second]).Only P :=
  only_gather (List.forall_mem_cons.mpr ⟨h, List.forall_mem_singleton.mpr h'⟩)

theorem only_ite {c : Prop} [Decidable c] {first second : Findings} (h : c → first.Only P)
    (h' : ¬c → second.Only P) : (if c then first else second).Only P := by
  split
  · exact h ‹_›
  · exact h' ‹_›

/-- The findings of items have the property if those of every item have it, at its place. -/
theorem only_checkItems {label : String} {check : Value → Findings} {items : List Value}
    {start : Nat} (h : ∀ index v, items[index]? = some v →
      (check v).Only fun problem => P (problem.below (.item label (start + index)))) :
    ∀ findings ∈ checkItems label check start items, findings.Only P := by
  induction items generalizing start with
  | nil => exact nofun
  | cons first rest ih =>
      rw [checkItems, List.forall_mem_cons]
      refine ⟨(h 0 first rfl).below, ih fun index v hv => ?_⟩
      rw [Nat.add_right_comm, Nat.add_assoc]
      exact h (index + 1) v hv

end Findings

/-! ## Flaws -/

/-- What can be wrong with a condition that was read, with the place and the code. -/
inductive Condition.HasFlaw : Condition → List PlaceStep → String → Prop where
  | source {test : Test} (noVariable : test.variableId = none ∨ test.variableId = some "")
      (noKey : test.contextKey = none ∨ test.contextKey = some "") :
      HasFlaw (.mk test none none none) [] "INVALID_CONDITION"
  | operator {test : Test} (noOperator : test.operator = none) :
      HasFlaw (.mk test none none none) [] "MISSING_FIELD"
  | unknownOperator {test : Test} {name : String} (given : test.operator = some name)
      (unknown : name ∉ conditionOperators) :
      HasFlaw (.mk test none none none) [.field "operator"] "UNKNOWN_OPERATOR"
  | comparison {test : Test} {name : String} (given : test.operator = some name)
      (known : name ∈ conditionOperators) (compares : name ∉ valuelessOperators)
      (noValue : test.value = .null) :
      HasFlaw (.mk test none none none) [] "MISSING_FIELD"
  | emptyAll {test : Test} {any : Option (List Condition)} {negated : Option Condition} :
      HasFlaw (.mk test (some []) any negated) [.field "and"] "INVALID_CONDITION"
  | emptyAny {test : Test} {all : Option (List Condition)} {negated : Option Condition} :
      HasFlaw (.mk test all (some []) negated) [.field "or"] "INVALID_CONDITION"
  | inAll {test : Test} {conditions : List Condition} {any : Option (List Condition)}
      {negated : Option Condition} {index : Nat} {part : Condition} {place : List PlaceStep}
      {code : String} (there : conditions[index]? = some part) (flaw : HasFlaw part place code) :
      HasFlaw (.mk test (some conditions) any negated) (.item "and" index :: place) code
  | inAny {test : Test} {all : Option (List Condition)} {conditions : List Condition}
      {negated : Option Condition} {index : Nat} {part : Condition} {place : List PlaceStep}
      {code : String} (there : conditions[index]? = some part) (flaw : HasFlaw part place code) :
      HasFlaw (.mk test all (some conditions) negated) (.item "or" index :: place) code
  | inNegated {test : Test} {all any : Option (List Condition)} {part : Condition}
      {place : List PlaceStep} {code : String} (flaw : HasFlaw part place code) :
      HasFlaw (.mk test all any (some part)) (.field "not" :: place) code

namespace Condition

/-- A problem tells a flaw of a condition. -/
def Explains (condition : Condition) (problem : Problem) : Prop :=
  condition.HasFlaw problem.place problem.kind.code

section Fields

variable {test : Test} {all any : Option (List Condition)} {negated : Option Condition}

theorem isTruthy_string (text : Option String) :
    ((text.map Value.str).getD .null).isTruthy = false ↔ text = none ∨ text = some "" := by
  cases text with
  | none => exact ⟨fun _ => .inl rfl, fun _ => rfl⟩
  | some s => simp [Value.isTruthy]

/-- The check of a test that stands alone. -/
theorem only_checkTest (hfinite : test.value.IsFinite) :
    (checkTest (present (fields test none none none))).Only
      (Explains (.mk test none none none)) := by
  have hvariable : Entries.getD (present (fields test none none none)) "variable" =
      (test.variableId.map .str).getD .null := by simp [Entries.getD, fields]
  have hkey : Entries.getD (present (fields test none none none)) "context_key" =
      (test.contextKey.map .str).getD .null := by simp [Entries.getD, fields]
  have hoperator : Entries.getD (present (fields test none none none)) "operator" =
      (test.operator.map .str).getD .null := by simp [Entries.getD, fields]
  have hvalue : (Entries.getD (present (fields test none none none)) "value").isNull =
      test.value.isNull := by
    cases hnull : test.value.isNull with
    | true =>
        have hmissing : Entries.getD (present (fields test none none none)) "value" = .null := by
          simp [Entries.getD, fields, hnull]
        rw [hmissing]
        rfl
    | false => simp [Entries.getD, fields, hnull, isNull_portable hfinite]
  refine only_gather_pair (only_ite (fun _ => only_nil) fun hsource => only_found ?_) ?_
  · rw [hvariable, hkey, Bool.or_eq_true, not_or, Bool.not_eq_true, Bool.not_eq_true,
      isTruthy_string, isTruthy_string] at hsource
    exact .source hsource.1 hsource.2
  · rw [hoperator]
    cases hname : test.operator with
    | none => exact only_found (.operator hname)
    | some name =>
        simp only [Option.map_some, Option.getD_some, Value.str?, Option.filter_some,
          List.contains_iff_mem]
        by_cases hknown : name ∈ conditionOperators
        · rw [if_pos hknown]
          refine only_ite (fun hlacks => only_found ?_) fun _ => only_nil
          rw [hvalue, Bool.and_eq_true, Bool.not_eq_true', Bool.eq_false_iff, ne_eq,
            List.contains_iff_mem] at hlacks
          obtain ⟨hcompares, hnull⟩ := hlacks
          refine .comparison hname hknown hcompares ?_
          cases hv : test.value with
          | null => rfl
          | _ =>
              rw [hv] at hnull
              cases hnull
        · rw [if_neg hknown]
          exact (only_foundAt (.unknownOperator hname hknown)).showing _

end Fields

/-- A field that is written as something is missing if it is `null`. -/
theorem eq_none_of_isNull {α : Type} {write : α → Value} {value : Option α}
    (hwrite : ∀ a, (write a).isNull = false)
    (h : ((value.map write).getD .null).isNull = true) : value = none := by
  cases value with
  | none => rfl
  | some a =>
      rw [Option.map_some, Option.getD_some, hwrite] at h
      cases h

/-- The check of conditions under a key, if there are any. -/
theorem only_checkJoined {P : Problem → Prop} {key : String} {check : Value → Findings}
    {parts : Option (List Condition)}
    (hempty : parts = some [] → P ⟨[.field key], .emptyCompound key⟩)
    (hparts : ∀ conditions ∈ parts, ∀ (index : Nat) part, conditions[index]? = some part →
      (check part.dump).Only fun problem => P (problem.below (.item key index))) :
    (checkJoined check key
      ((parts.map fun conditions => .list (conditions.map dump)).getD .null)).Only P := by
  match parts with
  | none => exact only_nil
  | some [] => exact only_foundAt (hempty rfl)
  | some (first :: rest) =>
      refine only_gather (only_checkItems fun index v hv => ?_)
      rw [← List.map_cons, List.getElem?_map] at hv
      obtain ⟨part, hpart, rfl⟩ := Option.map_eq_some_iff.mp hv
      rw [Nat.zero_add]
      exact hparts _ rfl index part hpart

/-- **The check of a condition that was read finds nothing but its flaws**, by induction on the
depth to which it is checked. -/
theorem only_checkConditionWithin_dump {depth : Nat} {condition : Condition}
    (hdepth : condition.dump.depth < depth) (hfinite : ∀ v ∈ condition.values, v.IsFinite) :
    (checkConditionWithin depth condition.dump).Only condition.Explains := by
  induction depth generalizing condition with
  | zero => exact absurd hdepth (Nat.not_lt_zero _)
  | succ depth ih =>
      obtain ⟨test, all, any, negated⟩ := condition
      obtain ⟨hvalue, hall, hany, hnegated⟩ := forall_mem_values.mp hfinite
      rw [dump_mk] at hdepth ⊢
      have hbound : Value.depthOfEntries (present (fields test all any negated)) < depth :=
        Nat.lt_of_succ_lt_succ hdepth
      have handKey : (present (fields test all any negated)).lookup "and" =
          all.map fun conditions => .list (conditions.map dump) := by simp [fields]
      have horKey : (present (fields test all any negated)).lookup "or" =
          any.map fun conditions => .list (conditions.map dump) := by simp [fields]
      have hnotKey : (present (fields test all any negated)).lookup "not" = negated.map dump := by
        simp [fields]
      -- What is joined is less deep, under either key.
      have hless : ∀ {key : String} {parts : Option (List Condition)},
          (present (fields test all any negated)).lookup key =
            parts.map (fun conditions => .list (conditions.map dump)) →
          ∀ conditions ∈ parts, ∀ part ∈ conditions, part.dump.depth < depth := by
        intro key parts hkey conditions hconditions part hpart
        rw [hconditions] at hkey
        exact Nat.lt_trans (depth_lt_of_lookup_list hkey (List.mem_map_of_mem hpart)) hbound
      simp only [checkConditionWithin, checkConditionWith, recordOf, Entries.getD, handKey, horKey,
        hnotKey]
      refine only_gather (List.forall_mem_cons.mpr ⟨?_, List.forall_mem_cons.mpr ⟨?_,
        List.forall_mem_cons.mpr ⟨?_, List.forall_mem_singleton.mpr ?_⟩⟩⟩)
      · refine only_checkJoined (fun hempty => ?_) fun conditions hconditions index part hpart => ?_
        · subst hempty
          exact .emptyAll
        · have hmem := List.mem_of_getElem? hpart
          cases hconditions
          exact (ih (hless handKey _ rfl part hmem) (hall _ rfl part hmem)).imp fun problem hflaw =>
            .inAll hpart hflaw
      · refine only_checkJoined (fun hempty => ?_) fun conditions hconditions index part hpart => ?_
        · subst hempty
          exact .emptyAny
        · have hmem := List.mem_of_getElem? hpart
          cases hconditions
          exact (ih (hless horKey _ rfl part hmem) (hany _ rfl part hmem)).imp fun problem hflaw =>
            .inAny hpart hflaw
      · cases negated with
        | none => exact only_nil
        | some part =>
            refine only_ite (fun _ => only_nil) fun _ => Only.below ?_
            have hpart : part.dump.depth < depth :=
              Nat.lt_of_le_of_lt (depth_le_of_lookup hnotKey) hbound
            exact (ih hpart (hnegated part rfl)).imp fun problem hflaw => .inNegated hflaw
      · refine only_ite (fun halone => ?_) fun _ => only_nil
        simp only [Bool.and_eq_true] at halone
        obtain ⟨⟨hnoAll, hnoAny⟩, hnoNegated⟩ := halone
        obtain rfl := eq_none_of_isNull (fun _ => rfl) hnoAll
        obtain rfl := eq_none_of_isNull (fun _ => rfl) hnoAny
        obtain rfl := eq_none_of_isNull isNull_dump hnoNegated
        exact only_checkTest hvalue

/-- The check of a condition that was read finds nothing but its flaws. -/
theorem only_checkCondition_dump {condition : Condition}
    (hfinite : ∀ v ∈ condition.values, v.IsFinite) :
    (checkCondition condition.dump).Only condition.Explains :=
  only_checkConditionWithin_dump (Nat.lt_succ_self _) hfinite

end Condition

end PromptTree
