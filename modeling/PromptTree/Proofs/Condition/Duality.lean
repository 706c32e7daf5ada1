import Mathlib.Data.Bool.Basic
import Mathlib.Data.List.Forall2
import PromptTree.Proofs.Render.Relation

/-!
# Negated conditions

That not all conditions hold is that the negation of some does, and that none holds is that
the negations of all do.  This is so of the evaluations, and not of their answers only: both
sides **evaluate the same conditions from the same states**, record the same and fail in the
same way (`condition_dual`).

All and any are one search with two decisive answers (`evaluateUntil`): it ends with the first
condition whose evaluation has the decisive answer, or fails.  What a search evaluates is
spelled out by the relation `Searches`; the conditions after those leave no trace.

A condition may be given several parts.  `Condition.form` is the one that decides, so that all
statements hold whatever else is given.

## Main Definitions

* `Condition.Form`, `Condition.form` — the part that decides a condition.
* `Condition.evaluateUntil` — the search for a decisive answer.
* `Condition.Searches` — the conditions that a search evaluates, and what it comes to.
-/

namespace PromptTree

namespace Run

variable {α : Type}

/-- A run with the opposite answer. -/
def negate (m : Run Bool) : Run Bool := do
  return !(← m)

theorem negate_of_ok {m : Run Bool} {s t : RunState} {holds : Bool} (h : m s = (.ok holds, t)) :
    negate m s = (.ok (!holds), t) :=
  bind_of_ok h

theorem negate_of_error {m : Run Bool} {s t : RunState} {failure : Failure}
    (h : m s = (.error failure, t)) : negate m s = (.error failure, t) :=
  bind_of_error h

theorem negate_congr {m m' : Run Bool} {s t : RunState} (h : m s = m' t) :
    negate m s = negate m' t := by
  rcases hrun : m' t with ⟨failure | holds, u⟩
  · rw [negate_of_error (h.trans hrun), negate_of_error hrun]
  · rw [negate_of_ok (h.trans hrun), negate_of_ok hrun]

theorem negate_negate (m : Run Bool) : negate (negate m) = m := by
  funext s
  rcases hrun : m s with ⟨failure | holds, t⟩
  · exact negate_of_error (negate_of_error hrun)
  · rw [negate_of_ok (negate_of_ok hrun), Bool.not_not]

end Run

namespace Condition

/-! ## Forms -/

/-- The part that decides a condition. -/
inductive Form where
  | all (conditions : List Condition)
  | any (conditions : List Condition)
  | negated (condition : Condition)
  | test (test : Test)

/-- The part that decides: the first of all, any and negated that is given, and the test where
none of them is. -/
def form : Condition → Form
  | .mk _ (some conditions) _ _ => .all conditions
  | .mk _ none (some conditions) _ => .any conditions
  | .mk _ none none (some condition) => .negated condition
  | .mk test none none none => .test test

/-- The second condition negates the first. -/
def NegatedBy (condition negation : Condition) : Prop :=
  negation.form = .negated condition

section Forms

variable {condition inner : Condition} {conditions : List Condition}

theorem eq_mk_of_all (h : condition.form = .all conditions) :
    ∃ test any negated, condition = .mk test (some conditions) any negated := by
  obtain ⟨test, all | all, any, negated⟩ := condition
  · cases any with
    | none => cases negated with | _ => cases h
    | some _ => cases h
  · cases h
    exact ⟨test, any, negated, rfl⟩

theorem eq_mk_of_any (h : condition.form = .any conditions) :
    ∃ test negated, condition = .mk test none (some conditions) negated := by
  obtain ⟨test, all | all, any | any, negated⟩ := condition
  · cases negated with | _ => cases h
  · cases h
    exact ⟨test, negated, rfl⟩
  · cases h
  · cases h

theorem eq_mk_of_negated (h : NegatedBy inner condition) :
    ∃ test, condition = .mk test none none (some inner) := by
  obtain ⟨test, all | all, any | any, negated | negated⟩ := condition
  case none.none.some =>
    cases h
    exact ⟨test, rfl⟩
  all_goals cases h

end Forms

/-! ## Searches -/

/-- Evaluates conditions until one has the decisive answer. -/
def evaluateUntil (decisive : Bool) : List Condition → Bindings → Run Bool
  | [], _ => return !decisive
  | condition :: rest, b => do
    if (← evaluate condition b) = decisive then return decisive else evaluateUntil decisive rest b

section Searches

variable {b : Bindings} {decisive : Bool} {condition : Condition} {rest : List Condition}
  {s t : RunState}

theorem evaluateUntil_of_decisive (h : condition.evaluate b s = (.ok decisive, t)) :
    evaluateUntil decisive (condition :: rest) b s = (.ok decisive, t) := by
  rw [evaluateUntil, Run.bind_of_ok h, if_pos rfl]
  rfl

theorem evaluateUntil_of_error {failure : Failure}
    (h : condition.evaluate b s = (.error failure, t)) :
    evaluateUntil decisive (condition :: rest) b s = (.error failure, t) := by
  rw [evaluateUntil, Run.bind_of_error h]

theorem evaluateUntil_of_not_decisive (h : condition.evaluate b s = (.ok (!decisive), t)) :
    evaluateUntil decisive (condition :: rest) b s = evaluateUntil decisive rest b t := by
  rw [evaluateUntil, Run.bind_of_ok h, if_neg (Bool.not_ne_self decisive)]

theorem evaluateAll_eq (conditions : List Condition) (b : Bindings) :
    evaluateAll conditions b = evaluateUntil false conditions b := by
  induction conditions with
  | nil => simp only [evaluateAll, evaluateUntil, Bool.not_false]
  | cons condition rest ih =>
      simp only [evaluateAll, evaluateUntil, ih]
      refine bind_congr fun holds => ?_
      cases holds with | _ => rfl

theorem evaluateAny_eq (conditions : List Condition) (b : Bindings) :
    evaluateAny conditions b = evaluateUntil true conditions b := by
  induction conditions with
  | nil => simp only [evaluateAny, evaluateUntil, Bool.not_true]
  | cons condition rest ih =>
      simp only [evaluateAny, evaluateUntil, ih]

end Searches

section Evaluation

variable {condition inner : Condition} {conditions : List Condition} (b : Bindings)

theorem evaluate_of_all (h : condition.form = .all conditions) :
    condition.evaluate b = evaluateUntil false conditions b := by
  obtain ⟨test, any, negated, rfl⟩ := eq_mk_of_all h
  simp only [evaluate, evaluateAll_eq]

theorem evaluate_of_any (h : condition.form = .any conditions) :
    condition.evaluate b = evaluateUntil true conditions b := by
  obtain ⟨test, negated, rfl⟩ := eq_mk_of_any h
  simp only [evaluate, evaluateAny_eq]

theorem evaluate_of_negated (h : NegatedBy inner condition) :
    condition.evaluate b = Run.negate (inner.evaluate b) := by
  obtain ⟨test, rfl⟩ := eq_mk_of_negated h
  simp only [evaluate, Run.negate]

/-- **A search among negations is the opposite of the opposite search.** -/
theorem negate_evaluateUntil {negations : List Condition}
    (h : List.Forall₂ NegatedBy conditions negations) (decisive : Bool) :
    Run.negate (evaluateUntil decisive conditions b) = evaluateUntil (!decisive) negations b := by
  induction h with
  | nil => rfl
  | @cons condition negation rest others hnegated _ ih =>
      funext s
      have hnegation := evaluate_of_negated b hnegated
      rcases hrun : condition.evaluate b s with ⟨failure | holds, t⟩
      · have hnegation' : negation.evaluate b s = (.error failure, t) := by
          rw [hnegation, Run.negate_of_error hrun]
        rw [Run.negate_of_error (evaluateUntil_of_error hrun), evaluateUntil_of_error hnegation']
      · have hnegation' : negation.evaluate b s = (.ok (!holds), t) := by
          rw [hnegation, Run.negate_of_ok hrun]
        obtain rfl | rfl := Bool.eq_or_eq_not holds decisive
        · rw [Run.negate_of_ok (evaluateUntil_of_decisive hrun),
            evaluateUntil_of_decisive hnegation']
        · -- Both searches go on from the state that the evaluation left.
          rw [evaluateUntil_of_not_decisive hnegation', ← ih]
          exact Run.negate_congr (evaluateUntil_of_not_decisive hrun)

end Evaluation

/-! ## What is evaluated -/

/-- **What a search evaluates.**  From a state, it evaluates some of the first conditions, each
once and from the state that the one before it left, and comes to a result and a state: those
of the last one, if that has the decisive answer or fails, and the other answer if none is
left. -/
inductive Searches (b : Bindings) (decisive : Bool) :
    RunState → List Condition → List Condition → Except Failure Bool → RunState → Prop where
  | exhausted (s : RunState) : Searches b decisive s [] [] (.ok (!decisive)) s
  | decided {condition : Condition} {later : List Condition} {s t : RunState}
      (run : condition.evaluate b s = (.ok decisive, t)) :
      Searches b decisive s (condition :: later) [condition] (.ok decisive) t
  | failed {condition : Condition} {later : List Condition} {failure : Failure} {s t : RunState}
      (run : condition.evaluate b s = (.error failure, t)) :
      Searches b decisive s (condition :: later) [condition] (.error failure) t
  | passed {condition : Condition} {later evaluated : List Condition}
      {result : Except Failure Bool} {s t u : RunState}
      (run : condition.evaluate b s = (.ok (!decisive), t))
      (next : Searches b decisive t later evaluated result u) :
      Searches b decisive s (condition :: later) (condition :: evaluated) result u

section Evaluated

variable {b : Bindings} {decisive : Bool} {conditions evaluated : List Condition}
  {result : Except Failure Bool} {s t : RunState}

/-- **A search comes to what it is said to come to.** -/
theorem Searches.run (h : Searches b decisive s conditions evaluated result t) :
    evaluateUntil decisive conditions b s = (result, t) := by
  induction h with
  | exhausted s => rfl
  | decided hrun => exact evaluateUntil_of_decisive hrun
  | failed hrun => exact evaluateUntil_of_error hrun
  | passed hrun _ ih => rw [evaluateUntil_of_not_decisive hrun, ih]

/-- The conditions that are evaluated are the first ones, and all of them if none decides. -/
theorem Searches.isPrefix (h : Searches b decisive s conditions evaluated result t) :
    evaluated <+: conditions := by
  induction h with
  | exhausted s => exact List.prefix_refl []
  | decided _ => exact List.prefix_append [_] _
  | failed _ => exact List.prefix_append [_] _
  | passed _ _ ih => exact List.cons_prefix_cons.mpr ⟨rfl, ih⟩

theorem Searches.eq_of_undecided (h : Searches b decisive s conditions evaluated result t)
    (hresult : result = .ok (!decisive)) : evaluated = conditions := by
  induction h with
  | exhausted s => rfl
  | decided _ => exact absurd (Except.ok.inj hresult) (Bool.self_ne_not decisive)
  | failed _ => cases hresult
  | passed _ _ ih => rw [ih hresult]

/-- **The conditions after those that are evaluated leave no trace**: with any others in their
place the search comes to the same. -/
theorem Searches.append (h : Searches b decisive s conditions evaluated result t)
    (hresult : result ≠ .ok (!decisive)) (later : List Condition) :
    Searches b decisive s (evaluated ++ later) evaluated result t := by
  induction h with
  | exhausted s => exact absurd rfl hresult
  | decided hrun => exact .decided hrun
  | failed hrun => exact .failed hrun
  | passed hrun _ ih => exact .passed hrun (ih hresult)

/-- Every search evaluates some of the conditions. -/
theorem exists_searches (b : Bindings) (decisive : Bool) (conditions : List Condition)
    (s : RunState) :
    ∃ evaluated result t, Searches b decisive s conditions evaluated result t := by
  induction conditions generalizing s with
  | nil => exact ⟨[], _, _, .exhausted s⟩
  | cons condition rest ih =>
      rcases hrun : condition.evaluate b s with ⟨failure | holds, t⟩
      · exact ⟨_, _, _, .failed hrun⟩
      · obtain rfl | rfl := Bool.eq_or_eq_not holds decisive
        · exact ⟨_, _, _, .decided hrun⟩
        · obtain ⟨evaluated, result, u, hsearch⟩ := ih t
          exact ⟨_, result, u, .passed hrun hsearch⟩

/-- The opposite of the result of an evaluation. -/
def opposite : Except Failure Bool → Except Failure Bool
  | .ok holds => .ok (!holds)
  | .error failure => .error failure

theorem negate_eq_opposite {m : Run Bool} (h : m s = (result, t)) :
    Run.negate m s = (opposite result, t) := by
  cases result with
  | ok holds => exact Run.negate_of_ok h
  | error failure => exact Run.negate_of_error h

/-- **Of negations, those of the evaluated conditions are evaluated**, and they leave the same
state. -/
theorem Searches.negations {negations : List Condition}
    (h : Searches b decisive s conditions evaluated result t)
    (hnegations : List.Forall₂ NegatedBy conditions negations) :
    ∃ evaluatedToo, List.Forall₂ NegatedBy evaluated evaluatedToo ∧
      Searches b (!decisive) s negations evaluatedToo (opposite result) t := by
  induction h generalizing negations with
  | exhausted s =>
      cases hnegations
      exact ⟨[], .nil, .exhausted s⟩
  | decided hrun =>
      obtain ⟨negation, others, hnegation, -, rfl⟩ := List.forall₂_cons_left_iff.mp hnegations
      refine ⟨[negation], .cons hnegation .nil, .decided ?_⟩
      rw [evaluate_of_negated b hnegation, Run.negate_of_ok hrun]
  | failed hrun =>
      obtain ⟨negation, others, hnegation, -, rfl⟩ := List.forall₂_cons_left_iff.mp hnegations
      refine ⟨[negation], .cons hnegation .nil, .failed ?_⟩
      rw [evaluate_of_negated b hnegation, Run.negate_of_error hrun]
  | passed hrun _ ih =>
      obtain ⟨negation, others, hnegation, hothers, rfl⟩ :=
        List.forall₂_cons_left_iff.mp hnegations
      obtain ⟨evaluatedToo, hpairs, hsearch⟩ := ih hothers
      refine ⟨negation :: evaluatedToo, .cons hnegation hpairs, .passed ?_ hsearch⟩
      rw [evaluate_of_negated b hnegation, Run.negate_of_ok hrun]

end Evaluated

/-! ## Duality -/

/-- The form of all conditions, or that of any: the answer of a condition that decides it is
that it does not hold, or that it does. -/
def Form.joined (decisive : Bool) (conditions : List Condition) : Form :=
  if decisive then .any conditions else .all conditions

theorem evaluate_of_joined (b : Bindings) {decisive : Bool} {condition : Condition}
    {conditions : List Condition} (h : condition.form = .joined decisive conditions) :
    condition.evaluate b = evaluateUntil decisive conditions b := by
  cases decisive with
  | false => exact evaluate_of_all b h
  | true => exact evaluate_of_any b h

end Condition

open Condition

/-- **Conditions obey the laws of duality with all that their evaluation does.**

* That not all conditions hold, or that not any does, is evaluated like its dual, which joins
  their negations the other way: from every state with the same answer or the same failure,
  and with the same record.  Both evaluate conditions in order up to the first that decides
  or fails: the one some of the conditions, and the other the negations of these.
* A condition that is negated twice is evaluated like the condition.
* If a condition decides or fails, then those after it leave no trace: with any others in
  their place the evaluation comes to the same. -/
theorem condition_dual (b : Bindings) :
    (∀ (decisive : Bool) (conditions negations : List Condition) (joint negation dual : Condition),
      List.Forall₂ NegatedBy conditions negations →
      joint.form = .joined decisive conditions → NegatedBy joint negation →
      dual.form = .joined (!decisive) negations →
      negation.evaluate b = dual.evaluate b ∧
      ∀ s, ∃ evaluated evaluatedToo result t,
        Searches b decisive s conditions evaluated result t ∧
        Searches b (!decisive) s negations evaluatedToo (opposite result) t ∧
        List.Forall₂ NegatedBy evaluated evaluatedToo ∧
        joint.evaluate b s = (result, t) ∧ negation.evaluate b s = (opposite result, t)) ∧
    (∀ condition negation again : Condition, NegatedBy condition negation →
      NegatedBy negation again → again.evaluate b = condition.evaluate b) ∧
    ∀ (decisive : Bool) (conditions evaluated : List Condition) (result : Except Failure Bool)
      (s t : RunState), Searches b decisive s conditions evaluated result t →
      evaluated <+: conditions ∧ (result = .ok (!decisive) → evaluated = conditions) ∧
      (result ≠ .ok (!decisive) → ∀ (later : List Condition) (joint : Condition),
        joint.form = .joined decisive (evaluated ++ later) →
          joint.evaluate b s = (result, t)) := by
  refine ⟨?_, ?_, ?_⟩
  · intro decisive conditions negations joint negation dual hnegations hjoint hnegation hdual
    have hsearch := evaluate_of_joined b hjoint
    refine ⟨?_, fun s => ?_⟩
    · rw [evaluate_of_negated b hnegation, hsearch, evaluate_of_joined b hdual]
      exact negate_evaluateUntil b hnegations decisive
    · -- one search settles all: its dual goes along with it
      obtain ⟨evaluated, result, t, h⟩ := exists_searches b decisive conditions s
      obtain ⟨evaluatedToo, hpairs, hdualSearch⟩ := h.negations hnegations
      have hrun : joint.evaluate b s = (result, t) := by
        rw [hsearch, h.run]
      refine ⟨evaluated, evaluatedToo, result, t, h, hdualSearch, hpairs, hrun, ?_⟩
      rw [evaluate_of_negated b hnegation]
      exact negate_eq_opposite hrun
  · intro condition negation again hnegation hagain
    rw [evaluate_of_negated b hagain, evaluate_of_negated b hnegation, Run.negate_negate]
  · intro decisive conditions evaluated result s t h
    refine ⟨h.isPrefix, h.eq_of_undecided, fun hresult later joint hjoint => ?_⟩
    rw [evaluate_of_joined b hjoint]
    exact (h.append hresult later).run

/-- A variable that has to be there, and a faulty pattern for another one: where the first is
missing, the pattern is not looked at, and nothing is recorded of it. -/
theorem condition_dual_missingVariable :
    let present : Condition :=
      .mk { variableId := some "name", operator := some "exists" } none none none
    let faulty : Condition :=
      .mk { variableId := some "title", operator := some "matches", value := .str "(" }
        none none none
    let negated (condition : Condition) : Condition := .mk {} none none (some condition)
    let joint : Condition := .mk {} (some [present, faulty]) none none
    let dual : Condition := .mk {} none (some [negated present, negated faulty]) (some joint)
    let b : Bindings := { vars := [("title", .str "Dr")] }
    let start : RunState := { generator := .congruential 0 }
    let after : RunState := { start with variablesUsed := ["name"] }
    joint.form = .joined false [present, faulty] ∧
      dual.form = .joined true [negated present, negated faulty] ∧
      (negated joint).evaluate b = dual.evaluate b ∧
      (negated (negated joint)).evaluate b = joint.evaluate b ∧
      (negated joint).evaluate b start = (.ok true, after) ∧
      Searches b false start [present, faulty] [present] (.ok false) after ∧
      ∀ later : List Condition,
        (Condition.mk {} (some (present :: later)) none none).evaluate b start =
          (.ok false, after) := by
  intro present faulty negated joint dual b start after
  have hpairs : List.Forall₂ NegatedBy [present, faulty] [negated present, negated faulty] :=
    .cons rfl (.cons rfl .nil)
  have hsearch : Searches b false start [present, faulty] [present] (.ok false) after :=
    .decided rfl
  have hnegation : NegatedBy joint (negated joint) := rfl
  obtain ⟨hdual, htwice, hlater⟩ := condition_dual b
  obtain ⟨hsame, -⟩ := hdual false _ _ joint (negated joint) dual hpairs rfl hnegation rfl
  obtain ⟨-, -, htrace⟩ := hlater false _ _ _ start after hsearch
  have hagain : NegatedBy (negated joint) (negated (negated joint)) := rfl
  have hrun : joint.evaluate b start = (.ok false, after) := htrace nofun [faulty] joint rfl
  refine ⟨rfl, rfl, hsame, htwice joint _ _ hnegation hagain, ?_, hsearch, fun later => ?_⟩
  · rw [evaluate_of_negated b hnegation]
    exact Run.negate_of_ok hrun
  · exact htrace nofun later _ rfl

end PromptTree
