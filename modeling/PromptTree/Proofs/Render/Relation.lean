import Mathlib.Logic.Basic
import PromptTree.Condition.Evaluate
import PromptTree.Proofs.Random.Returns

/-!
# Relations between runs

Much of what is true of renderings compares two runs: with other variables, in another
world, of another tree, or of the same tree on top of another record.  A `RunRelation` is
such a comparison in a form that sequencing keeps, so that it has to be checked of the few
operations that runs are made of, and not of the kinds of nodes.

* `RunRelation.lift`, `RunRelation.mapM` — what follows for lookups and for runs over lists.
* `RunRelation.along` — the relation of a step that every run takes: a preorder on states.
  It looks at one run only, and is how invariants of a single run are proved.
* `RunRelation.Reads` — two bindings whose variables are read alike.
* `Condition.evaluate_rel` — conditions are then evaluated alike.

### Which issues a relation has to know

A relation need not relate the recording of every issue.  Issues about references and
about nodes of no known kind are left to the theorems about these nodes; the ones that any
node may have, `Issue.IsLocal`, it has to relate.
-/

namespace PromptTree

/-! ## Sequencing on states -/

namespace Run

variable {α β : Type} {m : Run α} {f : α → Run β} {s t : RunState}

theorem bind_of_ok {a : α} (h : m s = (.ok a, t)) : (m >>= f) s = f a t :=
  Random.bind_of_ok h

theorem bind_of_error {failure : Failure} (h : m s = (.error failure, t)) :
    (m >>= f) s = (.error failure, t) :=
  Random.bind_of_error h

theorem liftM_ok_bind (a : α) (f : α → Run β) :
    (liftM (.ok a : Except Failure α) : Run α) >>= f = f a :=
  funext fun _ => bind_of_ok rfl

theorem liftM_error_bind (failure : Failure) (f : α → Run β) :
    (liftM (.error failure : Except Failure α) : Run α) >>= f = throw failure :=
  funext fun _ => bind_of_error rfl

theorem readVariable_apply (b : Bindings) (id : String) (s : RunState) :
    readVariable b id s = (.ok (b.variableOf id),
      if id.isEmpty then s else { s with variablesUsed := s.variablesUsed.insert id }) := by
  unfold readVariable useVariable
  split
  · rfl
  · rfl

/-- Reading a variable records no issue. -/
theorem issues_readVariable (b : Bindings) (id : String) (s : RunState) :
    (readVariable b id s).2.issues = s.issues := by
  rw [readVariable_apply]
  split
  · rfl
  · rfl

/-- Reading a variable makes no move. -/
theorem moves_readVariable (b : Bindings) (id : String) (s : RunState) :
    (readVariable b id s).2.moves = s.moves := by
  rw [readVariable_apply]
  split
  · rfl
  · rfl

theorem within_apply (key : String) (m : Run α) (s : RunState) :
    within key m s =
      ((m { s with moves := s.moves ++ [.enter key] }).1,
        { (m { s with moves := s.moves ++ [.enter key] }).2 with
          moves := (m { s with moves := s.moves ++ [.enter key] }).2.moves ++ [.leave] }) := rfl

end Run

/-- Neither a reference nor a node of no known kind is to blame for the issue. -/
def Issue.IsLocal : Issue → Prop
  | .separatorSetNotFound _ => True
  | .dataTypeNotFound _ => True
  | .badPattern _ _ _ => True
  | _ => False

/-! ## Relations -/

/-- **A relation between runs that sequencing keeps.**  It relates a run that only returns,
or only fails, or only records a local issue, with itself. -/
structure RunRelation where
  Rel : {α : Type} → Run α → Run α → Prop
  returns : ∀ {α : Type} (a : α), Rel (pure a) (pure a)
  fails : ∀ {α : Type} (failure : Failure), Rel (throw failure : Run α) (throw failure)
  warns : ∀ issue : Issue, issue.IsLocal → Rel (Run.warn issue) (Run.warn issue)
  bind : ∀ {α β : Type} {m m' : Run α} {f f' : α → Run β},
    Rel m m' → (∀ a, Rel (f a) (f' a)) → Rel (m >>= f) (m' >>= f')

namespace RunRelation

variable (r : RunRelation) {α β : Type}

/-- A lookup that does not depend on the state is related with itself. -/
theorem lift (x : Except Failure α) : r.Rel (liftM x : Run α) (liftM x) := by
  cases x with
  | ok a => exact r.returns a
  | error failure => exact r.fails failure

/-- A lookup comes before runs that are related for what it finds. -/
theorem lift_bind {x : Except Failure α} {f f' : α → Run β}
    (h : ∀ a, x = .ok a → r.Rel (f a) (f' a)) :
    r.Rel ((liftM x : Run α) >>= f) ((liftM x : Run α) >>= f') := by
  cases x with
  | ok a =>
      rw [Run.liftM_ok_bind, Run.liftM_ok_bind]
      exact h a rfl
  | error failure =>
      rw [Run.liftM_error_bind, Run.liftM_error_bind]
      exact r.fails failure

/-- So is a run that may fail, and else returns. -/
theorem lift_returns (x : Except Failure α) (b : β) :
    r.Rel (do let _ ← (liftM x : Run α); return b) (do let _ ← (liftM x : Run α); return b) :=
  r.bind (r.lift x) fun _ => r.returns b

theorem map {m m' : Run α} (f : α → β) (h : r.Rel m m') :
    r.Rel (do return f (← m)) (do return f (← m')) :=
  r.bind h fun a => r.returns (f a)

/-- Runs over a list are related if they are at every item of it. -/
theorem mapM {f f' : α → Run β} {items : List α} (h : ∀ a ∈ items, r.Rel (f a) (f' a)) :
    r.Rel (items.mapM f) (items.mapM f') := by
  induction items with
  | nil => exact r.returns []
  | cons a rest ih =>
      rw [List.mapM_cons, List.mapM_cons]
      refine r.bind (h a List.mem_cons_self) fun b => ?_
      exact r.bind (ih fun a' h' => h a' (List.mem_cons_of_mem a h')) fun bs =>
        r.returns (b :: bs)

/-- **The relation of a step that every run takes.**  `Step s t` says that a run may lead
from `s` to `t`; what every single operation does, every sequence of them does, if steps
can be put together.  The second run plays no part. -/
def along (Step : RunState → RunState → Prop) (stays : ∀ s, Step s s)
    (goesOn : ∀ {s t u}, Step s t → Step t u → Step s u)
    (warns : ∀ issue : Issue, issue.IsLocal → ∀ s, Step s (Run.warn issue s).2) :
    RunRelation where
  Rel m _ := ∀ s, Step s (m s).2
  returns _ s := stays s
  fails _ s := stays s
  warns issue hlocal s := warns issue hlocal s
  bind := by
    intro α β m m' f f' hm hf s
    rcases hrun : m s with ⟨a | a, t⟩
    · rw [Run.bind_of_error hrun]
      simpa [hrun] using hm s
    · rw [Run.bind_of_ok hrun]
      have hfirst : Step s t := by simpa [hrun] using hm s
      exact goesOn hfirst (hf a t)

/-! ## Bindings that are read alike -/

/-- Two bindings with the same system and constraints, whose variables are read alike. -/
structure Reads (b b' : Bindings) : Prop where
  vars : ∀ id, r.Rel (Run.readVariable b id) (Run.readVariable b' id)
  system : b.system = b'.system
  constraints : b.constraints = b'.constraints

end RunRelation

/-! ## Conditions -/

section Conditions

variable {r : RunRelation} {b b' : Bindings}

theorem Test.contextValue_congr (h : r.Reads b b') (key : String) :
    Test.contextValue b key = Test.contextValue b' key := by
  simp only [Test.contextValue, h.system, h.constraints]

theorem Test.subject_rel (h : r.Reads b b') (test : Test) :
    r.Rel (test.subject b) (test.subject b') := by
  unfold Test.subject
  split
  · exact r.bind (h.vars _) fun v => r.lift _
  · rw [Test.contextValue_congr h]
    exact r.returns _
  · exact r.returns _

theorem Test.matchesPattern_rel [NestingLimits] (v pattern : Value) :
    r.Rel (Test.matchesPattern v pattern) (Test.matchesPattern v pattern) := by
  unfold Test.matchesPattern
  split
  · split
    · refine r.bind (r.lift _) fun _ => ?_
      split
      · exact r.returns _
      · exact r.bind (r.warns _ trivial) fun _ => r.returns _
      · exact r.fails _
    · exact r.returns _
  · exact r.returns _

theorem Test.evaluate_rel [NestingLimits] (h : r.Reads b b') (test : Test) :
    r.Rel (test.evaluate b) (test.evaluate b') := by
  unfold Test.evaluate
  refine r.bind (Test.subject_rel h test) fun v => ?_
  split
  · exact Test.matchesPattern_rel v test.value
  · exact r.lift_returns _ _
  · exact r.returns _

namespace Condition

mutual

/-- **Conditions are evaluated alike** under bindings that are read alike: what is not
evaluated in one run is not evaluated in the other. -/
theorem evaluate_rel [NestingLimits] (h : r.Reads b b') :
    ∀ condition : Condition, r.Rel (condition.evaluate b) (condition.evaluate b')
  | .mk _ (some conditions) _ _ => by
      simp only [evaluate]
      exact evaluateAll_rel h conditions
  | .mk _ none (some conditions) _ => by
      simp only [evaluate]
      exact evaluateAny_rel h conditions
  | .mk _ none none (some condition) => by
      simp only [evaluate]
      exact r.map _ (evaluate_rel h condition)
  | .mk test none none none => by
      simp only [evaluate]
      exact Test.evaluate_rel h test

theorem evaluateAll_rel [NestingLimits] (h : r.Reads b b') :
    ∀ conditions : List Condition,
      r.Rel (evaluateAll conditions b) (evaluateAll conditions b')
  | [] => r.returns true
  | condition :: rest => by
      simp only [evaluateAll]
      refine r.bind (evaluate_rel h condition) fun holds => ?_
      cases holds with
      | true => exact evaluateAll_rel h rest
      | false => exact r.returns false

theorem evaluateAny_rel [NestingLimits] (h : r.Reads b b') :
    ∀ conditions : List Condition,
      r.Rel (evaluateAny conditions b) (evaluateAny conditions b')
  | [] => r.returns false
  | condition :: rest => by
      simp only [evaluateAny]
      refine r.bind (evaluate_rel h condition) fun holds => ?_
      cases holds with
      | true => exact r.returns true
      | false => exact evaluateAny_rel h rest

end

end Condition

end Conditions

end PromptTree
