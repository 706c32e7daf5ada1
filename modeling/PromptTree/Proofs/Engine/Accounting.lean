import PromptTree.Engine.Batch
import PromptTree.Proofs.Render.NameSet

/-!
# The accounts of a batch

A batch is filled output by output.  This module says what is in it after any number of
outputs, in terms of what the single renderings came to: `Batch.collect` after `n` of them
holds

* the text of each rendering that succeeded, in order (`collect_outputs`);
* one error for each rendering that failed, under its number (`collect_errors`);
* the names that any of them used, those that failed included (`collect_variablesUsed`,
  `collect_sectionsUsed`).

So every rendering is accounted for exactly once (`collect_counted`), and nothing of one
rendering is found in the account of another.

All is by induction on the number of outputs, with `Batch.add` as the step.

Nothing but the outputs and the search for the entry point goes into an answer, so that two
engines can be compared output by output (`Engine.render_congr`).
-/

namespace PromptTree

/-! ## Single outcomes -/

/-- What one rendering comes to: a text or a failure, and what it leaves behind. -/
abbrev Outcome := Except Failure String × RunState

namespace Outcome

/-- The output, if there is one: its warnings are the issues of this rendering. -/
def rendered? (vars : Entries) : Outcome → Option Rendered
  | (.ok text, s) => some ⟨text, vars, s.issues⟩
  | (.error _, _) => none

/-- The error under a number, if there is one: whatever was recorded, only a failure is an
error. -/
def error? (number : Nat) : Outcome → Option BatchError
  | (.ok _, _) => none
  | (.error failure, _) => some (.output number failure.message)

/-- An outcome is an output or an error, and not both. -/
theorem counted (vars : Entries) (number : Nat) (outcome : Outcome) :
    (outcome.rendered? vars).toList.length + (outcome.error? number).toList.length = 1 := by
  obtain ⟨result, s⟩ := outcome
  cases result with
  | ok text => rfl
  | error failure => rfl

theorem error?_eq_some {number : Nat} {outcome : Outcome} {e : BatchError}
    (h : outcome.error? number = some e) :
    ∃ failure : Failure, outcome.1 = .error failure ∧ e = .output number failure.message := by
  obtain ⟨result, s⟩ := outcome
  cases result with
  | ok text => cases h
  | error failure =>
      cases h
      exact ⟨failure, rfl, rfl⟩

theorem rendered?_congr {vars : Entries} {outcome outcome' : Outcome}
    (hresult : outcome.1 = outcome'.1) (hissues : outcome.2.issues = outcome'.2.issues) :
    outcome.rendered? vars = outcome'.rendered? vars := by
  obtain ⟨result, s⟩ := outcome
  obtain ⟨result', s'⟩ := outcome'
  cases hresult
  cases result with
  | ok text => rw [rendered?, rendered?, hissues]
  | error failure => rfl

theorem error?_congr {number : Nat} {outcome outcome' : Outcome}
    (hresult : outcome.1 = outcome'.1) : outcome.error? number = outcome'.error? number := by
  obtain ⟨result, s⟩ := outcome
  obtain ⟨result', s'⟩ := outcome'
  cases hresult
  cases result with
  | ok text => rfl
  | error failure => rfl

end Outcome

/-! ## Unions of names -/

/-- A strictly sorted list of the names that are in any of the first `n` sets. -/
structure NameSet.IsUnion (set : NameSet) (n : Nat) (sets : Nat → NameSet) : Prop where
  sorted : set.Pairwise (· < ·)
  mem_iff : ∀ name, name ∈ set ↔ ∃ k < n, name ∈ sets k

namespace NameSet.IsUnion

variable {set : NameSet} {n : Nat} {sets : Nat → NameSet}

theorem zero : IsUnion [] 0 sets where
  sorted := .nil
  mem_iff name := by simp

theorem succ (h : IsUnion set n sets) : IsUnion (set.union (sets n)) (n + 1) sets where
  sorted := sorted_union (sets n) h.sorted
  mem_iff name := by
    rw [mem_union, h.mem_iff, Nat.exists_lt_succ_right]

end NameSet.IsUnion

/-! ## Batches -/

namespace Batch

/-- The batch of the first `n` outcomes, counted from one. -/
def collect (vars : Entries) (outcomes : Nat → Outcome) (n : Nat) : Batch :=
  (List.range n).foldl (fun batch k => batch.add (k + 1) vars (outcomes k)) {}

variable (batch : Batch) (number : Nat) (vars : Entries) (outcome : Outcome)

theorem add_outputs :
    (batch.add number vars outcome).outputs =
      batch.outputs ++ (outcome.rendered? vars).toList := by
  obtain ⟨result, s⟩ := outcome
  cases result with
  | ok text => rfl
  | error failure => exact (List.append_nil _).symm

theorem add_errors :
    (batch.add number vars outcome).errors =
      batch.errors ++ (outcome.error? number).toList := by
  obtain ⟨result, s⟩ := outcome
  cases result with
  | ok text => exact (List.append_nil _).symm
  | error failure => rfl

/-- What was used counts, whether the rendering failed or not. -/
theorem add_used :
    (batch.add number vars outcome).variablesUsed =
        batch.variablesUsed.union outcome.2.variablesUsed ∧
      (batch.add number vars outcome).sectionsUsed =
        batch.sectionsUsed.union outcome.2.sectionsUsed := by
  obtain ⟨result, s⟩ := outcome
  cases result with
  | ok text => exact ⟨rfl, rfl⟩
  | error failure => exact ⟨rfl, rfl⟩

variable (outcomes : Nat → Outcome) (n : Nat)

theorem collect_succ :
    collect vars outcomes (n + 1) = (collect vars outcomes n).add (n + 1) vars (outcomes n) := by
  unfold collect
  rw [List.range_succ, List.foldl_append]
  rfl

theorem collect_outputs :
    (collect vars outcomes n).outputs =
      (List.range n).filterMap fun k => (outcomes k).rendered? vars := by
  induction n with
  | zero => rfl
  | succ n ih =>
      rw [collect_succ, add_outputs, ih, List.range_succ, List.filterMap_append]
      cases h : (outcomes n).rendered? vars with
      | none => simp [h]
      | some output => simp [h]

theorem collect_errors :
    (collect vars outcomes n).errors =
      (List.range n).filterMap fun k => (outcomes k).error? (k + 1) := by
  induction n with
  | zero => rfl
  | succ n ih =>
      rw [collect_succ, add_errors, ih, List.range_succ, List.filterMap_append]
      cases h : (outcomes n).error? (n + 1) with
      | none => simp [h]
      | some e => simp [h]

/-- **Every rendering is accounted for exactly once.** -/
theorem collect_counted :
    (collect vars outcomes n).outputs.length + (collect vars outcomes n).errors.length = n := by
  induction n with
  | zero => rfl
  | succ n ih =>
      have hlast := (outcomes n).counted vars (n + 1)
      rw [collect_succ, add_outputs, add_errors, List.length_append, List.length_append]
      omega

theorem collect_variablesUsed :
    NameSet.IsUnion (collect vars outcomes n).variablesUsed n
      fun k => (outcomes k).2.variablesUsed := by
  induction n with
  | zero => exact .zero
  | succ n ih =>
      rw [collect_succ, (add_used _ _ _ _).1]
      exact ih.succ

theorem collect_sectionsUsed :
    NameSet.IsUnion (collect vars outcomes n).sectionsUsed n
      fun k => (outcomes k).2.sectionsUsed := by
  induction n with
  | zero => exact .zero
  | succ n ih =>
      rw [collect_succ, (add_used _ _ _ _).2]
      exact ih.succ

end Batch

/-! ## Answers to requests -/

/-- The result holds the outcomes of the outputs, and nothing else. -/
structure Result.Holds (result : Result) (vars : Entries) (outcomes : Nat → Outcome) (n : Nat) :
    Prop where
  outputs : result.outputs = (List.range n).filterMap fun k => (outcomes k).rendered? vars
  errors : result.errors = (List.range n).filterMap fun k => (outcomes k).error? (k + 1)
  counted : result.outputs.length + result.errors.length = n
  variablesUsed : result.variablesUsed.IsUnion n fun k => (outcomes k).2.variablesUsed
  sectionsUsed : result.sectionsUsed.IsUnion n fun k => (outcomes k).2.sectionsUsed

/-- **A batch holds the outcomes of its outputs.** -/
theorem Engine.renderBatch_holds (engine : Engine) (request : Request) (entry : Section) :
    (engine.renderBatch request entry).Holds request.bindings.vars
      (engine.renderOutput request entry) request.count.toNat where
  outputs := Batch.collect_outputs _ _ _
  errors := Batch.collect_errors _ _ _
  counted := Batch.collect_counted _ _ _
  variablesUsed := Batch.collect_variablesUsed _ _ _
  sectionsUsed := Batch.collect_sectionsUsed _ _ _

namespace Engine

/-- An entry point is a section that the lookup finds. -/
theorem findSection_of_findEntryPoint {engine : Engine} {id : String} {entry : Section}
    (h : engine.findEntryPoint id = .ok entry) :
    engine.resolver.findSection id = .ok (some entry) := by
  unfold findEntryPoint at h
  rcases hfound : engine.resolver.findSection id with failure | (_ | found)
  · rw [hfound] at h
    cases h
  · rw [hfound] at h
    cases h
  · rw [hfound] at h
    simp only at h
    split at h
    · cases h
      rfl
    · cases h

/-- **A request is answered alike by engines that find the same sections**, if every output that
it may ask for is. -/
theorem render_congr {engine engine' : Engine} {request : Request}
    (hlimit : engine'.settings.maxOutputCount = engine.settings.maxOutputCount)
    (hfind : engine'.resolver.findSection = engine.resolver.findSection)
    (h : ∀ entry, engine.resolver.findSection request.templateId = .ok (some entry) →
      ∀ k, engine'.renderOutput request entry k = engine.renderOutput request entry k) :
    engine'.render request = engine.render request := by
  have hpoint : engine'.findEntryPoint request.templateId =
      engine.findEntryPoint request.templateId := by
    simp only [findEntryPoint, hfind]
  simp only [render, hpoint, hlimit]
  split
  · rfl
  · rcases hentry : engine.findEntryPoint request.templateId with message | entry
    · rfl
    · have houtputs : engine'.renderOutput request entry = engine.renderOutput request entry :=
        funext (h entry (findSection_of_findEntryPoint hentry))
      simp only [renderBatch, houtputs]

end Engine

end PromptTree
