import PromptTree.Proofs.Engine.Accounting
import PromptTree.Proofs.Schema.Reading

/-!
# Tiers of errors

Every request has one of two kinds of results (`render_tiers`).  If it cannot be answered
at all, the result is one fatal error and nothing else.  Otherwise every output that was
asked for is accounted for once, by an output or by an error under its number; and what a
rendering records as an issue is found in the warnings of its own output only.

## Main Definitions

* `Engine.Refuses`, `Engine.RefusesDocument` — the reasons for a fatal error.
* `Result.Fatal` — a result that is one fatal error.
* `Engine.Answers` — a result that accounts for every output of a request.
-/

namespace PromptTree

/-! ## Reasons and results -/

/-- The reasons for which a request cannot be answered at all. -/
inductive Engine.Refuses (engine : Engine) (request : Request) : Prop where
  | tooMany (h : engine.settings.maxOutputCount < request.count)
  | lookupFailed {failure : Failure}
      (h : engine.resolver.findSection request.templateId = .error failure)
  | notFound (h : engine.resolver.findSection request.templateId = .ok none)
  | notEntryPoint {found : Section}
      (h : engine.resolver.findSection request.templateId = .ok (some found))
      (hentry : found.body.isEntryPoint = false)

/-- The reasons for which a document cannot be answered as a request: it is none, or it is
one that cannot be answered. -/
inductive Engine.RefusesDocument (engine : Engine) (v : Value) : Prop where
  | invalid {faults : List Schema.Fault} (h : Request.read v = .faulty faults)
  | refused {request : Request} (h : Request.read v = .ok request)
      (hrefuses : engine.Refuses request)

/-- The result is one fatal error and nothing else. -/
structure Result.Fatal (result : Result) : Prop where
  failed : result.success = false
  outputs : result.outputs = []
  errors : ∃ e, result.errors = [e] ∧ e.code = "FATAL_ERROR"
  variablesUsed : result.variablesUsed = []
  sectionsUsed : result.sectionsUsed = []

/-- The result accounts for every output that a request asks of an entry point.  It holds
the outcomes of the renderings in order; its errors are failures of renderings, whatever
these recorded besides, and are located by numbers that increase. -/
structure Engine.Answers (engine : Engine) (request : Request) (entry : Section)
    (result : Result) : Prop where
  found : engine.resolver.findSection request.templateId = .ok (some entry)
  isEntryPoint : entry.body.isEntryPoint = true
  holds : result.Holds request.bindings.vars (engine.renderOutput request entry)
    request.count.toNat
  failures : ∀ e, e ∈ result.errors ↔ ∃ k < request.count.toNat, ∃ failure,
    (engine.renderOutput request entry k).1 = .error failure ∧
      e = .output (k + 1) failure.message
  coded : ∀ e ∈ result.errors, e.code = "RENDER_ERROR"
  located : ∃ numbers : List Nat, numbers.Pairwise (· < ·) ∧
    (∀ k ∈ numbers, 1 ≤ k ∧ (k : Int) ≤ request.count) ∧
    result.errors.map BatchError.location? = numbers.map fun k => some ("output " ++ toString k)
  success : result.success = true ↔ result.errors = []

/-! ## Errors of a batch -/

/-- Whether the rendering failed. -/
def Outcome.failed : Outcome → Bool
  | (.ok _, _) => false
  | (.error _, _) => true

namespace Result.Holds

variable {result : Result} {vars : Entries} {outcomes : Nat → Outcome} {n : Nat}

theorem mem_errors (h : result.Holds vars outcomes n) (e : BatchError) :
    e ∈ result.errors ↔ ∃ k < n, ∃ failure,
      (outcomes k).1 = .error failure ∧ e = .output (k + 1) failure.message := by
  rw [h.errors, List.mem_filterMap]
  constructor
  · rintro ⟨k, hk, he⟩
    exact ⟨k, List.mem_range.mp hk, Outcome.error?_eq_some he⟩
  · rintro ⟨k, hk, failure, hfailure, rfl⟩
    refine ⟨k, List.mem_range.mpr hk, ?_⟩
    rcases hrun : outcomes k with ⟨result, s⟩
    rw [hrun] at hfailure
    obtain rfl : result = .error failure := hfailure
    rfl

/-- The errors are located at the numbers of the outputs that failed. -/
theorem location_errors (h : result.Holds vars outcomes n) :
    result.errors.map BatchError.location? =
      (((List.range n).filter fun k => (outcomes k).failed).map (· + 1)).map
        fun k => some ("output " ++ toString k) := by
  rw [h.errors]
  -- The order of the numbers plays no part: an error is located at its own.
  generalize List.range n = ks
  induction ks with
  | nil => rfl
  | cons k rest ih =>
      rcases hrun : outcomes k with ⟨failure | text, s⟩
      · simpa [hrun, Outcome.error?, Outcome.failed, BatchError.location?] using ih
      · simpa [hrun, Outcome.error?, Outcome.failed] using ih

end Result.Holds

namespace Engine

variable (engine : Engine) (request : Request)

/-- **A batch accounts for every output.** -/
theorem renderBatch_answers {entry : Section}
    (hfound : engine.resolver.findSection request.templateId = .ok (some entry))
    (hentry : entry.body.isEntryPoint = true) :
    engine.Answers request entry (engine.renderBatch request entry) := by
  have hholds := engine.renderBatch_holds request entry
  refine ⟨hfound, hentry, hholds, hholds.mem_errors, ?_, ⟨_, ?_, ?_, hholds.location_errors⟩, ?_⟩
  · intro e he
    obtain ⟨k, _, failure, _, rfl⟩ := (hholds.mem_errors e).mp he
    rfl
  · have hsorted : (List.range request.count.toNat).Pairwise (· < ·) := List.pairwise_lt_range
    exact (hsorted.filter _).map _ fun a b hlt => Nat.succ_lt_succ hlt
  · intro number hnumber
    obtain ⟨k, hk, rfl⟩ := List.mem_map.mp hnumber
    have hrange := List.mem_range.mp (List.mem_of_mem_filter hk)
    omega
  · exact List.isEmpty_iff

theorem fatal_fatal (templateId message : String) : (fatal templateId message).Fatal :=
  ⟨rfl, rfl, ⟨_, rfl, rfl⟩, rfl, rfl⟩

variable {engine request}

/-- A request that is refused gets a fatal error. -/
theorem Refuses.render_fatal (h : engine.Refuses request) : (engine.render request).Fatal := by
  by_cases hcount : engine.settings.maxOutputCount < request.count
  · simp only [render, hcount, if_true]
    exact fatal_fatal _ _
  · have hpoint : ∃ message, engine.findEntryPoint request.templateId = .error message := by
      cases h with
      | tooMany h => exact absurd h hcount
      | lookupFailed h => exact ⟨_, by simp only [findEntryPoint, h]; rfl⟩
      | notFound h => exact ⟨_, by simp only [findEntryPoint, h]; rfl⟩
      | notEntryPoint h hentry =>
          exact ⟨_, by simp only [findEntryPoint, h, hentry, Bool.false_eq_true, if_false]; rfl⟩
    obtain ⟨message, hmessage⟩ := hpoint
    simp only [render, hcount, if_false, hmessage]
    exact fatal_fatal _ _

/-- A request that is not refused gets an answer for an entry point. -/
theorem render_answers (h : ¬ engine.Refuses request) :
    ∃ entry, engine.Answers request entry (engine.render request) := by
  have hcount : ¬ engine.settings.maxOutputCount < request.count := fun hlt => h (.tooMany hlt)
  rcases hfound : engine.resolver.findSection request.templateId with failure | _ | found
  · exact absurd (.lookupFailed hfound) h
  · exact absurd (.notFound hfound) h
  · cases hentry : found.body.isEntryPoint with
    | false => exact absurd (.notEntryPoint hfound hentry) h
    | true =>
        have hpoint : engine.findEntryPoint request.templateId = .ok found := by
          simp only [findEntryPoint, hfound, hentry, if_true]
        have hbatch := renderBatch_answers engine request hfound hentry
        refine ⟨found, ?_⟩
        simpa only [render, hcount, if_false, hpoint] using hbatch

theorem Answers.not_fatal {entry : Section} {result : Result}
    (h : engine.Answers request entry result) : ¬ result.Fatal := by
  intro hfatal
  obtain ⟨e, herrors, hcode⟩ := hfatal.errors
  have hrender : e.code = "RENDER_ERROR" := by
    refine h.coded e ?_
    rw [herrors]
    exact List.mem_singleton_self e
  rw [hcode] at hrender
  exact absurd hrender (by decide)

end Engine

/-! ## Requests of documents -/

/-- A request that was read asks for at least one output. -/
theorem Request.count_of_read {v : Value} {request : Request} (h : Request.read v = .ok request) :
    1 ≤ request.count := by
  -- The count is the first field of the options, which are the last field of a request.
  obtain ⟨entries, hfields⟩ := Schema.record_eq_ok h
  obtain ⟨build, options, hbuild, hoptions, rfl⟩ := Schema.Checked.seq_eq_ok.mp hfields
  obtain ⟨build', bindings, hbuild', _, rfl⟩ := Schema.Checked.seq_eq_ok.mp hbuild
  obtain ⟨id, _, rfl⟩ := Schema.Checked.map_eq_ok.mp hbuild'
  change 1 ≤ options.1
  rcases Schema.withDefault_eq_ok hoptions with rfl | ⟨found, hread⟩
  · exact Int.le_refl 1
  · obtain ⟨fields, hoption⟩ := Schema.record_eq_ok hread
    obtain ⟨pair, randomize, hpair, _, rfl⟩ := Schema.Checked.seq_eq_ok.mp hoption
    obtain ⟨count, hcount, rfl⟩ := Schema.Checked.map_eq_ok.mp hpair
    change 1 ≤ count
    rcases Schema.withDefault_eq_ok hcount with rfl | ⟨number, hnumber⟩
    · exact Int.le_refl 1
    · exact Schema.le_of_atLeast hnumber

/-! ## Tiers -/

/-- **Every request has one of two kinds of results.**  It has a fatal error and nothing
else exactly if there is one of the reasons to refuse it: too many outputs, or no entry
point, be it that the lookup fails, finds nothing or finds another section.  Otherwise the
result accounts for every output, whatever fails in which of the renderings.

The same is true of any value as the document of a request; it may also be refused as no
request, and if it is one, it asks for at least one output. -/
theorem Engine.render_tiers (engine : Engine) :
    (∀ request : Request,
      engine.Refuses request ∧ (engine.render request).Fatal ∨
      ¬ engine.Refuses request ∧ ¬ (engine.render request).Fatal ∧
        ∃ entry, engine.Answers request entry (engine.render request)) ∧
    ∀ v : Value,
      engine.RefusesDocument v ∧ (engine.renderDocument v).Fatal ∨
      ¬ engine.RefusesDocument v ∧ ¬ (engine.renderDocument v).Fatal ∧
        ∃ request entry, Request.read v = .ok request ∧ 1 ≤ request.count ∧
          engine.Answers request entry (engine.renderDocument v) := by
  have htiers : ∀ request : Request,
      engine.Refuses request ∧ (engine.render request).Fatal ∨
      ¬ engine.Refuses request ∧ ¬ (engine.render request).Fatal ∧
        ∃ entry, engine.Answers request entry (engine.render request) := by
    intro request
    by_cases hrefuses : engine.Refuses request
    · exact .inl ⟨hrefuses, hrefuses.render_fatal⟩
    · obtain ⟨entry, hanswers⟩ := render_answers hrefuses
      exact .inr ⟨hrefuses, hanswers.not_fatal, entry, hanswers⟩
  refine ⟨htiers, fun v => ?_⟩
  unfold renderDocument
  cases hread : Request.read v with
  | faulty faults => exact .inl ⟨.invalid hread, fatal_fatal _ _⟩
  | ok request =>
      simp only
      rcases htiers request with ⟨hrefuses, hfatal⟩ | ⟨hrefuses, hfatal, entry, hanswers⟩
      · exact .inl ⟨.refused hread hrefuses, hfatal⟩
      · refine .inr ⟨fun hdocument => ?_, hfatal, request, entry, rfl,
          Request.count_of_read hread, hanswers⟩
        cases hdocument with
        | invalid h =>
            rw [hread] at h
            cases h
        | refused h hrefuses' =>
            rw [hread] at h
            cases h
            exact hrefuses hrefuses'

end PromptTree
