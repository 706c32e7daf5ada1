import PromptTree.Proofs.Engine.Accounting

/-!
# Seeded batches

The outputs of a request with a seed are independent of each other: output `k` is what its
section comes to by itself with the seed `k` further on (`render_seeded`).  What has to be
shown for it is that the two ways to a rendering, of an output and of a section by itself,
start in the same world and from the same generator; the accounts of the batch are then
those of these single renderings.

If every node starts anew from the seed, the outputs do not differ at all.

## Main Definitions

* `Engine.sectionOutcome` — what a section comes to outside a request, and what it used.
* `BatchError.of?` — the error of a batch that a failed rendering is.
-/

namespace PromptTree

/-- With a seed, the draws of renderings without one play no part. -/
theorem World.renderOnce_of_seed {world : World} {seed : Int} (h : world.source.seed = some seed)
    (entropy entropy' : Nat → Float) (stack : List String) (content : Content) (b : Bindings) :
    world.renderOnce entropy stack content b = world.renderOnce entropy' stack content b := by
  have hshared : world.source.shared entropy = world.source.shared entropy' := by
    simp only [Random.Source.shared, h]
  simp only [World.renderOnce, hshared]

/-! ## Sections by themselves -/

/-- What a section comes to outside a request, with what the rendering leaves behind. -/
def Engine.sectionOutcome (engine : Engine) (entry : Section) (b : Bindings) (seed : Option Int) :
    Outcome :=
  (engine.world (.make seed false)).renderOnce (engine.entropy 0) [entry.identity.scopedId]
    entry.body.content b

/-- The error under a number of a rendering that failed. -/
def BatchError.of? (number : Nat) : Except Failure Rendered → Option BatchError
  | .ok _ => none
  | .error failure => some (.output number failure.message)

namespace Engine

section Sections

variable (engine : Engine) (entry : Section) (b : Bindings) (seed : Option Int)

theorem renderSection_eq_map :
    engine.renderSection entry b seed =
      (engine.sectionOutcome entry b seed).1.map fun text =>
        ⟨text, b.vars, (engine.sectionOutcome entry b seed).2.issues⟩ := rfl

theorem rendered?_sectionOutcome :
    (engine.sectionOutcome entry b seed).rendered? b.vars =
      (engine.renderSection entry b seed).toOption := by
  rw [renderSection_eq_map]
  rcases engine.sectionOutcome entry b seed with ⟨failure | text, s⟩
  · rfl
  · rfl

theorem error?_sectionOutcome (number : Nat) :
    (engine.sectionOutcome entry b seed).error? number =
      BatchError.of? number (engine.renderSection entry b seed) := by
  rw [renderSection_eq_map]
  rcases engine.sectionOutcome entry b seed with ⟨failure | text, s⟩
  · rfl
  · rfl

end Sections

/-! ## Outputs with a seed -/

section Outputs

variable (engine : Engine) {request : Request} (entry : Section) {seed : Int}

/-- **An output is a section by itself**, with the seed that many further on. -/
theorem renderOutput_eq_sectionOutcome (hseed : request.seed = some seed)
    (hshared : request.reseeds = false) (k : Nat) :
    engine.renderOutput request entry k =
      engine.sectionOutcome entry request.bindings (some (seed + k)) := by
  have hsource : Random.Source.forOutput request.seed k request.reseeds =
      .make (some (seed + k)) false := by
    simp only [Random.Source.forOutput, hseed, hshared, Bool.false_eq_true, if_false]
  unfold renderOutput sectionOutcome
  rw [hsource]
  -- The two differ only in the draws that a rendering without a seed would take.
  exact World.renderOnce_of_seed rfl _ _ _ _ _

/-- Outputs whose nodes start anew from the seed are all the same. -/
theorem renderOutput_eq_first (hseed : request.seed = some seed)
    (hreseeds : request.reseeds = true) (k : Nat) :
    engine.renderOutput request entry k = engine.renderOutput request entry 0 := by
  have hsource : ∀ k : Nat, Random.Source.forOutput request.seed k request.reseeds =
      .make (some seed) true := by
    intro k
    simp only [Random.Source.forOutput, hseed, hreseeds, if_true]
  unfold renderOutput
  rw [hsource k, hsource 0]
  exact World.renderOnce_of_seed rfl _ _ _ _ _

/-- A request within the limit for an entry point is answered by a batch. -/
theorem render_eq_renderBatch (hcount : request.count ≤ engine.settings.maxOutputCount)
    {entry : Section} (hfound : engine.resolver.findSection request.templateId = .ok (some entry))
    (hentry : entry.body.isEntryPoint = true) :
    engine.render request = engine.renderBatch request entry := by
  have hpoint : engine.findEntryPoint request.templateId = .ok entry := by
    simp only [findEntryPoint, hfound, hentry, if_true]
  simp only [render, not_lt.mpr hcount, if_false, hpoint]

end Outputs

end Engine

/-! ## Batches with a seed -/

/-- The result holds what a section comes to by itself, with `n` seeds from the first on. -/
structure Result.HoldsSection (result : Result) (engine : Engine) (entry : Section) (b : Bindings)
    (seed : Int) (n : Nat) : Prop where
  outputs : result.outputs = (List.range n).filterMap fun k : Nat =>
    (engine.renderSection entry b (some (seed + k))).toOption
  errors : result.errors = (List.range n).filterMap fun k : Nat =>
    BatchError.of? (k + 1) (engine.renderSection entry b (some (seed + k)))
  variablesUsed : result.variablesUsed.IsUnion n fun k =>
    (engine.sectionOutcome entry b (some (seed + k))).2.variablesUsed
  sectionsUsed : result.sectionsUsed.IsUnion n fun k =>
    (engine.sectionOutcome entry b (some (seed + k))).2.sectionsUsed

/-- All `n` outputs are the same, or all of them failed with the same message. -/
def Result.Uniform (result : Result) (n : Nat) : Prop :=
  (∃ output, result.outputs = List.replicate n output ∧ result.errors = []) ∨
  (∃ message, result.outputs = [] ∧
    result.errors = (List.range n).map fun k => .output (k + 1) message)

section Batches

variable {result : Result} {engine : Engine} {entry : Section} {b : Bindings} {seed : Int}
  {outcomes : Nat → Outcome} {n : Nat}

theorem Result.Holds.holdsSection (h : result.Holds b.vars outcomes n)
    (heq : ∀ k, outcomes k = engine.sectionOutcome entry b (some (seed + k))) :
    result.HoldsSection engine entry b seed n := by
  obtain rfl : outcomes = fun k : Nat => engine.sectionOutcome entry b (some (seed + k)) :=
    funext heq
  refine ⟨?_, ?_, h.variablesUsed, h.sectionsUsed⟩
  · simp only [h.outputs, Engine.rendered?_sectionOutcome]
  · simp only [h.errors, Engine.error?_sectionOutcome]

/-- Outcomes with one result and the same issues are the same to whoever asked for them. -/
theorem Result.Holds.uniform_of_alike {vars : Entries} (h : result.Holds vars outcomes n)
    (hresult : ∀ k, (outcomes k).1 = (outcomes 0).1)
    (hissues : ∀ k, (outcomes k).2.issues = (outcomes 0).2.issues) : result.Uniform n := by
  have houtputs := h.outputs
  have herrors := h.errors
  rw [funext fun k => Outcome.rendered?_congr (hresult k) (hissues k)] at houtputs
  rw [funext fun k => Outcome.error?_congr (hresult k)] at herrors
  generalize outcomes 0 = outcome at houtputs herrors
  obtain ⟨failure | text, s⟩ := outcome
  · refine .inr ⟨failure.message, ?_, ?_⟩
    · simpa [Outcome.rendered?] using houtputs
    · simpa [Outcome.error?] using herrors
  · refine .inl ⟨⟨text, vars, s.issues⟩, ?_, ?_⟩
    · simpa [Outcome.rendered?] using houtputs
    · simpa [Outcome.error?] using herrors

theorem Result.Holds.uniform {vars : Entries} (h : result.Holds vars outcomes n)
    (heq : ∀ k, outcomes k = outcomes 0) : result.Uniform n :=
  h.uniform_of_alike (fun k => congrArg Prod.fst (heq k))
    fun k => congrArg (fun outcome => outcome.2.issues) (heq k)

end Batches

/-- **Batches with a seed are made of single renderings.**  Output `k`, counted from zero,
is what the section of the entry point comes to by itself with the seed `k` further on: its
text, values and warnings are an output, or its failure is the error under the number
`k + 1`; and the names used are those that any of the single renderings used, the failing
ones included.  If every node starts anew from the seed, all outputs are the same. -/
theorem Engine.render_seeded (engine : Engine) (request : Request) (entry : Section) (seed : Int)
    (hfound : engine.resolver.findSection request.templateId = .ok (some entry))
    (hentry : entry.body.isEntryPoint = true)
    (hcount : request.count ≤ engine.settings.maxOutputCount)
    (hseed : request.seed = some seed) :
    if request.reseeds then (engine.render request).Uniform request.count.toNat
    else (engine.render request).HoldsSection engine entry request.bindings seed
      request.count.toNat := by
  rw [engine.render_eq_renderBatch hcount hfound hentry]
  have hholds := engine.renderBatch_holds request entry
  split
  · rename_i hreseeds
    exact hholds.uniform (engine.renderOutput_eq_first entry hseed hreseeds)
  · rename_i hshared
    exact hholds.holdsSection
      (engine.renderOutput_eq_sectionOutcome entry hseed (by simpa using hshared))

/-- Three greetings to pick from, the last of which cannot be rendered. -/
def pickedGreeting : Section :=
  ⟨{ id := "greeting" },
    { content := .pickOne [.text "Hi", .text "Hello", .sectionRef "lost"] none
      isEntryPoint := true }⟩

/-- The section of greetings, and one whose lookup fails. -/
def greetingSections : Resolver where
  findSection
    | "greeting" => .ok (some pickedGreeting)
    | "lost" => .error (.lookup "lost")
    | _ => .ok none
  findSeparatorSet _ := .ok none
  findDataType _ := .ok none

/-- Three greetings with the seeds from seven on. -/
theorem render_seeded_greeting :
    let engine : Engine := { resolver := greetingSections }
    let request : Request :=
      { templateId := "greeting", count := 3, randomize := some { seed := some 7 } }
    engine.resolver.findSection "greeting" = .ok (some pickedGreeting) ∧
      pickedGreeting.body.isEntryPoint = true ∧ request.count ≤ engine.settings.maxOutputCount ∧
      request.seed = some 7 ∧ request.reseeds = false ∧
      (engine.render request).HoldsSection engine pickedGreeting {} 7 3 := by
  intro engine request
  have hcount : request.count ≤ engine.settings.maxOutputCount := by decide
  have hbatch := engine.render_seeded request pickedGreeting 7 rfl rfl hcount rfl
  rw [if_neg (by decide)] at hbatch
  exact ⟨rfl, rfl, hcount, rfl, rfl, hbatch⟩

end PromptTree
