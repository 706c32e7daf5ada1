import PromptTree.Proofs.Engine.Accounting
import PromptTree.Proofs.Render.Depth

/-!
# Requests and the depth limit

For the sections of a store the depth limit is a setting without effect, once it is as large
as their number (`render_depthLimit`).  The stack of a rendering starts with the key of the
entry point, which is one of the keys of the store; so what `Proofs.Render.Depth` says of
trees applies to every output of every request.

## Main Definitions

* `Store.keys` — the keys of the sections of a store.
* `Engine.withDepthLimit` — an engine with another depth limit.
-/

namespace PromptTree

/-! ## The sections of a store -/

namespace Store

variable (store : Store)

/-- The keys of the sections of a store. -/
def keys : List String :=
  store.sections.map (·.identity.scopedId)

theorem length_keys : store.keys.length = store.sections.length :=
  List.length_map _

variable {store}

/-- What a lookup finds is in the store. -/
theorem mem_sections_of_section? {key : String} {found : Section}
    (h : store.section? key = some found) : found ∈ store.sections := by
  unfold section? at h
  split at h
  · exact List.mem_of_find?_eq_some h
  · rw [Option.orElse_eq_or] at h
    rcases Option.or_eq_some_iff.mp h with hcurrent | ⟨-, hexported⟩
    · unfold currentSection? at hcurrent
      split at hcurrent
      · split at hcurrent
        · cases hcurrent
        · exact List.mem_of_find?_eq_some hcurrent
      · cases hcurrent
    · exact List.mem_of_find?_eq_some hexported

/-- The keys of a store are those of the sections that its lookups find. -/
theorem resolver_keyed : store.resolver.Keyed store.keys := by
  intro id found hfound
  have hsection : store.section? id = some found := Except.ok.inj hfound
  exact List.mem_map_of_mem (mem_sections_of_section? hsection)

end Store

/-! ## Engines -/

namespace Engine

/-- The engine with another depth limit. -/
def withDepthLimit (engine : Engine) (limit : Int) : Engine :=
  { engine with settings := { engine.settings with maxSectionDepth := limit } }

/-- A request is answered alike if every output that it may ask for is. -/
theorem render_withDepthLimit_of_outputs {engine : Engine} {request : Request} {limit : Int}
    (h : ∀ entry, engine.resolver.findSection request.templateId = .ok (some entry) →
      ∀ k, (engine.withDepthLimit limit).renderOutput request entry k =
        engine.renderOutput request entry k) :
    (engine.withDepthLimit limit).render request = engine.render request :=
  render_congr rfl rfl h

/-- The outputs of a result are what renderings of an entry point came to. -/
theorem exists_renderOutput_of_mem {engine : Engine} {request : Request} {output : Rendered}
    (h : output ∈ (engine.render request).outputs) :
    ∃ entry k, engine.resolver.findSection request.templateId = .ok (some entry) ∧
      output.issues = (engine.renderOutput request entry k).2.issues := by
  unfold render at h
  simp only at h
  split at h
  · cases h
  · rcases hentry : engine.findEntryPoint request.templateId with message | entry
    · rw [hentry] at h
      cases h
    · rw [hentry] at h
      rw [(engine.renderBatch_holds request entry).outputs, List.mem_filterMap] at h
      obtain ⟨k, -, houtput⟩ := h
      refine ⟨entry, k, findSection_of_findEntryPoint hentry, ?_⟩
      rcases hrun : engine.renderOutput request entry k with ⟨failure | text, s⟩
      · rw [hrun] at houtput
        cases houtput
      · rw [hrun] at houtput
        cases houtput
        rfl

section Stores

variable {engine : Engine} {store : Store} (hresolver : engine.resolver = store.resolver)
  (request : Request) {entry : Section}
  (hentry : engine.resolver.findSection request.templateId = .ok (some entry)) (k : Nat)
include hresolver hentry

/-- The stack of an output starts with one of the keys of the store. -/
private theorem singleton_entry_subset : [entry.identity.scopedId] ⊆ store.keys := by
  rw [hresolver] at hentry
  exact List.cons_subset.mpr ⟨Store.resolver_keyed _ _ hentry, List.nil_subset _⟩

variable (hfirst : (store.sections.length : Int) ≤ engine.settings.maxSectionDepth)
include hfirst

/-- An output does not reach a limit that admits all sections of the store at once. -/
theorem renderOutput_withinDepth :
    ∀ issue ∈ (engine.renderOutput request entry k).2.issues, issue.WithinDepth := by
  have hkeyed : engine.resolver.Keyed store.keys := hresolver ▸ Store.resolver_keyed
  have hlimit : (store.keys.length : Int) ≤ engine.settings.maxSectionDepth := by
    rw [store.length_keys]
    exact hfirst
  let source := Random.Source.forOutput request.seed k request.reseeds
  have hrun := renderTree_withinDepth
    (show (engine.world source).resolver.Keyed store.keys from hkeyed) hlimit
    (List.nodup_singleton entry.identity.scopedId)
    (singleton_entry_subset hresolver request hentry) entry.body.content request.bindings
  exact (hrun { generator := source.shared (engine.entropy k) }).forall_mem rfl

/-- All limits that admit all sections of the store at once lead to the same output. -/
theorem renderOutput_withDepthLimit {limit : Int}
    (hsecond : (store.sections.length : Int) ≤ limit) :
    (engine.withDepthLimit limit).renderOutput request entry k =
      engine.renderOutput request entry k := by
  have hkeyed : engine.resolver.Keyed store.keys := hresolver ▸ Store.resolver_keyed
  rw [← store.length_keys] at hfirst hsecond
  let world := engine.world (Random.Source.forOutput request.seed k request.reseeds)
  have hsame : (world.withDepthLimit limit).renderTree [entry.identity.scopedId]
      entry.body.content request.bindings =
        world.renderTree [entry.identity.scopedId] entry.body.content request.bindings :=
    renderTree_limits world limit hkeyed hfirst hsecond
      (List.nodup_singleton entry.identity.scopedId)
      (singleton_entry_subset hresolver request hentry) entry.body.content
      request.bindings
  exact congrFun hsame _

end Stores

end Engine

/-- **The depth limit is only a backstop.**

* For the sections of a store, all limits from their number on are alike: every request has
  the same answer, with the same outputs and warnings, and no rendering for it, of those
  that are outputs and of those that fail, records `MAX_DEPTH_EXCEEDED`.
* Whatever sections there are, a rendering that does not record `MAX_DEPTH_EXCEEDED` is the
  same with any larger limit: the same text or failure, and the same state afterwards. -/
theorem render_depthLimit :
    (∀ (store : Store) (engine : Engine) (request : Request) (limit : Int),
      engine.resolver = store.resolver →
      store.sections.length ≤ engine.settings.maxSectionDepth → store.sections.length ≤ limit →
        (engine.withDepthLimit limit).render request = engine.render request ∧
        (∀ output ∈ (engine.render request).outputs,
          ∀ issue ∈ output.issues, issue.code ≠ "MAX_DEPTH_EXCEEDED") ∧
        ∀ entry, engine.resolver.findSection request.templateId = .ok (some entry) →
          ∀ k, ∀ issue ∈ (engine.renderOutput request entry k).2.issues,
            issue.code ≠ "MAX_DEPTH_EXCEEDED") ∧
    ∀ (world : World) (limit : Int), world.depthLimit ≤ limit → ∀ stack content b s,
      ∃ added, (world.renderTree stack content b s).2.issues = s.issues ++ added ∧
        ((∀ issue ∈ added, issue.code ≠ "MAX_DEPTH_EXCEEDED") →
          (world.withDepthLimit limit).renderTree stack content b s =
            world.renderTree stack content b s) := by
  constructor
  · intro store engine request limit hresolver hfirst hsecond
    refine ⟨?_, ?_, ?_⟩
    · exact Engine.render_withDepthLimit_of_outputs fun entry hentry k =>
        Engine.renderOutput_withDepthLimit hresolver request hentry k hfirst hsecond
    · intro output houtput
      obtain ⟨entry, k, hentry, hissues⟩ := Engine.exists_renderOutput_of_mem houtput
      rw [hissues]
      exact Engine.renderOutput_withinDepth hresolver request hentry k hfirst
    · intro entry hentry k
      exact Engine.renderOutput_withinDepth hresolver request hentry k hfirst
  · intro world limit hlimit stack content b s
    exact renderTree_deeper world limit hlimit stack content b s

/-- A question and an answer that refer to each other. -/
def questionAndAnswer : Store where
  sections :=
    [⟨{ id := "question" },
        { content := .composite [.text "Why? ", .sectionRef "answer"], isEntryPoint := true
          exportable := true }⟩,
      ⟨{ id := "answer" },
        { content := .composite [.text "Because. ", .sectionRef "question"]
          exportable := true }⟩]

/-- The limit two is enough for two sections, however often they refer to each other, and
the limit one is not. -/
theorem render_depthLimit_questionAndAnswer :
    let engine : Engine :=
      { resolver := questionAndAnswer.resolver, settings := { maxSectionDepth := 2 } }
    let request : Request := { templateId := "question" }
    (questionAndAnswer.sections.length : Int) ≤ engine.settings.maxSectionDepth ∧
      (engine.withDepthLimit 32).render request = engine.render request ∧
      ((engine.render request).outputs.map fun output => output.issues.map Issue.code) =
        [["CYCLE_DETECTED"]] ∧
      (((engine.withDepthLimit 1).render request).outputs.map
        fun output => output.issues.map Issue.code) = [["MAX_DEPTH_EXCEEDED"]] := by
  intro engine request
  have henough : (questionAndAnswer.sections.length : Int) ≤ engine.settings.maxSectionDepth := by
    decide
  obtain ⟨hsame, -, -⟩ :=
    render_depthLimit.1 questionAndAnswer engine request 32 rfl henough (by decide)
  exact ⟨henough, hsame, by decide +kernel, by decide +kernel⟩

end PromptTree
