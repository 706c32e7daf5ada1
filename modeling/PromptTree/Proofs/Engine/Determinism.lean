import PromptTree.Proofs.Engine.Seeds
import PromptTree.Proofs.Render.Drawless

/-!
# Determinism

Without random nodes there is no randomness (`renderTree_deterministic`).  A tree that draws
nothing comes to the same with every seed and without one; so all outputs of a batch are
the same whose section draws nothing (`Engine.render_uniform`); and it may be put between
other parts of a composite, which go on as if it was not there.

All rests on the rendering of trees: `Proofs.Render.Drawless` says that they take no draw,
and `Proofs.Render.Record` that what they record does not come back.
-/

namespace PromptTree

/-- **All outputs of a batch are the same** if its sections draw nothing: whether there is a
seed or not, and whether nodes start anew from it. -/
theorem Engine.render_uniform (engine : Engine) (request : Request) {entry : Section}
    (hsections : engine.resolver.DrawsNothing)
    (hfound : engine.resolver.findSection request.templateId = .ok (some entry))
    (hentry : entry.body.isEntryPoint = true)
    (hcount : request.count ≤ engine.settings.maxOutputCount) :
    (engine.render request).Uniform request.count.toNat := by
  have houtput : ∀ k, (engine.renderOutput request entry k).1 =
        (engine.renderOutput request entry 0).1 ∧
      (engine.renderOutput request entry k).2.issues =
        (engine.renderOutput request entry 0).2.issues := by
    intro k
    let source (k : Nat) := Random.Source.forOutput request.seed k request.reseeds
    have hworld : (engine.world (source 0)).resolver.DrawsNothing := hsections
    -- The outputs differ in the source of draws and in the generator that they start from.
    have hrun : engine.renderOutput request entry k =
        ((engine.renderOutput request entry 0).1,
          { (engine.renderOutput request entry 0).2 with
            generator := (source k).shared (engine.entropy k) }) :=
      renderTree_drawlessRuns (source k) hworld
        (hsections request.templateId entry hfound) [entry.identity.scopedId] request.bindings
        { generator := (source 0).shared (engine.entropy 0) }
        ((source k).shared (engine.entropy k))
    rw [hrun]
    exact ⟨rfl, rfl⟩
  rw [engine.render_eq_renderBatch hcount hfound hentry]
  exact (engine.renderBatch_holds request entry).uniform_of_alike (fun k => (houtput k).1)
    fun k => (houtput k).2

/-- **Trees that draw nothing ignore randomness**, in a world whose sections draw nothing
either.

* From another source of draws, and another generator, such a tree is rendered the same: the
  same text or failure, with the same record.  The generator stays where it was.
* All outputs of a batch are the same, or all of them fail with the same message.
* Put at any position between the parts of a composite, the tree adds its own text there,
  and the texts of the other parts, random ones too, are what they were, as is the generator
  at the end.  If the tree fails, the parts before it are still rendered as they were. -/
theorem renderTree_deterministic (world : World) (hsections : world.resolver.DrawsNothing)
    (content : Content) (htree : content.DrawsNothing) :
    (∀ source stack b s generator,
      (world.withSource source).renderTree stack content b { s with generator := generator } =
          ((world.renderTree stack content b s).1,
            { (world.renderTree stack content b s).2 with generator := generator }) ∧
        (world.renderTree stack content b s).2.generator = s.generator) ∧
    (∀ (engine : Engine) request entry, engine.resolver = world.resolver →
      engine.resolver.findSection request.templateId = .ok (some entry) →
      entry.body.isEntryPoint = true → request.count ≤ engine.settings.maxOutputCount →
        (engine.render request).Uniform request.count.toNat) ∧
    ∀ stack b s parts position,
      (∀ text, (world.renderTree stack content b s).1 = .ok text →
        (world.partTexts stack (parts.insertIdx position content) b s).1 =
            (world.partTexts stack parts b s).1.map (·.insertIdx position text) ∧
          (world.partTexts stack (parts.insertIdx position content) b s).2.generator =
            (world.partTexts stack parts b s).2.generator) ∧
      ∀ failure, (world.renderTree stack content b s).1 = .error failure →
        position ≤ parts.length →
          (world.partTexts stack (parts.insertIdx position content) b s).1 =
            (world.partTexts stack (parts.take position) b s).1.bind fun _ => .error failure := by
  refine ⟨fun source stack b s generator => ⟨?_, ?_⟩, ?_, fun stack b s parts position => ⟨?_, ?_⟩⟩
  · exact renderTree_drawlessRuns source hsections htree stack b s generator
  · exact (renderTree_of_drawsNothing hsections htree stack b s s).2
  · intro engine request entry hresolver hfound hentry hcount
    rw [← hresolver] at hsections
    exact engine.render_uniform request hsections hfound hentry hcount
  · intro text htext
    exact partTexts_insert stack b hsections htree htext parts position
  · intro failure hfailure hposition
    exact partTexts_insert_of_error stack b hsections htree hfailure hposition

/-- The section `signature` names the sender. -/
def signature : Section :=
  ⟨{ id := "signature" }, { content := .variable "sender" none none, isEntryPoint := true }⟩

/-- The section `signature`, and no other. -/
def signatureSection : Resolver where
  findSection
    | "signature" => .ok (some signature)
    | _ => .ok none
  findSeparatorSet _ := .ok none
  findDataType _ := .ok none

theorem signatureSection_drawsNothing : signatureSection.DrawsNothing := by
  intro id found hfound
  simp only [signatureSection] at hfound
  split at hfound
  · cases hfound
    exact .node rfl nofun
  · cases hfound

/-- A signature put before the mark that ends a greeting, which is drawn, and three
signatures without a seed. -/
theorem renderTree_deterministic_signature :
    let world : World := { resolver := signatureSection, source := .make (some 7) false }
    let b : Bindings := { vars := [("sender", .str "Bo")] }
    let start : RunState := { generator := .seeded 7 }
    let greeting : Content := .pickOne [.text "Hi from ", .text "Hello from "] none
    let engine : Engine := { resolver := signatureSection }
    let request : Request := { templateId := "signature", bindings := b, count := 3 }
    world.resolver.DrawsNothing ∧ (Content.sectionRef "signature").DrawsNothing ∧
      (world.renderTree [] (.sectionRef "signature") b start).1 = .ok "Bo" ∧
      (world.partTexts [] [greeting, .sectionRef "signature", .text "!"] b start).1 =
        (world.partTexts [] [greeting, .text "!"] b start).1.map (·.insertIdx 1 "Bo") ∧
      engine.resolver.findSection "signature" = .ok (some signature) ∧
      signature.body.isEntryPoint = true ∧ request.count ≤ engine.settings.maxOutputCount ∧
      (engine.render request).Uniform 3 := by
  intro world b start greeting engine request
  have htree : (Content.sectionRef "signature").DrawsNothing := .node rfl nofun
  have htext : (world.renderTree [] (.sectionRef "signature") b start).1 = .ok "Bo" := rfl
  have hcount : request.count ≤ engine.settings.maxOutputCount := by decide
  obtain ⟨-, hbatch, hinsert⟩ :=
    renderTree_deterministic world signatureSection_drawsNothing (.sectionRef "signature") htree
  have hparts := ((hinsert [] b start [greeting, .text "!"] 1).1 "Bo" htext).1
  have huniform := hbatch engine request signature rfl rfl rfl hcount
  exact ⟨signatureSection_drawsNothing, htree, htext, hparts, rfl, rfl, hcount, huniform⟩

end PromptTree
