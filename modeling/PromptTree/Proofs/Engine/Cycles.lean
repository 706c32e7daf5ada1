import PromptTree.Proofs.Answers
import PromptTree.Proofs.Engine.DepthLimit
import PromptTree.Proofs.Render.Cycles

/-!
# Requests and cycles of references

When is a reference of a request reported as a cycle?  If the keys of a store are unique,
exactly when it leads to a section that is being expanded, and so never in a store whose
sections do not lead to themselves (`render_cycles`).  Keys are unique in a store that was
filled by additions if no namespace has a colon (`Store.ofAdditions_unique`).

With a colon in a namespace they need not be, and then a reference may be cut that leads to
another section (`render_cycles_sharedKey`).

## Main Definitions

* `World.renderOnceInside` — one rendering that knows the sections being expanded.
-/

namespace PromptTree

/-- Renders a tree from the beginning, inside sections: the text or a failure, and what the
rendering leaves behind. -/
def World.renderOnceInside (world : World) (entropy : Nat → Float) (enclosing : List Section)
    (content : Content) (b : Bindings) : Except Failure String × RunState :=
  world.renderInside enclosing content b { generator := world.source.shared entropy }

namespace Store

/-- The lookups of a store find sections of the store. -/
theorem resolver_findsIn (store : Store) : store.resolver.FindsIn store.sections :=
  fun _ _ hfound => mem_sections_of_section? (Except.ok.inj hfound)

/-- Keys of plain namespaces are unique in a store that was filled by additions. -/
theorem ofAdditions_unique {current : Option String} {additions : List Addition}
    (hplain : ∀ entity ∈ (ofAdditions current additions).sections,
      entity.identity.HasPlainScope) :
    (Shelf.keys (ofAdditions current additions).sections).Nodup :=
  Shelf.nodup_keys_of_plain (ofAdditions_distinct current additions).sections hplain

end Store

section Worlds

variable {world : World} {store : Store} (hresolver : world.resolver = store.resolver)
  (hunique : (Shelf.keys store.sections).Nodup)
include hresolver hunique

/-- One rendering is the same as one that knows the sections being expanded. -/
theorem renderOnce_eq_renderOnceInside {enclosing : List Section}
    (hinside : enclosing ⊆ store.sections) (entropy : Nat → Float) (content : Content)
    (b : Bindings) :
    world.renderOnce entropy (Shelf.keys enclosing) content b =
      world.renderOnceInside entropy enclosing content b := by
  have hfinds : world.resolver.FindsIn store.sections := hresolver ▸ store.resolver_findsIn
  rw [World.renderOnce, World.renderOnceInside, renderTree_eq_renderInside hfinds hunique hinside]

variable (hacyclic : store.resolver.Acyclic)
include hacyclic

/-- A section reports no cycle, if none leads to itself. -/
theorem renderOnce_section_cycleFree {entry : Section} (hentry : entry ∈ store.sections)
    (entropy : Nat → Float) (b : Bindings) :
    ∀ issue ∈ (world.renderOnce entropy [entry.identity.scopedId] entry.body.content b).2.issues,
      issue.CycleFree := by
  have hfinds : world.resolver.FindsIn store.sections := hresolver ▸ store.resolver_findsIn
  have hacyclic' : world.resolver.Acyclic := hresolver ▸ hacyclic
  have hinside : [entry] ⊆ store.sections := List.cons_subset.mpr ⟨hentry, List.nil_subset _⟩
  have hleads : ∀ id, .sectionRef id ∈ entry.body.content.nodes → ∀ found,
      world.resolver.findSection id = .ok (some found) →
        ∀ entity ∈ [entry], Relation.TransGen world.resolver.Refers entity found := by
    intro id hid found hfound entity hentity
    obtain rfl := List.mem_singleton.mp hentity
    exact .single ⟨id, hid, hfound⟩
  have hrun := renderTree_cycleFree hfinds hunique hacyclic' hinside hleads b
  exact (hrun { generator := world.source.shared entropy }).forall_mem rfl

/-- A tree outside all sections reports no cycle, if no section leads to itself. -/
theorem renderOnce_tree_cycleFree (entropy : Nat → Float) (content : Content) (b : Bindings) :
    ∀ issue ∈ (world.renderOnce entropy [] content b).2.issues, issue.CycleFree := by
  have hfinds : world.resolver.FindsIn store.sections := hresolver ▸ store.resolver_findsIn
  have hacyclic' : world.resolver.Acyclic := hresolver ▸ hacyclic
  have hleads : ∀ id, .sectionRef id ∈ content.nodes → ∀ found,
      world.resolver.findSection id = .ok (some found) →
        ∀ entity ∈ [], Relation.TransGen world.resolver.Refers entity found :=
    fun _ _ _ _ => nofun
  have hrun := renderTree_cycleFree hfinds hunique hacyclic' (List.nil_subset _) hleads b
  exact (hrun { generator := world.source.shared entropy }).forall_mem rfl

end Worlds

/-- The issues of what is rendered outside a request are those of one rendering. -/
theorem Engine.issues_of_renderTree {engine : Engine} {stack : List String} {content : Content}
    {b : Bindings} {seed : Option Int} {rendered : Rendered}
    (h : engine.renderTree stack content b seed = .ok rendered) :
    rendered.issues = ((engine.world (.make seed false)).renderOnce (engine.entropy 0) stack
      content b).2.issues := by
  unfold renderTree at h
  rcases hrun : (engine.world (.make seed false)).renderOnce (engine.entropy 0) stack
    content b with ⟨failure | text, s⟩
  · simp only [hrun] at h
    cases h
  · simp only [hrun] at h
    cases h
    rfl

/-- A tree of a document is rendered outside all sections. -/
theorem Engine.issues_of_renderContent {engine : Engine} {v : Value} {b : Bindings}
    {seed : Option Int} {rendered : Rendered} (h : engine.renderContent v b seed = .ok rendered) :
    ∃ content, rendered.issues = ((engine.world (.make seed false)).renderOnce (engine.entropy 0) []
      content b).2.issues := by
  unfold renderContent at h
  split at h
  · cases h
  · rename_i content _
    exact ⟨content, issues_of_renderTree (mapError_eq_ok_iff.mp h)⟩

/-- **Reports of cycles are exact.**  For the lookups of a store that was filled by additions,
if no two of its sections share a key:

* every output of every request, and every rendering of a tree or of a section outside a
  request, is that of the renderer that knows the sections being expanded and takes for a
  cycle exactly the references to one of them, the entry point included: the same text or
  failure, and the same issues;
* if no section leads to itself by references, then none of these renderings reports a
  cycle, those that fail included.  A reference that is cut is reported, so none is cut. -/
theorem render_cycles (current : Option String) (additions : List Store.Addition)
    (engine : Engine) :
    let store := Store.ofAdditions current additions
    engine.resolver = store.resolver → (Shelf.keys store.sections).Nodup →
      (∀ request entry k, engine.resolver.findSection request.templateId = .ok (some entry) →
        engine.renderOutput request entry k =
          (engine.world (.forOutput request.seed k request.reseeds)).renderOnceInside
            (engine.entropy k) [entry] entry.body.content request.bindings) ∧
      (∀ seed content b,
        (engine.world (.make seed false)).renderOnce (engine.entropy 0) [] content b =
          (engine.world (.make seed false)).renderOnceInside (engine.entropy 0) [] content b) ∧
      (∀ entry ∈ store.sections, ∀ seed b,
        (engine.world (.make seed false)).renderOnce (engine.entropy 0) [entry.identity.scopedId]
            entry.body.content b =
          (engine.world (.make seed false)).renderOnceInside (engine.entropy 0) [entry]
            entry.body.content b) ∧
      (store.resolver.Acyclic →
        (∀ request entry k, engine.resolver.findSection request.templateId = .ok (some entry) →
          ∀ issue ∈ (engine.renderOutput request entry k).2.issues,
            issue.code ≠ "CYCLE_DETECTED") ∧
        (∀ seed content b, ∀ issue ∈ ((engine.world (.make seed false)).renderOnce
          (engine.entropy 0) [] content b).2.issues, issue.code ≠ "CYCLE_DETECTED") ∧
        (∀ entry ∈ store.sections, ∀ seed b, ∀ issue ∈ ((engine.world (.make seed false)).renderOnce
          (engine.entropy 0) [entry.identity.scopedId] entry.body.content b).2.issues,
            issue.code ≠ "CYCLE_DETECTED") ∧
        (∀ request, ∀ output ∈ (engine.render request).outputs,
          ∀ issue ∈ output.issues, issue.code ≠ "CYCLE_DETECTED") ∧
        (∀ v b seed rendered, engine.renderContent v b seed = .ok rendered →
          ∀ issue ∈ rendered.issues, issue.code ≠ "CYCLE_DETECTED") ∧
        ∀ entry ∈ store.sections, ∀ b seed rendered,
          engine.renderSection entry b seed = .ok rendered →
            ∀ issue ∈ rendered.issues, issue.code ≠ "CYCLE_DETECTED") := by
  intro store hresolver hunique
  have hlisted : ∀ {id entry}, engine.resolver.findSection id = .ok (some entry) →
      entry ∈ store.sections := by
    intro id entry hentry
    rw [hresolver] at hentry
    exact store.resolver_findsIn id entry hentry
  have hworld : ∀ source, (engine.world source).resolver = store.resolver := fun _ => hresolver
  have hentered : ∀ {entry}, entry ∈ store.sections → [entry] ⊆ store.sections :=
    fun hentry => List.cons_subset.mpr ⟨hentry, List.nil_subset _⟩
  refine ⟨?_, ?_, ?_, fun hacyclic => ?_⟩
  · intro request entry k hentry
    exact renderOnce_eq_renderOnceInside (hworld _) hunique (hentered (hlisted hentry)) _ _ _
  · intro seed content b
    exact renderOnce_eq_renderOnceInside (hworld _) hunique (List.nil_subset _) _ _ _
  · intro entry hentry seed b
    exact renderOnce_eq_renderOnceInside (hworld _) hunique (hentered hentry) _ _ _
  · have houtput : ∀ request entry k,
        engine.resolver.findSection request.templateId = .ok (some entry) →
          ∀ issue ∈ (engine.renderOutput request entry k).2.issues, issue.CycleFree := by
      intro request entry k hentry
      exact renderOnce_section_cycleFree (hworld _) hunique hacyclic (hlisted hentry) _ _
    have htree : ∀ seed content b, ∀ issue ∈ ((engine.world (.make seed false)).renderOnce
        (engine.entropy 0) [] content b).2.issues, issue.CycleFree := by
      intro seed content b
      exact renderOnce_tree_cycleFree (hworld _) hunique hacyclic _ _ _
    have hsection : ∀ entry ∈ store.sections, ∀ seed b,
        ∀ issue ∈ ((engine.world (.make seed false)).renderOnce (engine.entropy 0)
          [entry.identity.scopedId] entry.body.content b).2.issues, issue.CycleFree := by
      intro entry hentry seed b
      exact renderOnce_section_cycleFree (hworld _) hunique hacyclic hentry _ _
    refine ⟨houtput, htree, hsection, ?_, ?_, ?_⟩
    · intro request output hmem
      obtain ⟨entry, k, hentry, hissues⟩ := Engine.exists_renderOutput_of_mem hmem
      rw [hissues]
      exact houtput request entry k hentry
    · intro v b seed rendered hrendered
      obtain ⟨content, hissues⟩ := Engine.issues_of_renderContent hrendered
      rw [hissues]
      exact htree seed content b
    · intro entry hentry b seed rendered hrendered
      rw [Engine.issues_of_renderTree hrendered]
      exact hsection entry hentry seed b

/-- A letter that refers to a note. -/
def letterWith (scope id note : String) : Section :=
  ⟨{ id := id, scope := scope },
    { content := .composite [.text "Dear all, ", .sectionRef note], isEntryPoint := true }⟩

/-- A note, which refers to nothing. -/
def noteOf (scope id : String) : Section :=
  ⟨{ id := id, scope := scope }, { content := .text "see below.", exportable := true }⟩

/-- A letter and the note that it refers to are acyclic. -/
private theorem acyclic_letter {store : Store} {scope id key scope' id' : String}
    (hsections : store.sections = [letterWith scope id key, noteOf scope' id'])
    (hkey : store.section? key = some (noteOf scope' id')) : store.resolver.Acyclic := by
  refine Resolver.acyclic_of_rank store.resolver_findsIn
    (fun entity => entity.body.content.nodes.length) ?_
  rw [hsections]
  rintro entity hentity found ⟨ref, href, hfound⟩
  have hfound : store.section? ref = some found := Except.ok.inj hfound
  rcases List.mem_pair.mp hentity with rfl | rfl
  · obtain rfl : ref = key := by
      simpa [letterWith, Content.nodes_eq, Content.children] using href
    obtain rfl : noteOf scope' id' = found := Option.some_inj.mp (hkey.symm.trans hfound)
    simp [letterWith, noteOf, Content.nodes_eq, Content.children]
  · simp [noteOf, Content.nodes_eq, Content.children] at href

/-- A letter and a note of a namespace without a colon: no cycle is reported. -/
theorem render_cycles_letter :
    let store := Store.ofAdditions (some "mail")
      [.ofSection (letterWith "mail" "letter" "note"), .ofSection (noteOf "mail" "note")]
    let engine : Engine := { resolver := store.resolver }
    let request : Request := { templateId := "letter" }
    (Shelf.keys store.sections).Nodup ∧ store.resolver.Acyclic ∧
      (∀ output ∈ (engine.render request).outputs,
        ∀ issue ∈ output.issues, issue.code ≠ "CYCLE_DETECTED") ∧
      ((engine.render request).outputs.map fun output => (output.text, output.issues)) =
        [("Dear all, see below.", [])] := by
  intro store engine request
  have hplain : ∀ entity ∈ store.sections, entity.identity.HasPlainScope := by
    intro entity hentity
    rcases List.mem_pair.mp hentity with rfl | rfl
    · decide
    · decide
  have hunique : (Shelf.keys store.sections).Nodup := Store.ofAdditions_unique hplain
  have hacyclic : store.resolver.Acyclic := acyclic_letter rfl (by rfl)
  obtain ⟨-, -, -, hfree⟩ := render_cycles _ _ engine rfl hunique
  obtain ⟨-, -, -, houtputs, -⟩ := hfree hacyclic
  exact ⟨hunique, hacyclic, houtputs request, by decide +kernel⟩

/-- A cycle may be reported without one.  The letter "mail:letter" of one namespace and the
note "letter" of another one share a key, so the reference of the letter to the note is cut
and reported, although no section leads to itself. -/
theorem render_cycles_sharedKey :
    let letter := letterWith "acme" "mail:letter" "letter"
    let note := noteOf "acme:mail" "letter"
    let store := Store.ofAdditions none [.ofSection letter, .ofSection note]
    let engine : Engine := { resolver := store.resolver }
    let request : Request := { templateId := "acme:mail:letter" }
    store.section? request.templateId = some letter ∧ store.section? "letter" = some note ∧
      letter.identity.sameKey note.identity = false ∧ store.resolver.Acyclic ∧
      ((engine.render request).outputs.map fun output => (output.text, output.issues)) =
        [("Dear all, ", [.cycle ["acme:mail:letter"] "acme:mail:letter"])] := by
  intro letter note store engine request
  have hletter : store.section? "acme:mail:letter" = some letter := by rfl
  have hnote : store.section? "letter" = some note := by rfl
  exact ⟨hletter, hnote, by decide, acyclic_letter rfl hnote, by decide +kernel⟩

end PromptTree
