import PromptTree.Proofs.Render.Induction

/-!
# The issues of a rendering

Which issues can a rendering record?  Nodes by themselves record the issues that any node
may have, `Issue.IsLocal`, and one at a node of no known kind; references record the
issues about references.  So issues of a certain sort are all that is recorded if these
are of that sort (`issueRuns_render`, `issueRuns_expand`).

The sort is a parameter.  Of two theorems that use it, one is about the depth of the
nesting, which depends on how references are followed, and one about nodes of no known
kind, which depends on the trees only.

## Main Definitions

* `RunState.Adds` — from one state to the next, only issues of one sort were recorded.
* `issueRuns` — the runs that record no others.
-/

namespace PromptTree

/-- Between the two states only issues of the sort were recorded. -/
def RunState.Adds (P : Issue → Prop) (s t : RunState) : Prop :=
  ∃ added, t.issues = s.issues ++ added ∧ ∀ issue ∈ added, P issue

section Runs

variable {P : Issue → Prop} {s t u : RunState}

/-- A state with the same issues. -/
theorem RunState.Adds.of_issues_eq (h : t.issues = s.issues) : s.Adds P t :=
  ⟨[], by rw [h, List.append_nil], nofun⟩

theorem RunState.Adds.trans (h : s.Adds P t) (h' : t.Adds P u) : s.Adds P u := by
  obtain ⟨first, hfirst, hsort⟩ := h
  obtain ⟨second, hsecond, hsort'⟩ := h'
  refine ⟨first ++ second, ?_, ?_⟩
  · rw [hsecond, hfirst, List.append_assoc]
  · exact List.forall_mem_append.mpr ⟨hsort, hsort'⟩

/-- One issue of the sort was recorded. -/
theorem RunState.Adds.warn {issue : Issue} (h : P issue) (s : RunState) :
    s.Adds P (Run.warn issue s).2 :=
  ⟨[issue], rfl, by simpa using h⟩

/-- If no issue was recorded at first, then all that are there in the end are of the sort. -/
theorem RunState.Adds.forall_mem (h : s.Adds P t) (hnone : s.issues = []) :
    ∀ issue ∈ t.issues, P issue := by
  obtain ⟨added, hissues, hsort⟩ := h
  rw [hnone, List.nil_append] at hissues
  rw [hissues]
  exact hsort

variable (hlocal : ∀ issue : Issue, issue.IsLocal → P issue)

/-- **The runs that record only issues of one sort**, of which those are that any node may
have. -/
def issueRuns : RunRelation :=
  .along (RunState.Adds P) (fun _ => .of_issues_eq rfl) .trans fun issue h s =>
    .warn (hlocal issue h) s

/-- A run that records no issues. -/
theorem issueRuns_of_silent {α : Type} {m : Run α} (h : ∀ s, (m s).2.issues = s.issues) :
    (issueRuns hlocal).Rel m m :=
  fun s => .of_issues_eq (h s)

/-- A run that ends with an issue of the sort, and a text in place of what it is about. -/
theorem issueRuns_warn {issue : Issue} (h : P issue) (text : String) :
    (issueRuns hlocal).Rel (do Run.warn issue; return text) (do Run.warn issue; return text) :=
  RunRelation.bind _ (fun s => .warn h s) fun _ => RunRelation.returns _ text

/-- A section is entered. -/
theorem issueRuns_within (id key : String) {m : Run String} (h : (issueRuns hlocal).Rel m m) :
    (issueRuns hlocal).Rel (do Run.useSection id; Run.within key m)
      (do Run.useSection id; Run.within key m) := by
  refine RunRelation.bind _ (issueRuns_of_silent hlocal fun s => rfl) fun _ s => ?_
  rw [Run.within_apply]
  exact h { s with moves := s.moves ++ [.enter key] }

end Runs

/-! ## Trees and references -/

section Trees

variable {P : Issue → Prop} (hlocal : ∀ issue : Issue, issue.IsLocal → P issue) (world : World)

/-- **A tree records only issues of the sort**, if the references in it do, and if the issues
at its nodes of no known kind are of the sort. -/
theorem issueRuns_render_of_refers {e : Expander} {content : Content}
    (hexpand : ∀ id, .sectionRef id ∈ content.nodes → ∀ b,
      (issueRuns hlocal).Rel (e id b) (e id b))
    (htree : content.Everywhere fun node =>
      ∀ tag fields, node = .unknown tag fields → P (.unknownNode (tag.getD "None")))
    (b : Bindings) :
    (issueRuns hlocal).Rel (render world e content b) (render world e content b) := by
  refine render_rel_of_refers (fun b id => ?_) rfl rfl (fun draws => ?_) hexpand ?_ b
  · exact issueRuns_of_silent hlocal (Run.issues_readVariable b id)
  · exact issueRuns_of_silent hlocal fun s => rfl
  · exact htree.imp fun _ hunknown tag fields hnode s => .warn (hunknown tag fields hnode) s

/-- A tree records only issues of the sort, if all references do. -/
theorem issueRuns_render {e : Expander}
    (hexpand : ∀ id b, (issueRuns hlocal).Rel (e id b) (e id b)) {content : Content}
    (htree : content.Everywhere fun node =>
      ∀ tag fields, node = .unknown tag fields → P (.unknownNode (tag.getD "None")))
    (b : Bindings) :
    (issueRuns hlocal).Rel (render world e content b) (render world e content b) :=
  issueRuns_render_of_refers hlocal world (fun id _ => hexpand id) htree b

/-- **A reference records only issues of the sort**, if what it may come to does: a section
that is missing, one that is being expanded, one that there is no room for, and one that is
entered. -/
theorem issueRuns_expand {room : Nat} {stack : List String} {id : String} {b : Bindings}
    (hmissing : P (.sectionNotFound id))
    (hcycle : ∀ found, world.resolver.findSection id = .ok (some found) →
      found.identity.scopedId ∈ stack → P (.cycle stack found.identity.scopedId))
    (hdeep : ∀ found, world.resolver.findSection id = .ok (some found) →
      found.identity.scopedId ∉ stack → room = 0 → P (.tooDeep world.depthLimit id))
    (hentered : ∀ found inner, world.resolver.findSection id = .ok (some found) →
      found.identity.scopedId ∉ stack → room = inner + 1 →
        let run := render world (world.expand inner (stack ++ [found.identity.scopedId]))
          found.body.content b
        (issueRuns hlocal).Rel run run) :
    (issueRuns hlocal).Rel (world.expand room stack id b) (world.expand room stack id b) := by
  rcases hfound : world.resolver.findSection id with failure | (_ | found)
  · rw [expand_of_error world stack b hfound]
    exact RunRelation.fails _ failure
  · rw [expand_of_none world stack b hfound]
    exact issueRuns_warn hlocal hmissing ""
  · by_cases hkey : found.identity.scopedId ∈ stack
    · rw [expand_of_mem world b hfound hkey]
      exact issueRuns_warn hlocal (hcycle found hfound hkey) ""
    · cases room with
      | zero =>
          rw [expand_zero world b hfound hkey]
          exact issueRuns_warn hlocal (hdeep found hfound hkey rfl) ""
      | succ inner =>
          rw [expand_succ world b hfound hkey]
          exact issueRuns_within hlocal id _ (hentered found inner hfound hkey rfl)

end Trees

end PromptTree
