import PromptTree.Proofs.Content.LongCounts
import PromptTree.Proofs.Render.Issues

/-!
# Nodes of no known kind are foreseen

The check of a tree says beforehand which nodes will be rendered as nothing
(`check_foresees_unknown`).  It finds every node of no known kind of a tree once; and where
it finds none, in a tree and in the sections that may be referred to, no rendering records
one, whatever the bindings are and whatever branches are taken.

The first part is `Proofs.Content.UnknownKinds`.  The second follows from it, since nodes of
a known kind, and references, record other issues only.

## Main Definitions

* `Issue.AboutKnown` — the issues that are not about nodes of no known kind.
* `Content.FoundKnown` — the check of the tree finds no node of no known kind.
-/

namespace PromptTree

/-- The issue is not about a node of no known kind. -/
def Issue.AboutKnown (issue : Issue) : Prop :=
  issue.code ≠ "UNKNOWN_CONTENT_TYPE"

theorem Issue.IsLocal.aboutKnown {issue : Issue} (h : issue.IsLocal) : issue.AboutKnown := by
  cases issue with
  | unknownNode _ => exact h.elim
  | _ => exact ne_of_beq_false rfl

/-- The check of the tree finds no node of no known kind. -/
def Content.FoundKnown (content : Content) : Prop :=
  ∃ problems, content.check = .ok problems ∧
    ∀ problem ∈ problems, problem.kind.code ≠ "UNKNOWN_CONTENT_TYPE"

/-- If the check finds no node of no known kind, there is none. -/
theorem Content.everywhere_known {content : Content} (hlegible : content.Everywhere Legible)
    (h : content.FoundKnown) : content.Everywhere fun node => node.isUnknown = false := by
  obtain ⟨problems, hproblems, hknown⟩ := h
  have hzero : content.nodes.countP isUnknown = 0 := by
    rw [← check_reports_unknown hlegible problems hproblems, List.countP_eq_zero]
    intro problem hproblem
    simpa using hknown problem hproblem
  refine everywhere_of_forall_mem_nodes fun node hnode => ?_
  simpa using List.countP_eq_zero.mp hzero node hnode

/-- The runs that record no node of no known kind. -/
abbrev knownRuns : RunRelation := issueRuns fun _ => Issue.IsLocal.aboutKnown

section Trees

variable {world : World}

/-- Trees whose nodes are of known kinds record no others, if their references do not. -/
theorem render_known {e : Expander} (hexpand : ∀ id b, knownRuns.Rel (e id b) (e id b))
    {content : Content} (htree : content.Everywhere fun node => node.isUnknown = false)
    (b : Bindings) : knownRuns.Rel (render world e content b) (render world e content b) := by
  refine issueRuns_render _ world hexpand (htree.imp fun node hknown tag fields hnode => ?_) b
  subst hnode
  cases hknown

variable (hsections : ∀ id found, world.resolver.findSection id = .ok (some found) →
  found.body.content.Everywhere fun node => node.isUnknown = false)
include hsections

/-- References record no node of no known kind, by induction on the number of sections that
may still be entered. -/
theorem expand_known (room : Nat) (stack : List String) (id : String) (b : Bindings) :
    knownRuns.Rel (world.expand room stack id b) (world.expand room stack id b) := by
  induction room using Nat.strongRecOn generalizing stack id b with
  | ind room ih =>
      refine issueRuns_expand _ world (ne_of_beq_false rfl) (fun _ _ _ => ne_of_beq_false rfl) ?_ ?_
      · intro found _ _ _
        exact ne_of_beq_false rfl
      · rintro found inner hfound - rfl
        exact render_known (ih inner (Nat.lt_succ_self inner) _) (hsections id found hfound) b

theorem renderTree_known {content : Content}
    (htree : content.Everywhere fun node => node.isUnknown = false) (stack : List String)
    (b : Bindings) :
    knownRuns.Rel (world.renderTree stack content b) (world.renderTree stack content b) :=
  render_known (expand_known hsections (world.room stack) stack) htree b

end Trees

/-- **The check foresees nodes of no known kind.**

* The check of a tree that was read finds as many `UNKNOWN_CONTENT_TYPE` as there are nodes of
  no known kind in the tree.  It returns what it finds exactly if no fixed number to pick or to
  keep is negative and has more digits than are written.
* If it finds none, and those of the sections that can be found have none either, and they
  were read too, then no rendering of the tree records `UNKNOWN_CONTENT_TYPE`, in any world
  with these sections, inside any sections, and from any bindings and any state. -/
theorem check_foresees_unknown {v : Value} {content : Content} (h : Content.read v = .ok content) :
    ((∃ problems, content.check = .ok problems) ↔ content.Everywhere Content.CountsFit) ∧
    (∀ problems, content.check = .ok problems →
      problems.countP (fun problem => problem.kind.code == "UNKNOWN_CONTENT_TYPE") =
        content.nodes.countP Content.isUnknown) ∧
    ∀ world : World, content.FoundKnown →
      (∀ id found, world.resolver.findSection id = .ok (some found) →
        (∃ document, Content.read document = .ok found.body.content) ∧
          found.body.content.FoundKnown) →
      ∀ stack b s, ∃ added, (world.renderTree stack content b s).2.issues = s.issues ++ added ∧
        ∀ issue ∈ added, issue.code ≠ "UNKNOWN_CONTENT_TYPE" := by
  have hlegible := Content.everywhere_legible_of_read h
  refine ⟨Content.check_returns_iff hlegible, Content.check_reports_unknown hlegible, ?_⟩
  intro world hknown hsections stack b s
  have htree : content.Everywhere fun node => node.isUnknown = false :=
    Content.everywhere_known hlegible hknown
  refine renderTree_known (fun id found hfound => ?_) htree stack b s
  obtain ⟨⟨document, hread⟩, hfoundKnown⟩ := hsections id found hfound
  exact Content.everywhere_known (Content.everywhere_legible_of_read hread) hfoundKnown

/-- A letter that refers to its closing. -/
def letterDocument : Value :=
  .object
    [("type", .str "composite"),
     ("parts", .list
       [.object [("type", .str "text"), ("value", .str "Dear Ada, ")],
        .object [("type", .str "section-ref"), ("section_id", .str "closing")]])]

/-- The section `closing`, and no other. -/
def letterClosing : Resolver where
  findSection
    | "closing" => .ok (some ⟨{ id := "closing" }, { content := .text "yours, Bo" }⟩)
    | _ => .ok none
  findSeparatorSet _ := .ok none
  findDataType _ := .ok none

/-- One of the nodes of a banner is found, and a letter is known to have none. -/
theorem check_foresees_unknown_letter :
    let letter : Content := .composite [.text "Dear Ada, ", .sectionRef "closing"]
    let world : World := { resolver := letterClosing }
    (∃ problems, (Content.banner [("width", .int 3)]).check = .ok problems ∧
      problems.countP (fun problem => problem.kind.code == "UNKNOWN_CONTENT_TYPE") = 1) ∧
    Content.read letterDocument = .ok letter ∧ letter.FoundKnown ∧
      ∀ b, ∀ issue ∈ (world.renderTree [] letter b { generator := .seeded 1 }).2.issues,
        issue.code ≠ "UNKNOWN_CONTENT_TYPE" := by
  intro letter world
  have hbanner : Content.read (Content.banner [("width", .int 3)]).dump =
      .ok (Content.banner [("width", .int 3)]) := rfl
  have hletter : Content.read letterDocument = .ok letter := rfl
  have hknown : letter.FoundKnown := ⟨[], rfl, nofun⟩
  have hsections : ∀ id found, world.resolver.findSection id = .ok (some found) →
      (∃ document, Content.read document = .ok found.body.content) ∧
        found.body.content.FoundKnown := by
    intro id found hfound
    simp only [world, letterClosing] at hfound
    split at hfound
    · cases hfound
      exact ⟨⟨(Content.text "yours, Bo").dump, rfl⟩, [], rfl, nofun⟩
    · cases hfound
  obtain ⟨hreturns, hcount, -⟩ := check_foresees_unknown hbanner
  have hfit : (Content.banner [("width", .int 3)]).Everywhere Content.CountsFit := by
    refine .node nofun fun child hchild => ?_
    rcases List.mem_pair.mp hchild with rfl | rfl
    · exact .node nofun nofun
    · exact .node nofun nofun
  obtain ⟨problems, hproblems⟩ := hreturns.mpr hfit
  refine ⟨⟨problems, hproblems, ?_⟩, hletter, hknown, fun b => ?_⟩
  · rw [hcount problems hproblems]
    simp [Content.banner, Content.nodes_eq, Content.children, Content.isUnknown, Content.tag?]
  · obtain ⟨added, hissues, hall⟩ :=
      (check_foresees_unknown hletter).2.2 world hknown hsections [] b { generator := .seeded 1 }
    rw [hissues]
    exact hall

end PromptTree
