import PromptTree.Proofs.Render.Induction

/-!
# Gaps

A node of no known kind and a reference to a section that is not there are gaps: nothing is
rendered in their place, and an issue is recorded.  This module proves that this is all
they do (`renderTree_filled`).  A tree whose gaps are filled with empty texts, here and in
all sections, gives the same text or failure, and leaves the same behind, but for the
issues of the gaps: no draw is shifted, no other node is rendered differently, and no other
issue is added, lost or moved.

The comparison of the two runs is `filledRuns`.  It asks for the issues of the first run as
they are added to those recorded before, so that it can be put together along a sequence.

## Main Definitions

* `Content.isGap`, `Issue.isGap` — the nodes, and the issues that they record.
* `Content.filled`, `Resolver.filled`, `World.filled` — trees and sections with empty texts
  in all gaps.
-/

namespace PromptTree

/-- Nothing can be rendered in the place of the node: it is of no known kind, or it refers
to a section that is not there. -/
def Content.isGap (resolver : Resolver) : Content → Bool
  | .sectionRef id =>
    match resolver.findSection id with
    | .ok none => true
    | _ => false
  | .unknown _ _ => true
  | _ => false

/-- The issue is that of a gap. -/
def Issue.isGap (issue : Issue) : Bool :=
  issue.code = "SECTION_NOT_FOUND" || issue.code = "UNKNOWN_CONTENT_TYPE"

/-- The issues that are not those of gaps, in order. -/
def Issue.besidesGaps (issues : List Issue) : List Issue :=
  issues.filter fun issue => !issue.isGap

/-- The empty text for a gap. -/
def Content.filling? (resolver : Resolver) (node : Content) : Option Content :=
  if node.isGap resolver then some (.text "") else none

/-- The tree with empty texts in all its gaps. -/
def Content.filled (resolver : Resolver) (content : Content) : Content :=
  content.rewrite (filling? resolver)

/-- The section with empty texts in all gaps of its content. -/
def Section.filled (resolver : Resolver) (entry : Section) : Section :=
  { entry with body := { entry.body with content := entry.body.content.filled resolver } }

/-- The lookups that find sections with empty texts in all gaps. -/
def Resolver.filled (resolver : Resolver) : Resolver :=
  { resolver with
    findSection := fun id => (resolver.findSection id).map (·.map (Section.filled resolver)) }

/-- The world in which sections have empty texts in all gaps. -/
def World.filled (world : World) : World :=
  { world with resolver := world.resolver.filled }

/-! ## Filled trees -/

section Trees

variable (resolver : Resolver)

theorem Content.isGap_withChildren (node : Content) (parts : List Content) :
    (node.withChildren parts).isGap resolver = node.isGap resolver := by
  cases node with
  | _ => rfl

/-- A filled tree comes from the tree by filling the gaps. -/
theorem Content.rewritten_filled (content : Content) :
    content.Rewritten (fun node node' => node.isGap resolver = true ∧ node' = .text "")
      (fun node => node.isGap resolver = false) (content.filled resolver) := by
  have hrewritten := rewritten_rewrite (filling? resolver) content
  refine hrewritten.imp (fun node node' h => ?_) fun node h => ?_
  · unfold filling? at h
    split at h
    · rename_i hgap
      exact ⟨hgap, (Option.some.inj h).symm⟩
    · cases h
  · unfold filling? at h
    split at h
    · cases h
    · rename_i hgap
      simpa using hgap

/-- A filled tree has no gaps. -/
theorem Content.everywhere_filled (content : Content) :
    (content.filled resolver).Everywhere fun node => node.isGap resolver = false := by
  refine (content.rewritten_filled resolver).everywhere ?_ ?_
  · rintro node _ ⟨-, rfl⟩
    exact .node rfl nofun
  · intro node parts hgap
    rw [isGap_withChildren, hgap]

end Trees

/-! ## Runs with and without gaps -/

theorem Issue.besidesGaps_append (issues more : List Issue) :
    besidesGaps (issues ++ more) = besidesGaps issues ++ besidesGaps more :=
  List.filter_append ..

/-- Runs that are the same but for the issues of gaps, which the second does not record. -/
def filledRuns : RunRelation where
  Rel m m' := ∀ s issues, ∃ added, (m s).2.issues = s.issues ++ added ∧
    m' { s with issues := issues } =
      ((m s).1, { (m s).2 with issues := issues ++ Issue.besidesGaps added })
  returns a s issues := by
    refine ⟨[], (List.append_nil _).symm, ?_⟩
    rw [Issue.besidesGaps, List.filter_nil, List.append_nil]
    rfl
  fails failure s issues := by
    refine ⟨[], (List.append_nil _).symm, ?_⟩
    rw [Issue.besidesGaps, List.filter_nil, List.append_nil]
    rfl
  warns issue hlocal s issues := by
    refine ⟨[issue], rfl, ?_⟩
    cases issue with
    | separatorSetNotFound _ | dataTypeNotFound _ | badPattern _ _ _ => rfl
    | sectionNotFound _ | cycle _ _ | tooDeep _ _ | unknownNode _ => exact hlocal.elim
  bind := by
    intro α β m m' f f' hm hf s issues
    obtain ⟨added, hissues, hrun'⟩ := hm s issues
    rcases hrun : m s with ⟨failure | a, t⟩
    · rw [hrun] at hissues hrun'
      rw [Run.bind_of_error hrun, Run.bind_of_error hrun']
      exact ⟨added, hissues, rfl⟩
    · rw [hrun] at hissues hrun'
      obtain ⟨more, hissues', hrun''⟩ := hf a t (issues ++ Issue.besidesGaps added)
      rw [Run.bind_of_ok hrun, Run.bind_of_ok hrun']
      refine ⟨added ++ more, ?_, ?_⟩
      · rw [hissues', hissues, List.append_assoc]
      · rw [hrun'', Issue.besidesGaps_append, List.append_assoc]

section Runs

/-- A run that records no issue, and does the same whatever was recorded, is the same. -/
theorem filledRuns_of_silent {α : Type} {m : Run α}
    (h : ∀ s issues, (m s).2.issues = s.issues ∧
      m { s with issues := issues } = ((m s).1, { (m s).2 with issues := issues })) :
    filledRuns.Rel m m := by
  intro s issues
  obtain ⟨hissues, hrun⟩ := h s issues
  refine ⟨[], by rw [hissues, List.append_nil], ?_⟩
  rw [hrun, Issue.besidesGaps, List.filter_nil, List.append_nil]

theorem filledRuns_reads (b : Bindings) : filledRuns.Reads b b where
  vars id := by
    refine filledRuns_of_silent fun s issues => ?_
    rw [Run.readVariable_apply, Run.readVariable_apply]
    split
    · exact ⟨rfl, rfl⟩
    · exact ⟨rfl, rfl⟩
  system := rfl
  constraints := rfl

theorem filledRuns_take (world : World) {α : Type} (draws : Random.Draw α) :
    filledRuns.Rel (world.take draws) (world.take draws) :=
  filledRuns_of_silent fun _ _ => ⟨rfl, rfl⟩

/-- Issues that are not those of gaps are recorded in both runs. -/
theorem filledRuns_warn {issue : Issue} (h : issue.isGap = false) :
    filledRuns.Rel (Run.warn issue) (Run.warn issue) := by
  refine fun s issues => ⟨[issue], rfl, ?_⟩
  have hbesides : Issue.besidesGaps [issue] = [issue] := by
    simp [Issue.besidesGaps, h]
  rw [hbesides]
  rfl

/-- The issue of a gap is recorded in the first run only. -/
theorem filledRuns_gap {issue : Issue} (h : issue.isGap = true) (text : String) :
    filledRuns.Rel (do Run.warn issue; return text) (pure text) := by
  refine fun s issues => ⟨[issue], rfl, ?_⟩
  have hbesides : Issue.besidesGaps [issue] = [] := by
    simp [Issue.besidesGaps, h]
  rw [hbesides, List.append_nil]
  rfl

theorem filledRuns_within (key : String) {m m' : Run String} (h : filledRuns.Rel m m') :
    filledRuns.Rel (Run.within key m) (Run.within key m') := by
  intro s issues
  obtain ⟨added, hissues, hrun⟩ := h { s with moves := s.moves ++ [.enter key] } issues
  refine ⟨added, hissues, ?_⟩
  rw [Run.within_apply, Run.within_apply]
  simp only at hrun ⊢
  rw [hrun]

end Runs

/-! ## Rendering -/

section Rendering

variable (world : World)

/-- What a node does by itself it does alike if it is no gap, since nothing but sections is
different. -/
theorem filledRuns_matches {node : Content} (h : node.isGap world.resolver = false)
    (b : Bindings) : filledRuns.Matches world world.filled b b node := by
  refine filledRuns.matches_of (fun name => filledRuns.lift (world.resolver.findRules name))
    (fun id => filledRuns.lift (world.resolver.findDataType id)) rfl (filledRuns_take world) ?_
    fun _ => rfl
  intro tag fields hnode
  rw [hnode] at h
  cases h

/-- A gap is rendered as nothing, and its issue is recorded. -/
theorem filledRuns_fill {node : Content} (h : node.isGap world.resolver = true) (room : Nat)
    (stack : List String) (e' : Expander) (b : Bindings) :
    filledRuns.Alike world world.filled (world.expand room stack) e' b b node (.text "") := by
  unfold Content.isGap at h
  split at h
  · split at h
    · rename_i hlost
      simp only [RunRelation.Alike, render, expand_of_none world stack b hlost]
      exact filledRuns_gap rfl ""
    · cases h
  · simp only [RunRelation.Alike, render]
    exact filledRuns_gap rfl ""
  · cases h

/-- A tree and the filled tree are rendered alike, if references that are no gaps are. -/
theorem filledRuns_render {room : Nat} {stack : List String} {e' : Expander}
    (hrefs : ∀ id, (Content.sectionRef id).isGap world.resolver = false → ∀ b,
      filledRuns.Rel (world.expand room stack id b) (e' id b))
    (content : Content) (b : Bindings) :
    filledRuns.Alike world world.filled (world.expand room stack) e' b b content
      (content.filled world.resolver) := by
  have hscope : filledRuns.Scope fun b b' => b = b' :=
    RunRelation.scope_eq _ fun b => (filledRuns_reads b).vars
  refine render_rewritten hscope ?_ ?_ ?_ (content.rewritten_filled world.resolver) b b rfl
  · rintro node _ ⟨hgap, rfl⟩ b _ rfl
    exact filledRuns_fill world hgap room stack e' b
  · rintro id hgap b _ rfl
    exact hrefs id hgap b
  · rintro node hgap b _ rfl
    exact filledRuns_matches world hgap b

/-- References that are no gaps are rendered alike, if what is deeper is. -/
theorem filledRuns_expandWith {deeper deeper' : Option (List String → Expander)}
    (hdeeper : Option.Rel (fun inner inner' => ∀ stack content b,
      filledRuns.Alike world world.filled (inner stack) (inner' stack) b b content
        (content.filled world.resolver)) deeper deeper')
    {id : String} (h : (Content.sectionRef id).isGap world.resolver = false)
    (stack : List String) (b : Bindings) :
    filledRuns.Rel (world.expandWith deeper stack id b)
      (world.filled.expandWith deeper' stack id b) := by
  have hfind : world.filled.resolver.findSection id =
      (world.resolver.findSection id).map (·.map (Section.filled world.resolver)) := rfl
  unfold World.expandWith World.findSection
  rw [hfind]
  rcases hfound : world.resolver.findSection id with failure | found
  · exact filledRuns.fails failure
  · cases found with
    | none =>
        simp only [Content.isGap, hfound] at h
        cases h
    | some found =>
        -- The section is the same but for its content, and so is its key.
        simp only [Except.map, Option.map_some, Run.liftM_ok_bind]
        change filledRuns.Rel (if stack.contains found.identity.scopedId then _ else _)
          (if stack.contains found.identity.scopedId then _ else _)
        split
        · exact filledRuns.bind (filledRuns_warn rfl) fun _ => filledRuns.returns ""
        · cases hdeeper with
          | none => exact filledRuns.bind (filledRuns_warn rfl) fun _ => filledRuns.returns ""
          | some hinner =>
              refine filledRuns.bind (filledRuns_of_silent fun _ _ => ⟨rfl, rfl⟩) fun _ => ?_
              exact filledRuns_within _ (hinner _ found.body.content b)

/-- References that are no gaps are rendered alike, by induction on the number of sections
that may still be entered. -/
theorem filledRuns_expand (room : Nat) :
    ∀ (stack : List String) (id : String),
      (Content.sectionRef id).isGap world.resolver = false → ∀ b : Bindings,
        filledRuns.Rel (world.expand room stack id b) (world.filled.expand room stack id b) := by
  induction room with
  | zero =>
      intro stack id h b
      exact filledRuns_expandWith world .none h stack b
  | succ room ih =>
      intro stack id h b
      refine filledRuns_expandWith world (.some fun stack content b => ?_) h stack b
      exact filledRuns_render world (ih stack) content b

end Rendering

/-- **A gap does nothing but record its issue.**  The tree with empty texts in all its gaps,
in the world in which the sections have them too, has no gaps, and its rendering is that of
the tree: the same text, or the same failure, with the same names used, the same moves and
the same generator afterwards.  The issues that it adds are those that the rendering of the
tree adds, in order, without those of gaps. -/
theorem renderTree_filled (world : World) (stack : List String) (content : Content)
    (b : Bindings) (s : RunState) :
    ((content.filled world.resolver).Everywhere fun node =>
      node.isGap world.resolver = false) ∧
    ∃ added, (world.renderTree stack content b s).2.issues = s.issues ++ added ∧
      world.filled.renderTree stack (content.filled world.resolver) b s =
        ((world.renderTree stack content b s).1,
          { (world.renderTree stack content b s).2 with
            issues := s.issues ++ Issue.besidesGaps added }) := by
  refine ⟨content.everywhere_filled world.resolver, ?_⟩
  have hrefs := filledRuns_expand world (world.room stack) stack
  exact filledRuns_render world hrefs content b s s.issues

end PromptTree
