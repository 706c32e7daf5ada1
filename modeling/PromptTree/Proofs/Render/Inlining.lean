import PromptTree.Proofs.Render.Induction
import PromptTree.Proofs.Render.NameSet

/-!
# Inlining

A reference to a section stands for the content of the section.  This module proves that it
may be replaced by it (`renderTree_inlined`): any of the references of a tree may be, the
others staying as they are, and a rendering in which nothing was cut off is the same
afterwards, but for the use of the sections that were inlined.

What is inlined is rendered inside fewer sections than before.  So the proof rests on
renderings of one tree inside different sections: **a rendering in which nothing was cut off
is the same inside fewer sections** (`uncutRuns_expand`), by induction on the number of
sections that may still be entered.  The converse is false, since a reference may be cut off
inside a section, and not outside it.

## Main Definitions

* `Issue.isCut` — the issues of references that were cut off.
* `Content.Inlined` — trees with sections in place of references to them.
* `RunState.SameBut` — what two runs leave behind that used the same, but for some sections.
-/

namespace PromptTree

/-- The issue is that of a reference that was cut off: its section is being expanded, or
sections are nested too deep. -/
def Issue.isCut (issue : Issue) : Bool :=
  issue.code = "CYCLE_DETECTED" || issue.code = "MAX_DEPTH_EXCEEDED"

/-- The tree with the contents of sections in place of some of the references to them, all
with names in the list.  What stands in the place of a reference is not changed again. -/
def Content.Inlined (resolver : Resolver) (ids : List String) : Content → Content → Prop :=
  Rewritten (fun node node' => ∃ id ∈ ids, node = .sectionRef id ∧
    ∃ found, resolver.findSection id = .ok (some found) ∧ node' = found.body.content) fun _ => True

/-- The same was recorded, but for the use of sections with names in the list, which was
only recorded in the first of the two states; and the generators are the same. -/
structure RunState.SameBut (ids : List String) (s t : RunState) : Prop where
  issues : t.issues = s.issues
  variablesUsed : t.variablesUsed = s.variablesUsed
  generator : t.generator = s.generator
  fewer : ∀ id ∈ t.sectionsUsed, id ∈ s.sectionsUsed
  others : ∀ id ∈ s.sectionsUsed, id ∉ ids → id ∈ t.sectionsUsed

namespace RunState.SameBut

variable {ids : List String} {s t : RunState}

theorem refl (ids : List String) (s : RunState) : SameBut ids s s :=
  ⟨rfl, rfl, rfl, fun _ h => h, fun _ h _ => h⟩

/-- The moves do not matter. -/
theorem moved (h : SameBut ids s t) (moves moves' : List Move) :
    SameBut ids { s with moves := moves } { t with moves := moves' } :=
  ⟨h.issues, h.variablesUsed, h.generator, h.fewer, h.others⟩

/-- One more issue was recorded in both. -/
theorem warn (h : SameBut ids s t) (issue : Issue) :
    SameBut ids { s with issues := s.issues ++ [issue] } { t with issues := t.issues ++ [issue] } :=
  { h with issues := congrArg (· ++ [issue]) h.issues }

/-- One more section was used in both. -/
theorem use (h : SameBut ids s t) (id : String) :
    SameBut ids { s with sectionsUsed := s.sectionsUsed.insert id }
      { t with sectionsUsed := t.sectionsUsed.insert id } where
  issues := h.issues
  variablesUsed := h.variablesUsed
  generator := h.generator
  fewer other hother := by
    rw [NameSet.mem_insert] at hother ⊢
    exact hother.imp_right (h.fewer other)
  others other hother hkept := by
    rw [NameSet.mem_insert] at hother ⊢
    exact hother.imp_right fun hused => h.others other hused hkept

/-- One of the sections that do not matter was used in the first. -/
theorem use_left (h : SameBut ids s t) {id : String} (hid : id ∈ ids) :
    SameBut ids { s with sectionsUsed := s.sectionsUsed.insert id } t where
  issues := h.issues
  variablesUsed := h.variablesUsed
  generator := h.generator
  fewer other hother := NameSet.mem_insert _ |>.mpr (.inr (h.fewer other hother))
  others other hother hkept := by
    rcases (NameSet.mem_insert _).mp hother with rfl | hused
    · exact absurd hid hkept
    · exact h.others other hused hkept

end RunState.SameBut

/-! ## Runs in which nothing was cut off -/

section Runs

variable {ids : List String} {α β : Type}

/-- Runs that are the same if nothing was cut off in the first, but for the use of sections
with names in the list. -/
def uncutRuns (ids : List String) : RunRelation where
  Rel m m' := ∀ s, ∃ added, (m s).2.issues = s.issues ++ added ∧
    ((∀ issue ∈ added, issue.isCut = false) → ∀ t, s.SameBut ids t →
      (m' t).1 = (m s).1 ∧ (m s).2.SameBut ids (m' t).2)
  returns a s := ⟨[], (List.append_nil _).symm, fun _ t h => ⟨rfl, h⟩⟩
  fails failure s := ⟨[], (List.append_nil _).symm, fun _ t h => ⟨rfl, h⟩⟩
  warns issue _ s := ⟨[issue], rfl, fun _ t h => ⟨rfl, h.warn issue⟩⟩
  bind := by
    intro α β m m' f f' hm hf s
    obtain ⟨added, hissues, hsame⟩ := hm s
    rcases hrun : m s with ⟨failure | a, u⟩
    · rw [hrun] at hissues hsame
      rw [Run.bind_of_error hrun]
      refine ⟨added, hissues, fun hcut t h => ?_⟩
      obtain ⟨hresult, hstate⟩ := hsame hcut t h
      rcases hrun' : m' t with ⟨result, u'⟩
      rw [hrun'] at hresult hstate
      subst hresult
      rw [Run.bind_of_error hrun']
      exact ⟨rfl, hstate⟩
    · rw [hrun] at hissues hsame
      obtain ⟨more, hissues', hsame'⟩ := hf a u
      rw [Run.bind_of_ok hrun]
      refine ⟨added ++ more, by rw [hissues', hissues, List.append_assoc], fun hcut t h => ?_⟩
      -- Nothing was cut off in either part.
      rw [List.forall_mem_append] at hcut
      obtain ⟨hresult, hstate⟩ := hsame hcut.1 t h
      rcases hrun' : m' t with ⟨result, u'⟩
      rw [hrun'] at hresult hstate
      subst hresult
      rw [Run.bind_of_ok hrun']
      exact hsame' hcut.2 u' hstate

/-- A run that records no issue, and does the same whatever sections were used. -/
theorem uncutRuns_of_silent {m m' : Run α}
    (h : ∀ s, (m s).2.issues = s.issues ∧ ∀ t, s.SameBut ids t →
      (m' t).1 = (m s).1 ∧ (m s).2.SameBut ids (m' t).2) :
    (uncutRuns ids).Rel m m' := by
  intro s
  obtain ⟨hissues, hsame⟩ := h s
  exact ⟨[], by rw [hissues, List.append_nil], fun _ => hsame⟩

/-- A run that ends by cutting a reference off is related to whatever is done instead. -/
theorem uncutRuns_cut {issue : Issue} (h : issue.isCut = true) (text : String) (m' : Run String) :
    (uncutRuns ids).Rel (do Run.warn issue; return text) m' := by
  intro s
  refine ⟨[issue], rfl, fun hcut => ?_⟩
  rw [hcut issue List.mem_cons_self] at h
  cases h

theorem uncutRuns_warn (issue : Issue) : (uncutRuns ids).Rel (Run.warn issue) (Run.warn issue) :=
  fun _ => ⟨[issue], rfl, fun _ _ h => ⟨rfl, h.warn issue⟩⟩

theorem uncutRuns_take (world : World) (draws : Random.Draw α) :
    (uncutRuns ids).Rel (world.take draws) (world.take draws) := by
  refine uncutRuns_of_silent fun s => ⟨rfl, fun t h => ?_⟩
  simp only [World.take, h.generator]
  exact ⟨rfl, h.issues, h.variablesUsed, rfl, h.fewer, h.others⟩

theorem uncutRuns_reads (b : Bindings) : (uncutRuns ids).Reads b b where
  vars id := by
    refine uncutRuns_of_silent fun s => ?_
    simp only [Run.readVariable_apply, true_and]
    split
    · exact ⟨rfl, fun t h => h⟩
    · refine ⟨rfl, fun t h => ?_⟩
      exact { h with variablesUsed := congrArg (NameSet.insert id) h.variablesUsed }
  system := rfl
  constraints := rfl

theorem uncutRuns_scope : (uncutRuns ids).Scope fun b b' => b = b' :=
  RunRelation.scope_eq _ fun b => (uncutRuns_reads b).vars

theorem uncutRuns_matches (world : World) (b : Bindings) (node : Content) :
    (uncutRuns ids).Matches world world b b node :=
  RunRelation.matches_self _ (uncutRuns_take world) (fun _ _ _ => uncutRuns_warn _) fun _ => rfl

/-- Two sections are entered, whatever their keys. -/
theorem uncutRuns_within (id key key' : String) {m m' : Run String} (h : (uncutRuns ids).Rel m m') :
    (uncutRuns ids).Rel (do Run.useSection id; Run.within key m)
      (do Run.useSection id; Run.within key' m') := by
  refine RunRelation.bind _ (uncutRuns_of_silent fun s => ⟨rfl, fun t hst => ⟨rfl, hst.use id⟩⟩)
    fun _ s => ?_
  obtain ⟨added, hissues, hsame⟩ := h { s with moves := s.moves ++ [.enter key] }
  refine ⟨added, hissues, fun hcut t hst => ?_⟩
  rw [Run.within_apply, Run.within_apply]
  obtain ⟨hresult, hstate⟩ :=
    hsame hcut { t with moves := t.moves ++ [.enter key'] } (hst.moved _ _)
  exact ⟨hresult, hstate.moved _ _⟩

/-- A section is entered, and in its place the same is done outside it. -/
theorem uncutRuns_inline {id : String} (hid : id ∈ ids) (key : String) {m m' : Run String}
    (h : (uncutRuns ids).Rel m m') :
    (uncutRuns ids).Rel (do Run.useSection id; Run.within key m) m' := by
  intro s
  obtain ⟨added, hissues, hsame⟩ := h
    { s with sectionsUsed := s.sectionsUsed.insert id, moves := s.moves ++ [.enter key] }
  refine ⟨added, hissues, fun hcut t hst => ?_⟩
  obtain ⟨hresult, hstate⟩ := hsame hcut t ((hst.use_left hid).moved _ t.moves)
  exact ⟨hresult, hstate.moved _ (m' t).2.moves⟩

end Runs

/-! ## Fewer sections -/

section Sections

variable {ids : List String} (world : World)

/-- The same tree is rendered alike if references are. -/
theorem uncutRuns_render {e e' : Expander} (h : ∀ id b, (uncutRuns ids).Rel (e id b) (e' id b))
    (content : Content) (b : Bindings) :
    (uncutRuns ids).Alike world world e e' b b content content := by
  refine render_rel_self (fun b => (uncutRuns_reads b).vars) rfl rfl (uncutRuns_take world) h ?_ b
  exact Content.everywhere_of_forall (fun _ _ _ _ => uncutRuns_warn _) content

/-- A reference to a section is cut off, or the section is entered. -/
theorem uncutRuns_of_found {id : String} {found : Section}
    (hfound : world.resolver.findSection id = .ok (some found)) {room : Nat} {stack : List String}
    {b : Bindings} {m' : Run String}
    (h : ∀ inner, room = inner + 1 → found.identity.scopedId ∉ stack →
      (uncutRuns ids).Rel (do
        Run.useSection id
        Run.within found.identity.scopedId
          (render world (world.expand inner (stack ++ [found.identity.scopedId]))
            found.body.content b)) m') :
    (uncutRuns ids).Rel (world.expand room stack id b) m' := by
  by_cases hkey : found.identity.scopedId ∈ stack
  · rw [expand_of_mem world b hfound hkey]
    exact uncutRuns_cut rfl "" m'
  · cases room with
    | zero =>
        rw [expand_zero world b hfound hkey]
        exact uncutRuns_cut rfl "" m'
    | succ inner =>
        rw [expand_succ world b hfound hkey]
        exact h inner rfl hkey

/-- **A reference that is not cut off is not cut off inside fewer sections**, and what is
rendered in its place is the same. -/
theorem uncutRuns_expand {room room' : Nat} {stack stack' : List String} (hroom : room ≤ room')
    (hstack : stack' ⊆ stack) (id : String) (b : Bindings) :
    (uncutRuns ids).Rel (world.expand room stack id b) (world.expand room' stack' id b) := by
  induction room using Nat.strong_induction_on generalizing room' stack stack' id b with
  | _ room ih =>
      rcases hfound : world.resolver.findSection id with failure | (_ | found)
      · rw [expand_of_error world stack b hfound, expand_of_error world stack' b hfound]
        exact (uncutRuns ids).fails failure
      · rw [expand_of_none world stack b hfound, expand_of_none world stack' b hfound]
        exact RunRelation.bind _ (uncutRuns_warn _) fun _ => RunRelation.returns _ ""
      · refine uncutRuns_of_found world hfound fun inner heq hkey => ?_
        -- What lets the section be entered here lets it be entered inside fewer sections.
        subst heq
        obtain ⟨inner', rfl⟩ := Nat.exists_eq_add_of_le' (Nat.one_le_of_lt hroom)
        rw [expand_succ world b hfound fun hmem => hkey (hstack hmem)]
        refine uncutRuns_within id _ _
          (uncutRuns_render world (fun id b => ?_) found.body.content b)
        refine ih inner (Nat.lt_succ_self inner) (Nat.le_of_succ_le_succ hroom) ?_ id b
        exact List.append_subset.mpr
          ⟨List.subset_append_of_subset_left _ hstack, List.subset_append_right ..⟩

/-- A reference is rendered like the content of its section in its place. -/
theorem uncutRuns_inlined {id : String} (hid : id ∈ ids) {found : Section}
    (hfound : world.resolver.findSection id = .ok (some found)) (room : Nat) (stack : List String)
    (b : Bindings) :
    (uncutRuns ids).Alike world world (world.expand room stack) (world.expand room stack) b b
      (.sectionRef id) found.body.content := by
  simp only [RunRelation.Alike, render]
  refine uncutRuns_of_found world hfound fun inner heq _ => uncutRuns_inline hid _ ?_
  refine uncutRuns_render world (fun id b => ?_) found.body.content b
  exact uncutRuns_expand world (by omega) (List.subset_append_left ..) id b

end Sections

/-- **References are transparent.**  If nothing is cut off in the rendering of a tree, the
tree with the contents of sections in place of some references has the same rendering: the
same text, or the same failure, with the same issues and variables, and the same generator
afterwards.  The sections that it uses are those that the rendering of the tree uses,
except that the use of sections that were put in is not recorded where they were. -/
theorem renderTree_inlined (world : World) (stack : List String) {ids : List String}
    {content content' : Content} (h : content.Inlined world.resolver ids content') (b : Bindings)
    (s : RunState) :
    ∃ added, (world.renderTree stack content b s).2.issues = s.issues ++ added ∧
      ((∀ issue ∈ added, issue.isCut = false) →
        (world.renderTree stack content' b s).1 = (world.renderTree stack content b s).1 ∧
        (world.renderTree stack content b s).2.SameBut ids
          (world.renderTree stack content' b s).2) := by
  have hrun : (uncutRuns ids).Rel (world.renderTree stack content b)
      (world.renderTree stack content' b) := by
    refine render_rewritten uncutRuns_scope ?_ ?_ ?_ h b b rfl
    · rintro _ _ ⟨id, hid, rfl, found, hfound, rfl⟩ b _ rfl
      exact uncutRuns_inlined world hid hfound (world.room stack) stack b
    · rintro id - b _ rfl
      exact uncutRuns_expand world (Nat.le_refl _) (List.Subset.refl _) id b
    · rintro node - b _ rfl
      exact uncutRuns_matches world b node
  obtain ⟨added, hissues, hsame⟩ := hrun s
  exact ⟨added, hissues, fun hcut => hsame hcut s (.refl ids s)⟩

/-- Names with titles, which are a section of their own. -/
def titledNames : Resolver where
  findSection
    | "name" => .ok (some ⟨{ id := "name" },
        { content := .composite [.sectionRef "title", .variable "name" none none] }⟩)
    | "title" => .ok (some ⟨{ id := "title" }, { content := .text "Dr. " }⟩)
    | _ => .ok none
  findSeparatorSet _ := .ok none
  findDataType _ := .ok none

/-- A salutation with the content of the section of names in place of the reference to it.
The reference in that content stays. -/
theorem renderTree_inlined_salutation :
    let world : World := { resolver := titledNames }
    let content : Content := .composite [.text "Dear ", .sectionRef "name"]
    let content' : Content := .composite
      [.text "Dear ", .composite [.sectionRef "title", .variable "name" none none]]
    let run content := world.renderTree [] content { vars := [("name", .str "Lovelace")] }
      { generator := .congruential 0 }
    content.Inlined titledNames ["name"] content' ∧
      (run content).1 = .ok "Dear Dr. Lovelace" ∧ (run content).2.issues = [] ∧
      (run content').1 = (run content).1 ∧ (run content).2.SameBut ["name"] (run content').2 ∧
      (run content).2.sectionsUsed = ["name", "title"] ∧
      (run content').2.sectionsUsed = ["title"] := by
  intro world content content' run
  have hinlined : content.Inlined titledNames ["name"] content' := by
    refine .keep trivial rfl fun p hp => ?_
    rcases List.mem_cons.mp hp with rfl | hp
    · have htext : (Content.text "Dear ").Everywhere fun _ => True := .node trivial nofun
      exact htext.rewritten
    · obtain rfl := List.mem_singleton.mp hp
      exact .step ⟨"name", List.mem_cons_self, rfl, _, rfl, rfl⟩
  obtain ⟨added, hissues, hsame⟩ := renderTree_inlined world [] hinlined
    { vars := [("name", .str "Lovelace")] } { generator := .congruential 0 }
  have hadded : [] = added := hissues
  obtain ⟨hresult, hstate⟩ := hsame (hadded ▸ nofun)
  exact ⟨hinlined, rfl, rfl, hresult, hstate, rfl, rfl⟩

end PromptTree
