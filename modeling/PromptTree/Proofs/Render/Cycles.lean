import Mathlib.Logic.Relation
import PromptTree.Proofs.Render.Issues
import PromptTree.Proofs.Store.Additions

/-!
# Cycles of references

A reference to a section that is being expanded is a cycle.  The renderer knows the sections
being expanded by their keys only; `World.renderInside` is the rendering that knows the
sections, and compares namespaces and ids.  **Where keys are unique the two do the same**
(`renderTree_eq_renderInside`): a reference is taken for a cycle exactly if the section that
it leads to is being expanded.

**Without cycles none are reported** (`renderTree_cycleFree`).  The sections being expanded
lead to each other, from the outermost to the innermost; so each of them leads to whatever
the innermost refers to, and a section that were found among them would lead to itself.

## Main Definitions

* `World.expandInside`, `World.renderInside` — references and trees inside sections.
* `Resolver.Refers` — a section refers to another one.
* `Resolver.Acyclic` — no section leads back to itself.
* `Issue.CycleFree` — the issues that are not about cycles.
-/

namespace PromptTree

open Relation (TransGen)

/-! ## Renderings that know the sections being expanded -/

namespace World

/-- The rendering of a reference inside sections.  It is a cycle if it leads to one of them:
to its namespace and its id. -/
def expandInsideWith (world : World) (deeper : Option (List Section → Expander))
    (enclosing : List Section) : Expander := fun id b => do
  match ← world.findSection id with
  | none =>
    Run.warn (.sectionNotFound id)
    return ""
  | some found =>
    if enclosing.any fun entity => entity.identity.sameKey found.identity then
      Run.warn (.cycle (Shelf.keys enclosing) found.identity.scopedId)
      return ""
    else
      match deeper with
      | none =>
        Run.warn (.tooDeep world.depthLimit id)
        return ""
      | some deeper =>
        Run.useSection id
        Run.within found.identity.scopedId
          (render world (deeper (enclosing ++ [found])) found.body.content b)

/-- The rendering of references inside sections, where so many more may still be entered. -/
def expandInside (world : World) : Nat → List Section → Expander
  | 0, enclosing => world.expandInsideWith none enclosing
  | room + 1, enclosing => world.expandInsideWith (some (world.expandInside room)) enclosing

/-- The text of a tree inside sections. -/
def renderInside (world : World) (enclosing : List Section) (content : Content) (b : Bindings) :
    Run String :=
  render world (world.expandInside (world.room (Shelf.keys enclosing)) enclosing) content b

end World

/-- The sections that can be found are on the shelf. -/
def Resolver.FindsIn (resolver : Resolver) (sections : List Section) : Prop :=
  ∀ id found, resolver.findSection id = .ok (some found) → found ∈ sections

section Keys

variable {world : World} {sections enclosing : List Section}
  (hfinds : world.resolver.FindsIn sections) (hunique : (Shelf.keys sections).Nodup)

include hunique in
/-- A key among unique ones is that of one section only. -/
theorem mem_of_scopedId_mem_keys {found : Section} (hinside : enclosing ⊆ sections)
    (hfound : found ∈ sections) (hkey : found.identity.scopedId ∈ Shelf.keys enclosing) :
    found ∈ enclosing := by
  obtain ⟨entity, hentity, heq⟩ := List.mem_map.mp hkey
  rwa [← List.inj_on_of_nodup_map hunique (hinside hentity) hfound heq]

include hunique in
/-- The key of a section is on the stack exactly if the section is being expanded. -/
theorem contains_keys_eq_any {found : Section} (hinside : enclosing ⊆ sections)
    (hfound : found ∈ sections) :
    (Shelf.keys enclosing).contains found.identity.scopedId =
      enclosing.any fun entity => entity.identity.sameKey found.identity := by
  rw [Bool.eq_iff_iff, List.contains_iff_mem, List.any_eq_true]
  constructor
  · intro hkey
    exact ⟨found, mem_of_scopedId_mem_keys hunique hinside hfound hkey,
      Identity.sameKey_iff.mpr rfl⟩
  · rintro ⟨entity, hentity, hsame⟩
    rw [← Identity.scopedId_eq_of_place_eq (Identity.sameKey_iff.mp hsame)]
    exact List.mem_map_of_mem hentity

include hfinds hunique

/-- One reference is rendered the same, if what is deeper is. -/
theorem expandWith_eq_expandInsideWith {deeper : Option (List String → Expander)}
    {deeper' : Option (List Section → Expander)}
    (hdeeper : Option.Rel
      (fun inner inner' => ∀ enclosing ⊆ sections, inner (Shelf.keys enclosing) = inner' enclosing)
      deeper deeper')
    (hinside : enclosing ⊆ sections) :
    world.expandWith deeper (Shelf.keys enclosing) = world.expandInsideWith deeper' enclosing := by
  funext id b
  unfold World.expandWith World.expandInsideWith World.findSection
  rcases hfind : world.resolver.findSection id with failure | (_ | found)
  · rw [Run.liftM_error_bind, Run.liftM_error_bind]
  · rw [Run.liftM_ok_bind, Run.liftM_ok_bind]
  · have hfound : found ∈ sections := hfinds id found hfind
    rw [Run.liftM_ok_bind, Run.liftM_ok_bind]
    simp only [contains_keys_eq_any hunique hinside hfound]
    cases hdeeper with
    | none => rfl
    | some hinner =>
        have hinside' : enclosing ++ [found] ⊆ sections :=
          List.append_subset.mpr ⟨hinside, List.cons_subset.mpr ⟨hfound, List.nil_subset _⟩⟩
        have hsame := hinner _ hinside'
        rw [Shelf.keys_concat] at hsame
        simp only [hsame]

/-- References are rendered the same, by induction on the number of sections that may still
be entered. -/
theorem expand_eq_expandInside (room : Nat) :
    ∀ enclosing ⊆ sections,
      world.expand room (Shelf.keys enclosing) = world.expandInside room enclosing := by
  induction room with
  | zero => exact fun _ => expandWith_eq_expandInsideWith hfinds hunique .none
  | succ room ih => exact fun _ => expandWith_eq_expandInsideWith hfinds hunique (.some ih)

/-- **Where keys are unique, cycles are those of sections.** -/
theorem renderTree_eq_renderInside (hinside : enclosing ⊆ sections) :
    world.renderTree (Shelf.keys enclosing) = world.renderInside enclosing := by
  funext content b
  rw [World.renderTree, World.renderInside, expand_eq_expandInside hfinds hunique _ _ hinside]

end Keys

/-! ## Sections that do not lead to themselves -/

namespace Resolver

/-- A reference in the section leads to the other one. -/
def Refers (resolver : Resolver) (entity found : Section) : Prop :=
  ∃ id, .sectionRef id ∈ entity.body.content.nodes ∧
    resolver.findSection id = .ok (some found)

/-- No section leads back to itself by references. -/
def Acyclic (resolver : Resolver) : Prop :=
  ∀ entity, ¬TransGen resolver.Refers entity entity

variable {resolver : Resolver} {sections : List Section}

/-- Sections are acyclic if those they refer to have a smaller rank. -/
theorem acyclic_of_rank (hfinds : resolver.FindsIn sections) (rank : Section → Nat)
    (hrank : ∀ entity ∈ sections, ∀ found, resolver.Refers entity found →
      rank found < rank entity) : resolver.Acyclic := by
  have hmem : ∀ {entity found}, TransGen resolver.Refers entity found → found ∈ sections := by
    intro entity found hpath
    obtain ⟨id, -, hfound⟩ | ⟨-, id, -, hfound⟩ := hpath
    · exact hfinds id found hfound
    · exact hfinds id found hfound
  have hlt : ∀ {entity found}, entity ∈ sections → TransGen resolver.Refers entity found →
      rank found < rank entity := by
    intro entity found hentity hpath
    induction hpath with
    | single hstep => exact hrank entity hentity _ hstep
    | tail hpath hstep ih => exact Nat.lt_trans (hrank _ (hmem hpath) _ hstep) ih
  exact fun entity hcycle => Nat.lt_irrefl _ (hlt (hmem hcycle) hcycle)

end Resolver

/-- The issue is not about a cycle. -/
def Issue.CycleFree (issue : Issue) : Prop :=
  issue.code ≠ "CYCLE_DETECTED"

theorem Issue.IsLocal.cycleFree {issue : Issue} (h : issue.IsLocal) : issue.CycleFree := by
  cases issue with
  | cycle _ _ => exact h.elim
  | _ => exact ne_of_beq_false rfl

/-- The runs that report no cycle. -/
abbrev cycleFreeRuns : RunRelation := issueRuns fun _ => Issue.IsLocal.cycleFree

section Acyclic

variable {world : World} {sections : List Section}

/-- A tree reports no cycle if the references in it do not. -/
theorem render_cycleFree {e : Expander} {content : Content}
    (hexpand : ∀ id, .sectionRef id ∈ content.nodes → ∀ b, cycleFreeRuns.Rel (e id b) (e id b))
    (b : Bindings) : cycleFreeRuns.Rel (render world e content b) (render world e content b) := by
  refine issueRuns_render_of_refers _ world hexpand ?_ b
  refine Content.everywhere_of_forall (fun node tag fields _ => ?_) content
  exact ne_of_beq_false rfl

variable (hfinds : world.resolver.FindsIn sections) (hunique : (Shelf.keys sections).Nodup)
  (hacyclic : world.resolver.Acyclic)
include hfinds hunique hacyclic

/-- References report no cycle, by induction on the number of sections that may still be
entered.  What carries the induction is that all sections being expanded lead to whatever
the reference leads to. -/
theorem expand_cycleFree {room : Nat} {enclosing : List Section} (hinside : enclosing ⊆ sections)
    {id : String}
    (hleads : ∀ found, world.resolver.findSection id = .ok (some found) →
      ∀ entity ∈ enclosing, TransGen world.resolver.Refers entity found)
    (b : Bindings) :
    cycleFreeRuns.Rel (world.expand room (Shelf.keys enclosing) id b)
      (world.expand room (Shelf.keys enclosing) id b) := by
  induction room using Nat.strongRecOn generalizing enclosing id b with
  | ind room ih =>
      refine issueRuns_expand _ world (ne_of_beq_false rfl) ?_
        (fun _ _ _ _ => ne_of_beq_false rfl) ?_
      · -- A section found among those being expanded would lead to itself.
        intro found hfound hkey
        have hmem : found ∈ enclosing :=
          mem_of_scopedId_mem_keys hunique hinside (hfinds id found hfound) hkey
        exact absurd (hleads found hfound found hmem) (hacyclic found)
      · rintro found inner hfound - rfl
        have hinside' : enclosing ++ [found] ⊆ sections :=
          List.append_subset.mpr
            ⟨hinside, List.cons_subset.mpr ⟨hfinds id found hfound, List.nil_subset _⟩⟩
        rw [← Shelf.keys_concat]
        -- What the section refers to is one step behind it, for all that lead to it.
        refine render_cycleFree (fun next hnext b => ?_) b
        refine ih inner (Nat.lt_succ_self inner) hinside' (fun target htarget => ?_) b
        intro entity hentity
        have hstep : world.resolver.Refers found target := ⟨next, hnext, htarget⟩
        rcases List.mem_append.mp hentity with houter | hinner
        · exact (hleads found hfound entity houter).tail hstep
        · obtain rfl := List.mem_singleton.mp hinner
          exact .single hstep

/-- **Without cycles none are reported**, if the sections being expanded lead to whatever
the tree refers to. -/
theorem renderTree_cycleFree {enclosing : List Section} (hinside : enclosing ⊆ sections)
    {content : Content}
    (hleads : ∀ id, .sectionRef id ∈ content.nodes → ∀ found,
      world.resolver.findSection id = .ok (some found) →
        ∀ entity ∈ enclosing, TransGen world.resolver.Refers entity found)
    (b : Bindings) :
    cycleFreeRuns.Rel (world.renderTree (Shelf.keys enclosing) content b)
      (world.renderTree (Shelf.keys enclosing) content b) :=
  render_cycleFree (fun id hid b =>
    expand_cycleFree hfinds hunique hacyclic hinside (hleads id hid) b) b

end Acyclic

end PromptTree
