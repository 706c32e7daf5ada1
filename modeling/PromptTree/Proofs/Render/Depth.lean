import Mathlib.Data.List.Nodup
import Mathlib.Data.List.Perm.Subperm
import PromptTree.Proofs.Render.Issues

/-!
# The depth limit

The depth limit is a backstop only.  This module says so in two ways.

* **It is never reached where there are few sections** (`renderTree_withinDepth`).  No
  section is entered twice, so the stack of sections being expanded is a list without
  repetitions from the keys of all sections: wherever one more key could be put on it, there
  is room for it.
* **Where it is not reached it does not matter** (`renderTree_deeper`).  A rendering that
  records no `MAX_DEPTH_EXCEEDED` is the same, with all that it leaves behind, in a world
  with a larger limit.

Both are by induction on the number of sections that may still be entered.

## Main Definitions

* `Issue.WithinDepth` — the issues that are not about the depth limit.
* `Resolver.Keyed` — all sections that can be found have a key of the list.
* `deeperRuns` — the runs that do the same as another one, unless the limit is reached.
-/

namespace PromptTree

/-- The issue is not about the depth limit. -/
def Issue.WithinDepth (issue : Issue) : Prop :=
  issue.code ≠ "MAX_DEPTH_EXCEEDED"

theorem Issue.IsLocal.withinDepth {issue : Issue} (h : issue.IsLocal) : issue.WithinDepth := by
  cases issue with
  | tooDeep _ _ => exact h.elim
  | _ => exact ne_of_beq_false rfl

theorem Issue.not_withinDepth_tooDeep (limit : Int) (id : String) :
    ¬(Issue.tooDeep limit id).WithinDepth :=
  fun h => h rfl

/-! ## Few sections -/

/-- The keys of all sections that can be found are in the list. -/
def Resolver.Keyed (resolver : Resolver) (keys : List String) : Prop :=
  ∀ id found, resolver.findSection id = .ok (some found) → found.identity.scopedId ∈ keys

/-- The runs that do not reach the depth limit. -/
abbrev depthRuns : RunRelation := issueRuns fun _ => Issue.IsLocal.withinDepth

section Sections

variable {world : World} {keys : List String}

/-- **There is room for any key that is not yet on the stack**, if the room and the stack
make up for all keys. -/
theorem room_pos_of_fresh {room : Nat} {stack : List String} {key : String}
    (hnodup : stack.Nodup) (hstack : stack ⊆ keys) (hkey : key ∈ keys) (hfresh : key ∉ stack)
    (hroom : keys.length ≤ room + stack.length) : 0 < room := by
  have hlonger : (key :: stack).Nodup := List.nodup_cons.mpr ⟨hfresh, hnodup⟩
  have hamong : key :: stack ⊆ keys := List.cons_subset.mpr ⟨hkey, hstack⟩
  have hlength : stack.length + 1 ≤ keys.length :=
    (List.Nodup.subperm hlonger hamong).length_le
  omega

/-- A tree does not reach the limit if its references do not. -/
theorem render_withinDepth {e : Expander} (hexpand : ∀ id b, depthRuns.Rel (e id b) (e id b))
    (content : Content) (b : Bindings) :
    depthRuns.Rel (render world e content b) (render world e content b) := by
  refine issueRuns_render _ world hexpand ?_ b
  refine Content.everywhere_of_forall (fun node tag fields _ => ?_) content
  exact ne_of_beq_false rfl

/-- References do not reach the limit, by induction on the room: a section that is entered
takes one off the room and puts one more key on the stack. -/
theorem expand_withinDepth (hkeyed : world.resolver.Keyed keys) {room : Nat}
    {stack : List String} (hnodup : stack.Nodup) (hstack : stack ⊆ keys)
    (hroom : keys.length ≤ room + stack.length) (id : String) (b : Bindings) :
    depthRuns.Rel (world.expand room stack id b) (world.expand room stack id b) := by
  induction room using Nat.strongRecOn generalizing stack id b with
  | ind room ih =>
      refine issueRuns_expand _ world (ne_of_beq_false rfl) (fun _ _ _ => ne_of_beq_false rfl) ?_ ?_
      · intro found hfound hfresh hnone
        have hpos : 0 < room :=
          room_pos_of_fresh hnodup hstack (hkeyed id found hfound) hfresh hroom
        omega
      · rintro found inner hfound hfresh rfl
        have hnodup' : (stack ++ [found.identity.scopedId]).Nodup := by
          rw [← List.concat_eq_append, List.nodup_concat]
          exact ⟨hfresh, hnodup⟩
        have hstack' : stack ++ [found.identity.scopedId] ⊆ keys :=
          List.append_subset.mpr
            ⟨hstack, List.cons_subset.mpr ⟨hkeyed id found hfound, List.nil_subset _⟩⟩
        have hroom' : keys.length ≤ inner + (stack ++ [found.identity.scopedId]).length := by
          rw [List.length_append, List.length_singleton]
          omega
        exact render_withinDepth (ih inner (Nat.lt_succ_self inner) hnodup' hstack' hroom')
          found.body.content b

/-- **The limit is not reached if it admits all sections at once.** -/
theorem renderTree_withinDepth (hkeyed : world.resolver.Keyed keys)
    (hlimit : (keys.length : Int) ≤ world.depthLimit) {stack : List String}
    (hnodup : stack.Nodup) (hstack : stack ⊆ keys) (content : Content) (b : Bindings) :
    depthRuns.Rel (world.renderTree stack content b) (world.renderTree stack content b) := by
  have hroom : keys.length ≤ world.room stack + stack.length := by
    unfold World.room
    omega
  exact render_withinDepth (expand_withinDepth hkeyed hnodup hstack hroom) content b

end Sections

/-! ## Larger limits -/

/-- The world with another depth limit. -/
def World.withDepthLimit (world : World) (limit : Int) : World :=
  { world with depthLimit := limit }

section Runs

variable {α : Type}

/-- Runs of which the second does the same as the first, unless that reaches the limit. -/
def deeperRuns : RunRelation where
  Rel m m' := ∀ s, ∃ added, (m s).2.issues = s.issues ++ added ∧
    ((∀ issue ∈ added, issue.WithinDepth) → m' s = m s)
  returns a s := ⟨[], (List.append_nil _).symm, fun _ => rfl⟩
  fails failure s := ⟨[], (List.append_nil _).symm, fun _ => rfl⟩
  warns issue _ s := ⟨[issue], rfl, fun _ => rfl⟩
  bind := by
    intro α β m m' f f' hm hf s
    obtain ⟨added, hissues, hsame⟩ := hm s
    rcases hrun : m s with ⟨failure | a, t⟩
    · rw [hrun] at hissues hsame
      rw [Run.bind_of_error hrun]
      exact ⟨added, hissues, fun hwithin => Run.bind_of_error (hsame hwithin)⟩
    · rw [hrun] at hissues hsame
      obtain ⟨more, hissues', hsame'⟩ := hf a t
      rw [Run.bind_of_ok hrun]
      refine ⟨added ++ more, by rw [hissues', hissues, List.append_assoc], fun hwithin => ?_⟩
      rw [List.forall_mem_append] at hwithin
      rw [Run.bind_of_ok (hsame hwithin.1)]
      exact hsame' hwithin.2

/-- A run that records no issues does the same as itself. -/
theorem deeperRuns_of_silent {m : Run α} (h : ∀ s, (m s).2.issues = s.issues) :
    deeperRuns.Rel m m :=
  fun s => ⟨[], by rw [h s, List.append_nil], fun _ => rfl⟩

theorem deeperRuns_warn (issue : Issue) : deeperRuns.Rel (Run.warn issue) (Run.warn issue) :=
  fun _ => ⟨[issue], rfl, fun _ => rfl⟩

/-- Where the limit is reached, anything may be done instead. -/
theorem deeperRuns_tooDeep (limit : Int) (id text : String) (m' : Run String) :
    deeperRuns.Rel (do Run.warn (.tooDeep limit id); return text) m' := by
  refine fun s => ⟨[.tooDeep limit id], rfl, fun hwithin => ?_⟩
  exact absurd (hwithin _ List.mem_cons_self) (Issue.not_withinDepth_tooDeep limit id)

theorem deeperRuns_within (id key : String) {m m' : Run String} (h : deeperRuns.Rel m m') :
    deeperRuns.Rel (do Run.useSection id; Run.within key m)
      (do Run.useSection id; Run.within key m') := by
  refine RunRelation.bind _ (deeperRuns_of_silent fun s => rfl) fun _ s => ?_
  obtain ⟨added, hissues, hsame⟩ := h { s with moves := s.moves ++ [.enter key] }
  refine ⟨added, hissues, fun hwithin => ?_⟩
  rw [Run.within_apply, Run.within_apply, hsame hwithin]

end Runs

section Limits

variable (world : World) (limit : Int)

/-- A tree is rendered the same with a larger limit if its references are. -/
theorem render_deeper {e e' : Expander} (h : ∀ id b, deeperRuns.Rel (e id b) (e' id b))
    (content : Content) (b : Bindings) :
    deeperRuns.Rel (render world e content b)
      (render (world.withDepthLimit limit) e' content b) := by
  have hresolver : (world.withDepthLimit limit).resolver = world.resolver := rfl
  refine render_rel_self (fun b id => ?_) hresolver rfl (fun draws => ?_) h ?_ b
  · exact deeperRuns_of_silent (Run.issues_readVariable b id)
  · exact deeperRuns_of_silent fun s => rfl
  · exact Content.everywhere_of_forall (fun _ _ _ _ => deeperRuns_warn _) content

/-- References are followed the same with more room, by induction on the room there is. -/
theorem expand_deeper {room room' : Nat} (hroom : room ≤ room') (stack : List String)
    (id : String) (b : Bindings) :
    deeperRuns.Rel (world.expand room stack id b)
      ((world.withDepthLimit limit).expand room' stack id b) := by
  induction room using Nat.strongRecOn generalizing room' stack id b with
  | ind room ih =>
      have hsame : ∀ {x}, world.resolver.findSection id = x →
          (world.withDepthLimit limit).resolver.findSection id = x := fun h => h
      rcases hfound : world.resolver.findSection id with failure | (_ | found)
      · rw [expand_of_error world stack b hfound, expand_of_error _ stack b (hsame hfound)]
        exact RunRelation.fails _ failure
      · rw [expand_of_none world stack b hfound, expand_of_none _ stack b (hsame hfound)]
        exact RunRelation.bind _ (deeperRuns_warn _) fun _ => RunRelation.returns _ ""
      · by_cases hkey : found.identity.scopedId ∈ stack
        · rw [expand_of_mem world b hfound hkey, expand_of_mem _ b (hsame hfound) hkey]
          exact RunRelation.bind _ (deeperRuns_warn _) fun _ => RunRelation.returns _ ""
        · cases room with
          | zero =>
              rw [expand_zero world b hfound hkey]
              exact deeperRuns_tooDeep world.depthLimit id "" _
          | succ inner =>
              -- A section that may be entered here may be entered with more room.
              obtain ⟨inner', rfl⟩ := Nat.exists_eq_add_of_le' (Nat.one_le_of_lt hroom)
              rw [expand_succ world b hfound hkey, expand_succ _ b (hsame hfound) hkey]
              refine deeperRuns_within id _ ?_
              refine render_deeper world limit (fun id b => ?_) found.body.content b
              exact ih inner (Nat.lt_succ_self inner) (Nat.le_of_succ_le_succ hroom) _ id b

/-- **A rendering that does not reach the limit is the same with a larger one.** -/
theorem renderTree_deeper (hlimit : world.depthLimit ≤ limit) (stack : List String)
    (content : Content) (b : Bindings) :
    deeperRuns.Rel (world.renderTree stack content b)
      ((world.withDepthLimit limit).renderTree stack content b) := by
  have hroom : world.room stack ≤ (world.withDepthLimit limit).room stack := by
    simp only [World.room, World.withDepthLimit]
    omega
  exact render_deeper world limit (expand_deeper world limit hroom stack) content b

/-- **All limits that admit all sections at once are alike.** -/
theorem renderTree_limits {keys : List String} (hkeyed : world.resolver.Keyed keys)
    (hfirst : (keys.length : Int) ≤ world.depthLimit) (hsecond : (keys.length : Int) ≤ limit)
    {stack : List String} (hnodup : stack.Nodup) (hstack : stack ⊆ keys) (content : Content)
    (b : Bindings) :
    (world.withDepthLimit limit).renderTree stack content b = world.renderTree stack content b := by
  -- Both are what the smallest of these limits leads to.
  have hsmallest : ∀ other, (keys.length : Int) ≤ other →
      (world.withDepthLimit other).renderTree stack content b =
        (world.withDepthLimit keys.length).renderTree stack content b := by
    intro other hother
    funext s
    have hsame : (world.withDepthLimit keys.length).resolver.Keyed keys := hkeyed
    obtain ⟨added, hissues, hwithin⟩ :=
      renderTree_withinDepth hsame (Int.le_refl _) hnodup hstack content b s
    obtain ⟨added', hissues', hdeeper⟩ :=
      renderTree_deeper (world.withDepthLimit keys.length) other hother stack content b s
    obtain rfl : added' = added := List.append_cancel_left (hissues'.symm.trans hissues)
    exact hdeeper hwithin
  exact (hsmallest limit hsecond).trans (hsmallest world.depthLimit hfirst).symm

end Limits

end PromptTree
