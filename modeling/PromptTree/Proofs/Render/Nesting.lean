import Mathlib.Data.List.Nodup
import PromptTree.Proofs.Render.Induction

/-!
# Nesting of sections

References may lead from any section to any other, and back.  This module says how
rendering keeps them in bounds, whatever the lookups find and wherever they fail:

* **Nothing but the depth limit bounds the recursion** (`renderTree_sectionRef`): the text
  of a reference is what the rule for references says of the text of the section it leads
  to, with no bound on the recursion besides the limit of the rule itself.
* **The stack is well nested** (`renderTree_nested`): no section is ever twice on the stack
  of sections being expanded, the stack at entry stays below, the depth stays within the
  limit, and at the end, of a rendering that succeeds or fails, the stack is that of the
  beginning.
* **There is one stack** (`renderTree_eq_tracked`): what references are checked against is
  the stack that the moves so far have led to.

The last two are relations between runs for every stack, `StackRelation`, and follow from
what such a relation says of a run inside one more section.

`Nested` is the invariant, about the moves that a rendering makes.  It is kept when moves
are put one after the other (`Nested.append`), which is all that nodes do, and when they
are made inside one more section (`Nested.inside`), which is all that references do.
-/

namespace PromptTree

/-! ## Moves -/

theorem stackAfter_append (stack : List String) (first second : List Move) :
    stackAfter stack (first ++ second) = stackAfter (stackAfter stack first) second := by
  induction first generalizing stack with
  | nil => rfl
  | cons move rest ih =>
      cases move with
      | enter key => exact ih (stack ++ [key])
      | leave => exact ih stack.dropLast

/-- What the stack may be at any moment of a rendering that began at `stack`: no section is
twice on it, the one of the beginning is below, and it is no deeper than that one or the
limit. -/
structure StackWithin (limit : Int) (stack now : List String) : Prop where
  nodup : now.Nodup
  above : stack <+: now
  depth : (now.length : Int) ≤ max (stack.length : Int) limit

/-- **Well nested moves**: the stack is what it may be at every moment, and at the end what
it was at the beginning. -/
structure Nested (limit : Int) (stack : List String) (moves : List Move) : Prop where
  always : ∀ past, past <+: moves → StackWithin limit stack (stackAfter stack past)
  returns : stackAfter stack moves = stack

theorem StackWithin.self {limit : Int} {stack : List String} (h : stack.Nodup) :
    StackWithin limit stack stack :=
  ⟨h, List.prefix_rfl, by omega⟩

/-- Inside a section that the limit admits, the stack is also what it may be around it. -/
theorem StackWithin.outside {limit : Int} {stack now : List String} {key : String}
    (hroom : (stack.length : Int) < limit) (h : StackWithin limit (stack ++ [key]) now) :
    StackWithin limit stack now where
  nodup := h.nodup
  above := (List.prefix_append stack [key]).trans h.above
  depth := by
    have hdepth := h.depth
    simp only [List.length_append, List.length_singleton, Int.natCast_add] at hdepth
    omega

namespace Nested

variable {limit : Int} {stack : List String}

theorem nil (h : stack.Nodup) : Nested limit stack [] where
  always past hpast := by
    obtain rfl := List.prefix_nil.mp hpast
    exact .self h
  returns := rfl

theorem nodup {moves : List Move} (h : Nested limit stack moves) : stack.Nodup :=
  (h.always [] List.nil_prefix).nodup

theorem append {first second : List Move} (h : Nested limit stack first)
    (h' : Nested limit stack second) : Nested limit stack (first ++ second) where
  always past hpast := by
    rcases List.prefix_or_prefix_of_prefix hpast (List.prefix_append first second) with
      hfirst | ⟨rest, rfl⟩
    · exact h.always past hfirst
    · -- Past the first moves, the stack is again that of the beginning.
      rw [stackAfter_append, h.returns]
      exact h'.always rest ((List.prefix_append_right_inj first).mp hpast)
  returns := by
    rw [stackAfter_append, h.returns, h'.returns]

/-- **Moves that are well nested inside a section are so around it**, if the limit admits
the section.  That it was not on the stack is part of being well nested inside it. -/
theorem inside {key : String} {moves : List Move} (hroom : (stack.length : Int) < limit)
    (h : Nested limit (stack ++ [key]) moves) :
    Nested limit stack (.enter key :: (moves ++ [.leave])) := by
  have hreturns : stackAfter stack (.enter key :: (moves ++ [.leave])) = stack := by
    rw [stackAfter, stackAfter_append, h.returns]
    simp [stackAfter]
  have hnodup : stack.Nodup := h.nodup.of_append_left
  refine ⟨fun past hpast => ?_, hreturns⟩
  rcases List.prefix_cons_iff.mp hpast with rfl | ⟨later, rfl, hlater⟩
  · exact .self hnodup
  · rcases List.prefix_concat_iff.mp hlater with rfl | hinner
    · rw [hreturns]
      exact .self hnodup
    · exact .outside hroom (h.always later hinner)

end Nested

/-! ## Relations for every stack -/

/-- **A relation between runs for every stack.**  It relates runs that make no moves with
themselves, and runs in a section that is new on the stack and within the limit, if it
relates them for the stack with that section. -/
structure StackRelation (limit : Int) where
  rel : List String → RunRelation
  still : ∀ (stack : List String) {α : Type} {m : Run α},
    (∀ s, (m s).2.moves = s.moves) → (rel stack).Rel m m
  within : ∀ {stack : List String} {key : String} {m m' : Run String},
    key ∉ stack → (stack.length : Int) < limit → (rel (stack ++ [key])).Rel m m' →
      (rel stack).Rel (Run.within key m) (Run.within key m')

section References

variable (world : World) (r : StackRelation world.depthLimit) {stack : List String}

/-- Trees are related if their references are: nodes by themselves make no moves. -/
theorem render_stackRelation {e e' : Expander}
    (hexpand : ∀ id b, (r.rel stack).Rel (e id b) (e' id b)) (content : Content) (b : Bindings) :
    (r.rel stack).Rel (render world e content b) (render world e' content b) := by
  refine render_rel_self (fun b id => ?_) rfl rfl (fun draws => ?_) hexpand ?_ b
  · exact r.still stack (Run.moves_readVariable b id)
  · exact r.still stack fun _ => rfl
  · exact Content.everywhere_of_forall (fun _ _ _ _ => r.still stack fun _ => rfl) content

/-- References are related if the limit admits one more section wherever there is a way to
go deeper, and if what is deeper is related. -/
theorem expandWith_stackRelation {deeper deeper' : Option (List String → Expander)}
    (hdeeper : Option.Rel (fun inner inner' => (stack.length : Int) < world.depthLimit ∧
      ∀ key id b, (r.rel (stack ++ [key])).Rel (inner (stack ++ [key]) id b)
        (inner' (stack ++ [key]) id b)) deeper deeper') (id : String) (b : Bindings) :
    (r.rel stack).Rel (world.expandWith deeper stack id b)
      (world.expandWith deeper' stack id b) := by
  have hwarn : ∀ issue, (r.rel stack).Rel (Run.warn issue) (Run.warn issue) :=
    fun issue => r.still stack fun _ => rfl
  unfold World.expandWith
  refine RunRelation.bind _ (RunRelation.lift _ _) fun found => ?_
  cases found with
  | none => exact RunRelation.bind _ (hwarn _) fun _ => RunRelation.returns _ _
  | some found =>
      simp only
      split
      · exact RunRelation.bind _ (hwarn _) fun _ => RunRelation.returns _ _
      · rename_i hseen
        have hfresh : found.identity.scopedId ∉ stack := by simpa using hseen
        cases hdeeper with
        | none => exact RunRelation.bind _ (hwarn _) fun _ => RunRelation.returns _ _
        | some h =>
            obtain ⟨hlimit, hinner⟩ := h
            refine RunRelation.bind _ (r.still stack fun _ => rfl) fun _ => ?_
            exact r.within hfresh hlimit
              (render_stackRelation world r (hinner _) found.body.content b)

theorem room_eq_succ {room : Nat} (h : world.room stack = room + 1) :
    (stack.length : Int) < world.depthLimit ∧ ∀ key, world.room (stack ++ [key]) = room := by
  unfold World.room at *
  refine ⟨by omega, fun key => ?_⟩
  simp only [List.length_append, List.length_singleton, Int.natCast_add]
  omega

end References

/-! ## Runs that move well -/

/-- A step of a run that adds well nested moves. -/
def NestedStep (limit : Int) (stack : List String) (s t : RunState) : Prop :=
  ∃ moves, t.moves = s.moves ++ moves ∧ Nested limit stack moves

theorem nestedStep_of_moves_eq {limit : Int} {stack : List String} (h : stack.Nodup)
    {s t : RunState} (hmoves : t.moves = s.moves) : NestedStep limit stack s t :=
  ⟨[], by rw [hmoves, List.append_nil], .nil h⟩

theorem NestedStep.trans {limit : Int} {stack : List String} {s t u : RunState}
    (h : NestedStep limit stack s t) (h' : NestedStep limit stack t u) :
    NestedStep limit stack s u := by
  obtain ⟨first, hfirst, hnested⟩ := h
  obtain ⟨second, hsecond, hnested'⟩ := h'
  exact ⟨first ++ second, by rw [hsecond, hfirst, List.append_assoc], hnested.append hnested'⟩

/-- The runs that move well inside a stack without repetitions. -/
def nestedRuns (limit : Int) : StackRelation limit where
  rel stack := .along (fun s t => stack.Nodup → NestedStep limit stack s t)
    (fun _ h => nestedStep_of_moves_eq h rfl) (fun hst htu h => (hst h).trans (htu h))
    fun _ _ _ h => nestedStep_of_moves_eq h rfl
  still stack _ _ hmoves s h := nestedStep_of_moves_eq h (hmoves s)
  within := by
    intro stack key m m' hfresh hlimit hrun s h
    have h' : (stack ++ [key]).Nodup := by
      rw [← List.concat_eq_append, List.nodup_concat]
      exact ⟨hfresh, h⟩
    obtain ⟨moves, hmoves, hnested⟩ := hrun { s with moves := s.moves ++ [.enter key] } h'
    refine ⟨.enter key :: (moves ++ [.leave]), ?_, hnested.inside hlimit⟩
    change (m { s with moves := s.moves ++ [.enter key] }).2.moves ++ [.leave] = _
    rw [hmoves]
    simp

/-- **References move well**, by induction on the number of sections that may still be
entered. -/
theorem expand_nested (world : World) (room : Nat) :
    ∀ {stack : List String}, world.room stack = room → ∀ (id : String) (b : Bindings),
      ((nestedRuns world.depthLimit).rel stack).Rel (world.expand room stack id b)
        (world.expand room stack id b) := by
  induction room with
  | zero =>
      intro stack _ id b
      exact expandWith_stackRelation world (nestedRuns world.depthLimit) .none id b
  | succ room ih =>
      intro stack hroom id b
      obtain ⟨hlimit, hinside⟩ := room_eq_succ world hroom
      exact expandWith_stackRelation world (nestedRuns world.depthLimit)
        (.some ⟨hlimit, fun key => ih (hinside key)⟩) id b

/-! ## One stack -/

/-- References rendered with no stack but the one that the moves so far have led to. -/
def World.expandTracked (world : World) (base : List String) : Nat → Expander
  | 0 => fun id b s => world.expandWith none (stackAfter base s.moves) id b s
  | room + 1 => fun id b s =>
    world.expandWith (some fun _ => world.expandTracked base room) (stackAfter base s.moves) id b s

/-- Runs that are the same from every state whose moves have led to the stack, and come
back to it. -/
def trackedRuns (limit : Int) (base : List String) : StackRelation limit where
  rel stack :=
    { Rel := fun m m' => ∀ s, stackAfter base s.moves = stack →
        m' s = m s ∧ stackAfter base (m s).2.moves = stack
      returns := fun _ _ h => ⟨rfl, h⟩
      fails := fun _ _ h => ⟨rfl, h⟩
      warns := fun _ _ _ h => ⟨rfl, h⟩
      bind := by
        intro α β m m' f f' hm hf s h
        obtain ⟨hsame, hstack⟩ := hm s h
        rcases hrun : m s with ⟨failure | a, t⟩
        · rw [hrun] at hsame hstack
          rw [Run.bind_of_error hrun, Run.bind_of_error hsame]
          exact ⟨rfl, hstack⟩
        · rw [hrun] at hsame hstack
          rw [Run.bind_of_ok hrun, Run.bind_of_ok hsame]
          exact hf a t hstack }
  still stack _ m hmoves s h := by
    refine ⟨rfl, ?_⟩
    rw [hmoves s, h]
  within := by
    intro stack key m m' _ _ hrun s h
    have hinside : stackAfter base (s.moves ++ [.enter key]) = stack ++ [key] := by
      rw [stackAfter_append, h]
      rfl
    obtain ⟨hsame, hstack⟩ := hrun { s with moves := s.moves ++ [.enter key] } hinside
    unfold Run.within
    rw [hsame]
    refine ⟨rfl, ?_⟩
    change stackAfter base ((m { s with moves := s.moves ++ [.enter key] }).2.moves ++ [.leave]) = _
    rw [stackAfter_append, hstack]
    exact List.dropLast_concat

theorem expand_tracked (world : World) (base : List String) (room : Nat) :
    ∀ {stack : List String}, world.room stack = room → ∀ (id : String) (b : Bindings),
      ((trackedRuns world.depthLimit base).rel stack).Rel (world.expand room stack id b)
        (world.expandTracked base room id b) := by
  induction room with
  | zero =>
      intro stack _ id b s hs
      simp only [World.expandTracked, hs]
      exact expandWith_stackRelation world (trackedRuns world.depthLimit base) .none id b s hs
  | succ room ih =>
      intro stack hroom id b s hs
      obtain ⟨hlimit, hinside⟩ := room_eq_succ world hroom
      simp only [World.expandTracked, hs]
      exact expandWith_stackRelation world (trackedRuns world.depthLimit base)
        (.some ⟨hlimit, fun key => ih (hinside key)⟩) id b s hs

/-- **There is one stack.**  The stack that a reference is checked against is the one that
the moves so far have led to: a rendering that has no other does the same. -/
theorem renderTree_eq_tracked (world : World) {base stack : List String} (content : Content)
    (b : Bindings) {s : RunState} (h : stackAfter base s.moves = stack) :
    world.renderTree stack content b s =
      render world (world.expandTracked base (world.room stack)) content b s :=
  (render_stackRelation world (trackedRuns world.depthLimit base)
    (expand_tracked world base (world.room stack) rfl) content b s h).1.symm

/-! ## The recursion through references -/

/-- How references are rendered inside a section that is entered from here: as they are
anywhere, if the limit admits one more section. -/
def World.deeper? (world : World) (stack : List String) : Option (List String → Expander) :=
  if (stack.length : Int) < world.depthLimit then
    some fun inner id b => world.renderTree inner (.sectionRef id) b
  else none

theorem expandWith_congr (world : World) {stack : List String}
    {inner inner' : List String → Expander}
    (h : ∀ key, inner (stack ++ [key]) = inner' (stack ++ [key])) (id : String) (b : Bindings) :
    world.expandWith (some inner) stack id b = world.expandWith (some inner') stack id b := by
  simp only [World.expandWith, h]

theorem renderTree_sectionRef_eq_expand (world : World) (stack : List String) (id : String)
    (b : Bindings) :
    world.renderTree stack (.sectionRef id) b = world.expand (world.room stack) stack id b := by
  simp only [World.renderTree, render]

/-- **Nothing but the depth limit bounds the recursion.**  A reference is rendered by the
rule for references, and what the rule asks for one section deeper is again the rendering
of trees: the number of sections that may still be entered is no bound besides. -/
theorem renderTree_sectionRef (world : World) (stack : List String) (id : String)
    (b : Bindings) :
    world.renderTree stack (.sectionRef id) b =
      world.expandWith (world.deeper? stack) stack id b := by
  rw [renderTree_sectionRef_eq_expand]
  cases hroom : world.room stack with
  | zero =>
      have hlimit : ¬ (stack.length : Int) < world.depthLimit := by
        unfold World.room at hroom
        omega
      simp only [World.deeper?, hlimit, if_false]
      rfl
  | succ room =>
      obtain ⟨hlimit, hinside⟩ := room_eq_succ world hroom
      simp only [World.deeper?, hlimit, if_true]
      refine expandWith_congr world (fun key => ?_) id b
      funext id b
      rw [renderTree_sectionRef_eq_expand, hinside key]

/-- **Rendering ends, and nests sections well.**  Whatever the lookups find, sections that
refer to themselves or to each other included, and wherever they fail: a reference is
rendered by the rule for references with no other bound than the depth limit, and a tree
is rendered with moves after each of which no section is twice on the stack, the stack of
the beginning is below and the depth within the limit; the last of them, of a rendering
that fails as well, leads back to the stack of the beginning. -/
theorem renderTree_nested (world : World) (stack : List String) (h : stack.Nodup) :
    (∀ id b, world.renderTree stack (.sectionRef id) b =
      world.expandWith (world.deeper? stack) stack id b) ∧
    ∀ (content : Content) (b : Bindings) (s : RunState),
      ∃ moves, (world.renderTree stack content b s).2.moves = s.moves ++ moves ∧
        (∀ past, past <+: moves →
          StackWithin world.depthLimit stack (stackAfter stack past)) ∧
        stackAfter stack moves = stack := by
  refine ⟨renderTree_sectionRef world stack, fun content b s => ?_⟩
  have hexpand := @expand_nested world (world.room stack) stack rfl
  obtain ⟨moves, hmoves, hnested⟩ :=
    render_stackRelation world (nestedRuns world.depthLimit) hexpand content b s h
  exact ⟨moves, hmoves, hnested.always, hnested.returns⟩

/-- The section `b` refers back to the section `a`, and then to one whose lookup fails. -/
def failingSections : Resolver where
  findSection
    | "a" => .ok (some ⟨{ id := "a" }, { content := .sectionRef "b" }⟩)
    | "b" =>
      .ok (some ⟨{ id := "b" }, { content := .composite [.sectionRef "a", .sectionRef "c"] }⟩)
    | id => .error (.lookup id)
  findSeparatorSet _ := .ok none
  findDataType _ := .ok none

/-- A rendering that fails one section deep is back at the stack of its beginning. -/
theorem renderTree_nested_failing :
    let world : World := { resolver := failingSections }
    let run := world.renderTree [":a"] (.sectionRef "b") {} { generator := .congruential 0 }
    [":a"].Nodup ∧ run.1 = .error (.lookup "c") ∧ run.2.moves = [.enter ":b", .leave] ∧
      (∀ past, past <+: run.2.moves → StackWithin 32 [":a"] (stackAfter [":a"] past)) ∧
      stackAfter [":a"] run.2.moves = [":a"] := by
  intro world run
  have hnodup : [":a"].Nodup := by decide
  obtain ⟨moves, hmoves, halways, hreturns⟩ :=
    (renderTree_nested world [":a"] hnodup).2 (.sectionRef "b") {}
      { generator := .congruential 0 }
  have hrun : run.2.moves = moves := hmoves
  rw [← hrun] at halways hreturns
  exact ⟨hnodup, rfl, rfl, halways, hreturns⟩

end PromptTree
