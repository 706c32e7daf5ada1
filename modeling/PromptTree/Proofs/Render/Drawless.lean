import PromptTree.Proofs.Render.Record

/-!
# Trees that draw nothing

Only random nodes draw.  A tree without them, in a world whose sections have none either,
is rendered the same from every source of draws, and leaves the generator where it was
(`renderTree_drawlessRuns`): not even a draw that would be thrown away is taken.

Together with the fact that the record is only written, this lets such a tree be put
between other trees without any effect on them: what they draw is what they drew before
(`partTexts_insert`).

## Main Definitions

* `Content.isRandom` — the kinds of nodes that draw.
* `Content.DrawsNothing`, `Resolver.DrawsNothing` — trees and sections without them.
* `drawlessRuns` — the runs that do not depend on draws.
-/

namespace PromptTree

/-- The node draws. -/
def Content.isRandom : Content → Bool
  | .pickOne _ _ => true
  | .pickMany _ _ _ _ => true
  | .randomValue _ _ _ _ => true
  | .weightedPick _ => true
  | .shuffle _ _ _ _ => true
  | _ => false

/-- No node of the tree draws. -/
def Content.DrawsNothing (content : Content) : Prop :=
  content.Everywhere fun node => node.isRandom = false

/-- No node of a section that can be found draws. -/
def Resolver.DrawsNothing (resolver : Resolver) : Prop :=
  ∀ id found, resolver.findSection id = .ok (some found) → found.body.content.DrawsNothing

/-- The world with another source of draws. -/
def World.withSource (world : World) (source : Random.Source) : World :=
  { world with source := source }

/-! ## Runs that do not depend on draws -/

/-- Runs that are the same from another generator, which is still there afterwards. -/
def drawlessRuns : RunRelation where
  Rel m m' := ∀ (s : RunState) (generator : Random.Generator),
    m' { s with generator := generator } = ((m s).1, { (m s).2 with generator := generator })
  returns _ _ _ := rfl
  fails _ _ _ := rfl
  warns _ _ _ _ := rfl
  bind := by
    intro α β m m' f f' hm hf s generator
    have hfirst := hm s generator
    rcases hrun : m s with ⟨failure | a, t⟩
    · rw [hrun] at hfirst
      rw [Run.bind_of_error hrun, Run.bind_of_error hfirst]
    · rw [hrun] at hfirst
      rw [Run.bind_of_ok hrun, Run.bind_of_ok hfirst]
      exact hf a t generator

/-- Compared with itself, such a run leaves the generator where it was. -/
theorem generator_of_drawlessRuns {α : Type} {m : Run α} (h : drawlessRuns.Rel m m)
    (s : RunState) : (m s).2.generator = s.generator := by
  have hself : m s = ((m s).1, { (m s).2 with generator := s.generator }) := h s s.generator
  exact congrArg (fun outcome => outcome.2.generator) hself

/-- If it also only writes the record, it comes to the same from every state. -/
theorem drawlessRuns_congr {α : Type} {m : Run α} (h : drawlessRuns.Rel m m)
    (hrecord : recordRuns.Rel m m) (s t : RunState) :
    (m t).1 = (m s).1 ∧ (m t).2.generator = t.generator := by
  -- The record does not matter, and then the generator does not.
  have hgenerator : t.generator = RunState.generator { s with generator := t.generator } := rfl
  have hresult : (m t).1 = (m { s with generator := t.generator }).1 :=
    (recordRuns_congr hrecord hgenerator).1
  rw [h s t.generator] at hresult
  exact ⟨hresult, generator_of_drawlessRuns h t⟩

theorem drawlessRuns_reads (b : Bindings) : drawlessRuns.Reads b b where
  vars id := by
    intro s generator
    rw [Run.readVariable_apply, Run.readVariable_apply]
    split
    · rfl
    · rfl
  system := rfl
  constraints := rfl

theorem drawlessRuns_scope : drawlessRuns.Scope fun b b' => b = b' :=
  RunRelation.scope_eq _ fun b => (drawlessRuns_reads b).vars

theorem drawlessRuns_enters : drawlessRuns.Enters where
  warn _ _ _ := rfl
  use _ _ _ := rfl
  within key m m' h s generator := by
    have hinner := h { s with moves := s.moves ++ [.enter key] } generator
    rw [Run.within_apply, Run.within_apply, hinner]

section Trees

variable (world : World) (source : Random.Source)

/-- Nodes that do not draw do the same by themselves, whatever the others draw from. -/
theorem drawlessRuns_matches {node : Content} (h : node.isRandom = false) (b : Bindings) :
    drawlessRuns.Matches world (world.withSource source) b b node := by
  cases node with
  | list _ set _ => exact drawlessRuns.lift (world.resolver.findRules set)
  | context _ _ => exact fun _ => rfl
  | unknown _ _ => exact drawlessRuns_enters.warn _
  | pickOne _ _ | pickMany _ _ _ _ | randomValue _ _ _ _ | weightedPick _ | shuffle _ _ _ _ =>
      cases h
  | _ => trivial

theorem Content.DrawsNothing.matchesTree {content : Content} (h : content.DrawsNothing) :
    drawlessRuns.MatchesTree (fun b b' => b = b') world (world.withSource source) content := by
  refine h.imp fun node hnode b b' heq => ?_
  subst heq
  exact drawlessRuns_matches world source hnode b

variable {world} (hsections : world.resolver.DrawsNothing) {content : Content}
  (h : content.DrawsNothing)
include hsections h

/-- **A tree that draws nothing is rendered the same from every source of draws.** -/
theorem renderTree_drawlessRuns (stack : List String) (b : Bindings) :
    drawlessRuns.Rel (world.renderTree stack content b)
      ((world.withSource source).renderTree stack content b) := by
  have hfound : ∀ id found, world.resolver.findSection id = .ok (some found) →
      drawlessRuns.MatchesTree (fun b b' => b = b') world (world.withSource source)
        found.body.content :=
    fun id found hfind => (hsections id found hfind).matchesTree world source
  have hsame : (world.withSource source).resolver.findSection = world.resolver.findSection := rfl
  exact renderTree_rel drawlessRuns_scope drawlessRuns_enters hsame rfl hfound
    (h.matchesTree world source) stack rfl

/-- What a tree that draws nothing comes to is the same from every state, and the generator
stays. -/
theorem renderTree_of_drawsNothing (stack : List String) (b : Bindings) (s t : RunState) :
    (world.renderTree stack content b t).1 = (world.renderTree stack content b s).1 ∧
      (world.renderTree stack content b t).2.generator = t.generator := by
  have hself : drawlessRuns.Rel (world.renderTree stack content b)
      (world.renderTree stack content b) :=
    renderTree_drawlessRuns world.source hsections h stack b
  exact drawlessRuns_congr hself (renderTree_recordRuns world stack content b) s t

end Trees

/-! ## Parts between other parts -/

section Parts

variable (world : World) (stack : List String) (b : Bindings)

theorem partTexts_cons (content : Content) (rest : List Content) :
    world.partTexts stack (content :: rest) b = (do
      let text ← world.renderTree stack content b
      return text :: (← world.partTexts stack rest b)) := by
  simp only [World.partTexts, World.renderTree, renderAll]

/-- The first part fails, and with it the parts. -/
theorem partTexts_cons_of_error {content : Content} {s t : RunState} {failure : Failure}
    (h : world.renderTree stack content b s = (.error failure, t)) (rest : List Content) :
    world.partTexts stack (content :: rest) b s = (.error failure, t) := by
  rw [partTexts_cons, Run.bind_of_error h]

/-- The text of the first part, and then those of the others. -/
theorem partTexts_cons_of_ok {content : Content} {s t : RunState} {text : String}
    (h : world.renderTree stack content b s = (.ok text, t)) (rest : List Content) :
    world.partTexts stack (content :: rest) b s =
      ((world.partTexts stack rest b t).1.map (text :: ·), (world.partTexts stack rest b t).2) := by
  rw [partTexts_cons, Run.bind_of_ok h]
  rcases hrest : world.partTexts stack rest b t with ⟨failure | texts, u⟩
  · rw [Run.bind_of_error hrest]
    rfl
  · rw [Run.bind_of_ok hrest]
    rfl

variable {world} (hsections : world.resolver.DrawsNothing) {extra : Content}
  (h : extra.DrawsNothing)
include hsections h

/-- **A part that draws nothing leaves the other parts as they are**: put at any position, it
adds its own text there, and the generator ends where it would without it. -/
theorem partTexts_insert {s : RunState} {text : String}
    (htext : (world.renderTree stack extra b s).1 = .ok text) (parts : List Content)
    (position : Nat) :
    (world.partTexts stack (parts.insertIdx position extra) b s).1 =
        (world.partTexts stack parts b s).1.map (·.insertIdx position text) ∧
      (world.partTexts stack (parts.insertIdx position extra) b s).2.generator =
        (world.partTexts stack parts b s).2.generator := by
  induction position generalizing parts s with
  | zero =>
      obtain ⟨-, hgenerator⟩ := renderTree_of_drawsNothing hsections h stack b s s
      rcases hrun : world.renderTree stack extra b s with ⟨result, t⟩
      rw [hrun] at htext hgenerator
      subst htext
      -- The other parts only take over the generator.
      obtain ⟨hresult, hend⟩ :=
        recordRuns_congr (partTexts_recordRuns world stack parts b) hgenerator
      rw [List.insertIdx_zero, partTexts_cons_of_ok world stack b hrun]
      refine ⟨?_, hend⟩
      simp only [hresult, List.insertIdx_zero]
  | succ position ih =>
      cases parts with
      | nil =>
          rw [List.insertIdx_succ_nil]
          exact ⟨rfl, rfl⟩
      | cons first rest =>
          rw [List.insertIdx_succ_cons]
          rcases hrun : world.renderTree stack first b s with ⟨failure | own, t⟩
          · rw [partTexts_cons_of_error world stack b hrun,
              partTexts_cons_of_error world stack b hrun]
            exact ⟨rfl, rfl⟩
          · have hlater : (world.renderTree stack extra b t).1 = .ok text := by
              rw [(renderTree_of_drawsNothing hsections h stack b s t).1, htext]
            obtain ⟨hresult, hend⟩ := ih hlater rest
            rw [partTexts_cons_of_ok world stack b hrun, partTexts_cons_of_ok world stack b hrun]
            refine ⟨?_, hend⟩
            simp only [hresult]
            cases (world.partTexts stack rest b t).1 with
            | error failure => rfl
            | ok texts => rfl

/-- A part that draws nothing and fails: what comes before it is rendered as it was, and
what comes after it is not rendered. -/
theorem partTexts_insert_of_error {s : RunState} {failure : Failure}
    (hfailure : (world.renderTree stack extra b s).1 = .error failure) {parts : List Content}
    {position : Nat} (hposition : position ≤ parts.length) :
    (world.partTexts stack (parts.insertIdx position extra) b s).1 =
      (world.partTexts stack (parts.take position) b s).1.bind fun _ => .error failure := by
  induction position generalizing parts s with
  | zero =>
      rcases hrun : world.renderTree stack extra b s with ⟨result, t⟩
      rw [hrun] at hfailure
      subst hfailure
      rw [List.insertIdx_zero, partTexts_cons_of_error world stack b hrun]
      rfl
  | succ position ih =>
      cases parts with
      | nil => cases hposition
      | cons first rest =>
          rw [List.insertIdx_succ_cons, List.take_succ_cons]
          rcases hrun : world.renderTree stack first b s with ⟨failure' | own, t⟩
          · rw [partTexts_cons_of_error world stack b hrun,
              partTexts_cons_of_error world stack b hrun]
            rfl
          · have hlater : (world.renderTree stack extra b t).1 = .error failure := by
              rw [(renderTree_of_drawsNothing hsections h stack b s t).1, hfailure]
            have hresult := ih hlater (Nat.le_of_succ_le_succ hposition)
            rw [partTexts_cons_of_ok world stack b hrun, partTexts_cons_of_ok world stack b hrun]
            simp only [hresult]
            cases (world.partTexts stack (rest.take position) b t).1 with
            | error failure => rfl
            | ok texts => rfl

end Parts

end PromptTree
