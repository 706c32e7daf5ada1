import PromptTree.Proofs.Render.Drawless
import PromptTree.Proofs.Text.Marks

/-!
# Nodes that start anew

If every random node starts a generator of its own from the seed, and drops it afterwards, no
node takes over anything from the nodes before it: the shared generator is never touched
(`renderTree_drawlessRuns_of_nodeSeed`), and the record is not read.  So a tree comes to the
same from every state (`renderTree_of_nodeSeed`), and the parts of a composite to what each
of them comes to alone (`partTexts_eq_mapM`): **rendering is compositional**
(`renderTree_compositional`).

The relation is that of trees that draw nothing, `drawlessRuns`.  There it holds since there
are no random nodes; here they are at any place, and it holds of each of their draws.
-/

namespace PromptTree

/-! ## Draws from a generator of its own -/

section Draws

variable {world : World} {seed : Int} (hseed : world.source.nodeSeed? = some seed)
include hseed

/-- Draws from a generator of its own are the same whatever the shared one is, and leave it. -/
theorem drawlessRuns_take {α : Type} (draws : Random.Draw α) :
    drawlessRuns.Rel (world.take draws) (world.take draws) := by
  intro s generator
  simp only [World.take, Random.Source.drawFrom, hseed]

theorem drawlessRuns_matchesTree_of_nodeSeed (content : Content) :
    drawlessRuns.MatchesTree (fun b b' => b = b') world world content := by
  refine Content.everywhere_of_forall (fun node b b' heq => ?_) content
  exact RunRelation.matches_self _ (drawlessRuns_take hseed)
    (fun _ _ _ => drawlessRuns_enters.warn _) fun _ => heq ▸ rfl

variable (stack : List String) (b : Bindings)

/-- **A rendering whose nodes start anew does not depend on the shared generator.** -/
theorem renderTree_drawlessRuns_of_nodeSeed (content : Content) :
    drawlessRuns.Rel (world.renderTree stack content b) (world.renderTree stack content b) :=
  renderTree_rel drawlessRuns_scope drawlessRuns_enters rfl rfl
    (fun _ found _ => drawlessRuns_matchesTree_of_nodeSeed hseed found.body.content)
    (drawlessRuns_matchesTree_of_nodeSeed hseed content) stack rfl

/-- What a tree comes to is the same from every state. -/
theorem renderTree_of_nodeSeed (content : Content) (s t : RunState) :
    (world.renderTree stack content b t).1 = (world.renderTree stack content b s).1 :=
  (drawlessRuns_congr (renderTree_drawlessRuns_of_nodeSeed hseed stack b content)
    (renderTree_recordRuns world stack content b) s t).1

/-- **The parts of a composite come to what each of them comes to alone**, up to the first
that fails. -/
theorem partTexts_eq_mapM (parts : List Content) (s t : RunState) :
    (world.partTexts stack parts b t).1 =
      parts.mapM fun part => (world.renderTree stack part b s).1 := by
  induction parts generalizing t with
  | nil => rfl
  | cons first rest ih =>
      have halone : (world.renderTree stack first b t).1 = (world.renderTree stack first b s).1 :=
        renderTree_of_nodeSeed hseed stack b first s t
      rw [List.mapM_cons, ← halone]
      rcases hrun : world.renderTree stack first b t with ⟨failure | text, u⟩
      · rw [partTexts_cons_of_error world stack b hrun]
        rfl
      · rw [partTexts_cons_of_ok world stack b hrun, ih u]
        cases rest.mapM fun part => (world.renderTree stack part b s).1 with
        | error failure => rfl
        | ok texts => rfl

end Draws

/-- Runs that all succeed give their results in order. -/
theorem mapM_map_fst_of_ok {α β : Type} {f : α → Except Failure β} {pairs : List (α × β)}
    (h : ∀ pair ∈ pairs, f pair.1 = .ok pair.2) :
    (pairs.map Prod.fst).mapM f = .ok (pairs.map Prod.snd) := by
  induction pairs with
  | nil => rfl
  | cons first rest ih =>
      obtain ⟨hfirst, hrest⟩ := List.forall_mem_cons.mp h
      rw [List.map_cons, List.mapM_cons, hfirst, ih hrest]
      rfl

/-- **With a seed from which every node starts anew, rendering is compositional.**  Let each of
some parts have the text next to it when it is rendered alone.

* Rendered from the same state, the composite of the parts is their texts put together.
* In any other order the parts have the same texts, in that order, and so has their composite.
* Any tree, whether it is one of the parts or stands below one of them, comes to the same from
  whatever state it is reached in, as long as the bindings and the sections being expanded are
  the same: no random node before it has any influence. -/
theorem renderTree_compositional (world : World) (seed : Int)
    (hsource : world.source = .make (some seed) true) (stack : List String) (b : Bindings)
    (s : RunState) (parts : List (Content × String))
    (htexts : ∀ part ∈ parts, (world.renderTree stack part.1 b s).1 = .ok part.2) :
    (world.renderTree stack (.composite (parts.map Prod.fst)) b s).1 =
        .ok (String.join (parts.map Prod.snd)) ∧
      (∀ order : List (Content × String), order.Perm parts →
        (world.partTexts stack (order.map Prod.fst) b s).1 = .ok (order.map Prod.snd) ∧
        (world.renderTree stack (.composite (order.map Prod.fst)) b s).1 =
          .ok (String.join (order.map Prod.snd))) ∧
      ∀ content t,
        (world.renderTree stack content b t).1 = (world.renderTree stack content b s).1 := by
  have hseed : world.source.nodeSeed? = some seed := by
    rw [hsource]
    rfl
  have horder : ∀ order : List (Content × String), order.Perm parts →
      (world.partTexts stack (order.map Prod.fst) b s).1 = .ok (order.map Prod.snd) ∧
      (world.renderTree stack (.composite (order.map Prod.fst)) b s).1 =
        .ok (String.join (order.map Prod.snd)) := by
    intro order hperm
    have hparts : (world.partTexts stack (order.map Prod.fst) b s).1 =
        .ok (order.map Prod.snd) := by
      rw [partTexts_eq_mapM hseed stack b _ s s]
      exact mapM_map_fst_of_ok fun part hpart => htexts part (hperm.mem_iff.mp hpart)
    refine ⟨hparts, ?_⟩
    rcases hrun : world.partTexts stack (order.map Prod.fst) b s with ⟨result, t⟩
    rw [hrun] at hparts
    subst hparts
    rw [renderTree_composite, Run.bind_of_ok hrun, Text.join_blank]
    rfl
  refine ⟨(horder parts (List.Perm.refl parts)).2, horder, fun content t => ?_⟩
  exact renderTree_of_nodeSeed hseed stack b content s t

/-- A drink, some of them of two kinds. -/
def drink : Content :=
  .pickOne [.text "tea", .pickOne [.text "black coffee", .text "white coffee"] none, .text "water"]
    none

/-- The section `drink`, and no other. -/
def drinkSection : Resolver where
  findSection
    | "drink" => .ok (some ⟨{ id := "drink" }, { content := drink }⟩)
    | _ => .ok none
  findSeparatorSet _ := .ok none
  findDataType _ := .ok none

/-- A drink, the guests in any order, and a drink for each of them: all drinks are the same, and
so they are if the guests come first. -/
theorem renderTree_compositional_drinks :
    let world : World := { resolver := drinkSection, source := .make (some 7) true }
    let b : Bindings := { vars := [("guests", .list [.str "Ada", .str "Bo"])] }
    let start : RunState := { generator := .seeded 7 }
    let guests : Content := .shuffle "guests" none none none
    let orders : Content := .list "guests" "simple-comma"
      (some (.composite [.variable "item" none none, .text ": ", .sectionRef "drink"]))
    let parts : List (Content × String) :=
      [(drink, "white coffee"), (guests, "Ada and Bo"),
       (orders, "Ada: white coffee, Bo: white coffee")]
    let order : List (Content × String) :=
      [(guests, "Ada and Bo"), (drink, "white coffee"),
       (orders, "Ada: white coffee, Bo: white coffee")]
    world.source = .make (some 7) true ∧
      (∀ part ∈ parts, (world.renderTree [] part.1 b start).1 = .ok part.2) ∧
      (world.renderTree [] (.composite [drink, guests, orders]) b start).1 =
        .ok "white coffeeAda and BoAda: white coffee, Bo: white coffee" ∧
      order.Perm parts ∧
      (world.renderTree [] (.composite [guests, drink, orders]) b start).1 =
        .ok "Ada and Bowhite coffeeAda: white coffee, Bo: white coffee" := by
  intro world b start guests orders parts order
  have htexts : ∀ part ∈ parts, (world.renderTree [] part.1 b start).1 = .ok part.2 := by
    decide +kernel
  have hperm : order.Perm parts := List.Perm.swap ..
  obtain ⟨hcomposite, horder, -⟩ :=
    renderTree_compositional world 7 rfl [] b start parts htexts
  exact ⟨rfl, htexts, hcomposite, hperm, (horder order hperm).2⟩

end PromptTree
