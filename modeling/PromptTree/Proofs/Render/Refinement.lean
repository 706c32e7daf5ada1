import PromptTree.Proofs.Content.Legible
import PromptTree.Proofs.Render.Nesting
import PromptTree.Proofs.Render.Texts

/-!
# Renderings and the meaning of trees

**A text that a tree is rendered to is one that the tree denotes** (`renderTree_denotes`),
for every tree that was read, all values, and every generator whose draws are from zero to
one.  Nothing is said of a rendering that fails.

The proof is by induction on the tree, with the theorem about the kind of the node in each
case, and by induction on the number of sections that may still be entered.  That the tree
was read is used once: a range of numbers to pick has a number in it then.

## Main Definitions

* `Resolver.ReadsSections` — resolvers that only find sections that were read.
-/

namespace PromptTree

open PromptTree.Random (Returns)

/-! ## Trees -/

section Trees

variable {world : World} {expand : Expander} {stack : List String}

/-- **A tree is rendered to what it denotes**, if references are. -/
theorem renders_of_expand
    (hexpand : ∀ id b, Returns world.Bounded (expand id b) (Denotes world stack (.sectionRef id) b))
    {content : Content} (tree : content.Everywhere Content.Legible) :
    ∀ b, Renders world expand stack content b := by
  induction tree with
  | @node content own _ ih =>
      intro b
      match content with
      | .text value =>
          simp only [Renders, render]
          exact Returns.value (.text value)
      | .variable id path format => exact renders_variable id path format
      | .sectionRef id =>
          simp only [Renders, render]
          exact hexpand id b
      | .composite _ => exact renders_composite fun part hpart => ih part hpart b
      | .conditional condition yes _ =>
          exact renders_conditional condition (ih yes List.mem_cons_self b)
            fun no hno => ih no (List.mem_cons_of_mem yes hno) b
      | .list id set _ => exact renders_list id set ih
      | .context key _ => exact renders_context key fun other hother => ih other hother b
      | .plural id forms => exact renders_plural id forms
      | .article wordVariable _ style capitalize =>
          exact renders_article wordVariable style capitalize fun word hword => ih word hword b
      | .countSwitch id _ _ =>
          exact renders_countSwitch id
            (fun content hcase => ih content (List.mem_append_left _ hcase) b)
            fun content hother => ih content (List.mem_append_right _ hother) b
      | .switch id _ _ =>
          exact renders_switch id
            (fun content hcase => ih content (List.mem_append_left _ hcase) b)
            fun content hother => ih content (List.mem_append_right _ hother) b
      | .pickOne _ weights =>
          exact renders_pickOne weights fun candidate hcandidate => ih candidate hcandidate b
      | .pickMany _ count set allowDuplicates =>
          refine renders_pickMany (fun low high hcount => ?_) set allowDuplicates
            fun candidate hcandidate => ih candidate hcandidate b
          subst hcount
          exact own
      | .randomValue pool poolVariable dataType format =>
          exact renders_randomValue pool poolVariable dataType format
      | .weightedPick _ => exact renders_weightedPick fun option hoption => ih option hoption b
      | .shuffle id count set _ => exact renders_shuffle id count set ih
      | .unknown tag fields => exact renders_unknown tag fields

end Trees

/-! ## References -/

/-- All sections that can be found are sections of documents. -/
def Resolver.ReadsSections (resolver : Resolver) : Prop :=
  ∀ id found, resolver.findSection id = .ok (some found) →
    ∃ v, Content.read v = .ok found.body.content

section References

variable {world : World} {stack : List String} {b : Bindings}

/-- A section is entered and left again. -/
theorem returns_enter {m : Run String} {P : String → Prop} (h : Returns world.Bounded m P)
    (id key : String) :
    Returns world.Bounded (do Run.useSection id; Run.within key m) P :=
  fun s hs => h
    { s with sectionsUsed := s.sectionsUsed.insert id, moves := s.moves ++ [.enter key] } hs

/-- A reference is rendered to what it denotes, if it is wherever its section is new. -/
theorem returns_expand {room : Nat} {id : String}
    (h : ∀ found, world.resolver.findSection id = .ok (some found) →
      found.identity.scopedId ∉ stack →
      Returns world.Bounded (world.expand room stack id b)
        (Denotes world stack (.sectionRef id) b)) :
    Returns world.Bounded (world.expand room stack id b)
      (Denotes world stack (.sectionRef id) b) := by
  rcases hfound : world.resolver.findSection id with failure | (_ | found)
  · rw [expand_of_error world stack b hfound]
    exact Returns.failure failure _
  · rw [expand_of_none world stack b hfound]
    exact (returns_nothing _).imp fun _ htext => htext ▸ .noSection hfound
  · by_cases hkey : found.identity.scopedId ∈ stack
    · rw [expand_of_mem world b hfound hkey]
      exact (returns_nothing _).imp fun _ htext => htext ▸ .cut hfound (.inl hkey)
    · exact h found hfound hkey

/-- **References are rendered to what they denote**, by induction on the number of sections
that may still be entered. -/
theorem expand_denotes (hsections : world.resolver.ReadsSections) (room : Nat) :
    ∀ {stack : List String}, world.room stack = room → ∀ id b,
      Returns world.Bounded (world.expand room stack id b)
        (Denotes world stack (.sectionRef id) b) := by
  induction room with
  | zero =>
      intro stack hroom id b
      refine returns_expand fun found hfound hkey => ?_
      have hfull : world.depthLimit ≤ stack.length := by
        unfold World.room at hroom
        omega
      rw [expand_zero world b hfound hkey]
      exact (returns_nothing _).imp fun _ htext => htext ▸ .cut hfound (.inr hfull)
  | succ room ih =>
      intro stack hroom id b
      refine returns_expand fun found hfound hkey => ?_
      obtain ⟨hlimit, hinside⟩ := room_eq_succ world hroom
      obtain ⟨v, hread⟩ := hsections id found hfound
      have hcontent := renders_of_expand (ih (hinside found.identity.scopedId))
        (Content.everywhere_legible_of_read hread) b
      rw [expand_succ world b hfound hkey]
      exact (returns_enter hcontent id _).imp fun _ htext => .section hfound hkey hlimit htext

end References

/-- **Renderings refine the meaning of trees.**  For every tree that was read, in a world
whose sections were, for all values and every state from which all draws are from zero to
one: if the tree is rendered to a text, the text is one that the tree denotes. -/
theorem renderTree_denotes (world : World) (hsections : world.resolver.ReadsSections)
    (stack : List String) {v : Value} {content : Content} (hread : Content.read v = .ok content)
    (b : Bindings) {s : RunState} (hdraws : world.Bounded s) {text : String}
    (hrun : (world.renderTree stack content b s).1 = .ok text) :
    Denotes world stack content b text := by
  have hrenders := renders_of_expand (expand_denotes hsections (world.room stack) rfl)
    (Content.everywhere_legible_of_read hread) b
  exact (hrenders s hdraws).2 text hrun

/-- Flowers of which only one has a weight above zero. -/
def flower : Content :=
  .weightedPick [(0, .text "rose"), (1.5, .text "lily"), (-1, .text "iris")]

/-- The section of flowers. -/
def flowerSection : Resolver where
  findSection
    | "flower" => .ok (some ⟨{ id := "flower" }, { content := flower }⟩)
    | _ => .ok none
  findSeparatorSet _ := .ok none
  findDataType _ := .ok none

theorem flowerSection_readsSections : flowerSection.ReadsSections := by
  intro id found hfound
  refine ⟨flower.dump, ?_⟩
  simp only [flowerSection] at hfound
  split at hfound
  · cases hfound
    rfl
  · cases hfound

/-- One of two words, and a flower. -/
def bouquet : Content :=
  .composite [.pickOne [.text "a ", .text "one "] none, .sectionRef "flower"]

/-- With draws that are all one, the last word is picked and the only flower that has a weight
above zero, and the bouquet denotes their text. -/
theorem renderTree_denotes_bouquet :
    let world : World := { resolver := flowerSection }
    let start : RunState := { generator := .sequence (fun _ => 1) 0 }
    flowerSection.ReadsSections ∧ Content.read bouquet.dump = .ok bouquet ∧
      world.Bounded start ∧ (world.renderTree [] bouquet {} start).1 = .ok "one lily" ∧
      Denotes world [] bouquet {} "one lily" := by
  intro world start
  have hread : Content.read bouquet.dump = .ok bouquet := rfl
  have hdraws : world.Bounded start := Random.Generator.bounded_sequence (fun _ => by decide) 0
  have hrun : (world.renderTree [] bouquet {} start).1 = .ok "one lily" := rfl
  exact ⟨flowerSection_readsSections, hread, hdraws, hrun,
    renderTree_denotes world flowerSection_readsSections [] hread {} hdraws hrun⟩

end PromptTree
