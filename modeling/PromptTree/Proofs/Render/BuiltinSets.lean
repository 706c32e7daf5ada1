import PromptTree.Proofs.Engine.Accounting
import PromptTree.Proofs.Render.Induction

/-!
# Built-in separator sets

The built-in separator sets are looked up before the stored ones, so no stored set can take
their place.  This module says what that means for renderings: where only built-in sets are
named, **the stored sets have no influence at all** — they may be any, and their lookups may
fail (`renderTree_builtinSets`, `Engine.render_withResolver`).

Three kinds of nodes join items.  A list names its set; the two selections may leave it to the
default one, by no name or an empty one.  So the default has to be a built-in set, too.

## Main Definitions

* `Content.separatorSets` — the sets that a node names.
* `Content.NamesBuiltinSets`, `Resolver.NamesBuiltinSets` — all of them are built in.
* `Resolver.DiffersInSets` — the same sections and data types, and any separator sets.
* `sameRuns` — runs that are the same.
-/

namespace PromptTree

/-! ## Names of sets -/

/-- The separator sets that a node names; an empty name leaves the choice to the default. -/
def Content.separatorSets : Content → List String
  | .list _ set _ => [set]
  | .pickMany _ _ set _ => (set.filter (!·.isEmpty)).toList
  | .shuffle _ _ set _ => (set.filter (!·.isEmpty)).toList
  | _ => []

/-- Every separator set that is named in the tree is built in. -/
def Content.NamesBuiltinSets (content : Content) : Prop :=
  content.Everywhere fun node => ∀ name ∈ node.separatorSets, name ∈ Separator.builtinNames

/-- A node with no nodes below it. -/
theorem Content.namesBuiltinSets_of_leaf {content : Content} (hchildren : content.children = [])
    (hsets : ∀ name ∈ content.separatorSets, name ∈ Separator.builtinNames) :
    content.NamesBuiltinSets := by
  refine .node hsets fun child hchild => ?_
  rw [hchildren] at hchild
  exact absurd hchild List.not_mem_nil

/-- Every separator set that is named in a section that can be found is built in. -/
def Resolver.NamesBuiltinSets (resolver : Resolver) : Prop :=
  ∀ id found, resolver.findSection id = .ok (some found) → found.body.content.NamesBuiltinSets

/-- Lookups that find the same sections and data types, and any separator sets. -/
structure Resolver.DiffersInSets (resolver resolver' : Resolver) : Prop where
  sections : resolver'.findSection = resolver.findSection
  dataTypes : resolver'.findDataType = resolver.findDataType

/-- The world with other lookups. -/
def World.withResolver (world : World) (resolver : Resolver) : World :=
  { world with resolver := resolver }

@[simp]
theorem World.separatorSet_withResolver (world : World) (resolver : Resolver) :
    (world.withResolver resolver).separatorSet = world.separatorSet := rfl

/-- The rules of a built-in set are found, whatever is stored. -/
theorem Resolver.exists_findRules_of_builtin {name : String} (h : name ∈ Separator.builtinNames) :
    ∃ rules, ∀ resolver : Resolver, resolver.findRules name = .ok (some rules) := by
  obtain ⟨entry, hentry, rfl⟩ := List.mem_map.mp h
  -- That the rules are those of the entry plays no part: a name only has to be found.
  have hfound : (Separator.builtin? entry.1).isSome := by
    revert entry
    decide
  obtain ⟨rules, hrules⟩ := Option.isSome_iff_exists.mp hfound
  refine ⟨rules, fun resolver => ?_⟩
  simp only [Resolver.findRules, hrules]

/-! ## Runs that are the same -/

/-- Runs that are the same: from every state the same result and the same state. -/
def sameRuns : RunRelation where
  Rel m m' := m' = m
  returns _ := rfl
  fails _ := rfl
  warns _ _ := rfl
  bind := by
    rintro α β m _ f f' rfl hf
    rw [funext hf]

theorem sameRuns_scope : sameRuns.Scope fun b b' => b = b' :=
  RunRelation.scope_eq _ fun _ _ => rfl

theorem sameRuns_enters : sameRuns.Enters where
  warn _ := rfl
  use _ := rfl
  within key _ _ h := congrArg (Run.within key) h

section Worlds

variable {world : World} {resolver : Resolver}

/-- The rules of a built-in set are the same under other lookups. -/
theorem findRules_withResolver {name : String} (h : name ∈ Separator.builtinNames) :
    (world.withResolver resolver).findRules name = world.findRules name := by
  obtain ⟨rules, hrules⟩ := Resolver.exists_findRules_of_builtin h
  unfold World.findRules
  rw [hrules, hrules]

/-- Items are joined alike by the rules of a built-in set, be it named or the default one. -/
theorem joinNamed_withResolver (hdefault : world.separatorSet ∈ Separator.builtinNames)
    {set : Option String}
    (hset : ∀ name ∈ (set.filter (!·.isEmpty)).toList, name ∈ Separator.builtinNames)
    (texts : List String) :
    (world.withResolver resolver).joinNamed set texts = world.joinNamed set texts := by
  -- Without a name, or with an empty one, the default set takes its place.
  have hname : (set.filter (!·.isEmpty)).getD world.separatorSet ∈ Separator.builtinNames := by
    cases hfilter : set.filter (!·.isEmpty) with
    | none => exact hdefault
    | some name => exact hset name (by rw [hfilter]; exact List.mem_singleton_self name)
  simp only [World.joinNamed, World.separatorSet_withResolver, findRules_withResolver hname]

variable (hdefault : world.separatorSet ∈ Separator.builtinNames)
  (hdiffers : world.resolver.DiffersInSets resolver)
include hdefault hdiffers

/-- What a node does by itself is the same under other lookups, if it names built-in sets. -/
theorem sameRuns_matches {node : Content}
    (hnode : ∀ name ∈ node.separatorSets, name ∈ Separator.builtinNames) (b : Bindings) :
    sameRuns.Matches world (world.withResolver resolver) b b node := by
  cases node with
  | list _ set _ => exact findRules_withResolver (hnode set (List.mem_singleton_self set))
  | context _ _ => exact fun _ => rfl
  | pickOne _ _ | weightedPick _ | unknown _ _ => exact rfl
  | pickMany _ _ set _ => exact ⟨rfl, joinNamed_withResolver hdefault hnode⟩
  | shuffle _ _ set _ => exact ⟨fun _ => rfl, joinNamed_withResolver hdefault hnode⟩
  | randomValue _ _ _ _ =>
      refine ⟨fun id _ => ?_, fun _ => rfl⟩
      show (liftM (resolver.findDataType id) : Run (Option DataType)) = world.findDataType id
      rw [hdiffers.dataTypes]
      rfl
  | _ => trivial

theorem Content.NamesBuiltinSets.matchesTree {content : Content} (h : content.NamesBuiltinSets) :
    sameRuns.MatchesTree (fun b b' => b = b') world (world.withResolver resolver) content := by
  refine h.imp fun node hnode b b' heq => ?_
  subst heq
  exact sameRuns_matches hdefault hdiffers hnode b

variable (hsections : world.resolver.NamesBuiltinSets)
include hsections

/-- Where only built-in sets are named, a tree is rendered the same under other lookups. -/
theorem renderTree_sameRuns {content : Content} (h : content.NamesBuiltinSets)
    (stack : List String) (b : Bindings) :
    (world.withResolver resolver).renderTree stack content b =
      world.renderTree stack content b := by
  have hlimit : (world.withResolver resolver).depthLimit = world.depthLimit := rfl
  have hsame : sameRuns.Rel (world.renderTree stack content b)
      ((world.withResolver resolver).renderTree stack content b) := by
    refine renderTree_rel sameRuns_scope sameRuns_enters hdiffers.sections hlimit ?_
      (h.matchesTree hdefault hdiffers) stack rfl
    intro id found hfound
    exact (hsections id found hfound).matchesTree hdefault hdiffers
  exact hsame

end Worlds

/-- **Stored sets have no influence where only built-in ones are named**: in the tree, in all
sections that can be found, and as the default.  Under lookups that find the same sections and
data types, whatever sets they find or fail to find, a tree comes from every state to the same
text or failure, the same record and the same state of the generator. -/
theorem renderTree_builtinSets (world : World) (resolver : Resolver)
    (hdiffers : world.resolver.DiffersInSets resolver)
    (hdefault : world.separatorSet ∈ Separator.builtinNames)
    (hsections : world.resolver.NamesBuiltinSets) (content : Content)
    (htree : content.NamesBuiltinSets) (stack : List String) (b : Bindings) (s : RunState) :
    (world.withResolver resolver).renderTree stack content b s =
      world.renderTree stack content b s := by
  rw [renderTree_sameRuns hdefault hdiffers hsections htree stack b]

/-- The section `guests` lists the guests, and no other section is found.  The set of every
name runs the items together. -/
def guestSection : Resolver where
  findSection
    | "guests" => .ok (some ⟨{ id := "guests" }, { content := .list "guests" "or-list" none }⟩)
    | _ => .ok none
  findSeparatorSet name := .ok (some ⟨{ id := name }, Separator.between "" "" ""⟩)
  findDataType _ := .ok none

theorem guestSection_namesBuiltinSets : guestSection.NamesBuiltinSets := by
  intro id found hfound
  simp only [guestSection] at hfound
  split at hfound
  · cases hfound
    exact Content.namesBuiltinSets_of_leaf rfl (by decide)
  · cases hfound

/-- Guests listed, drawn and shuffled: they are joined by the built-in sets, be the set of every
name another one or the lookup of a set a failure. -/
theorem renderTree_builtinSets_guests :
    let resolver : Resolver :=
      { guestSection with findSeparatorSet := fun name => .error (.lookup name) }
    let world : World := { resolver := guestSection, source := .make (some 7) false }
    let b : Bindings := { vars := [("guests", .list [.str "Ada", .str "Bo"])] }
    let start : RunState := { generator := .seeded 7 }
    let content : Content := .composite
      [.sectionRef "guests", .text "; ",
       .pickMany [.text "tea", .text "milk"] (.exactly 2) none false, .text "; ",
       .shuffle "guests" none (some "") none]
    world.resolver.DiffersInSets resolver ∧ world.separatorSet ∈ Separator.builtinNames ∧
      world.resolver.NamesBuiltinSets ∧ content.NamesBuiltinSets ∧
      (world.renderTree [] content b start).1 = .ok "Ada or Bo; milk and tea; Bo and Ada" ∧
      (world.withResolver resolver).renderTree [] content b start =
        world.renderTree [] content b start := by
  intro resolver world b start content
  have hdiffers : world.resolver.DiffersInSets resolver := ⟨rfl, rfl⟩
  have hdefault : world.separatorSet ∈ Separator.builtinNames := by decide
  have htexts : ∀ value, (Content.text value).NamesBuiltinSets :=
    fun _ => Content.namesBuiltinSets_of_leaf rfl (List.forall_mem_nil _)
  have hpick : (Content.pickMany [.text "tea", .text "milk"] (.exactly 2) none
      false).NamesBuiltinSets := by
    refine .node (List.forall_mem_nil _) ?_
    simp only [Content.children, List.forall_mem_cons]
    exact ⟨htexts _, htexts _, List.forall_mem_nil _⟩
  have htree : content.NamesBuiltinSets := by
    refine .node (List.forall_mem_nil _) ?_
    simp only [content, Content.children, List.forall_mem_cons]
    exact ⟨Content.namesBuiltinSets_of_leaf rfl (List.forall_mem_nil _), htexts _, hpick,
      htexts _, Content.namesBuiltinSets_of_leaf rfl (by decide), List.forall_mem_nil _⟩
  have htext : (world.renderTree [] content b start).1 =
      .ok "Ada or Bo; milk and tea; Bo and Ada" := by
    decide +kernel
  exact ⟨hdiffers, hdefault, guestSection_namesBuiltinSets, htree, htext,
    renderTree_builtinSets world resolver hdiffers hdefault guestSection_namesBuiltinSets content
      htree [] b start⟩

/-! ## Requests -/

namespace Engine

/-- The engine with other lookups. -/
def withResolver (engine : Engine) (resolver : Resolver) : Engine :=
  { engine with resolver := resolver }

section Requests

variable {engine : Engine} {resolver : Resolver}
  (hdiffers : engine.resolver.DiffersInSets resolver)
  (hdefault : engine.settings.defaultSeparatorSet ∈ Separator.builtinNames)
  (hsections : engine.resolver.NamesBuiltinSets)
include hdiffers hdefault hsections

theorem renderOutput_withResolver (request : Request) {entry : Section}
    (hentry : entry.body.content.NamesBuiltinSets) (index : Nat) :
    (engine.withResolver resolver).renderOutput request entry index =
      engine.renderOutput request entry index := by
  let world := engine.world (.forOutput request.seed index request.reseeds)
  have htree : (world.withResolver resolver).renderTree [entry.identity.scopedId]
      entry.body.content request.bindings =
        world.renderTree [entry.identity.scopedId] entry.body.content request.bindings :=
    renderTree_sameRuns hdefault hdiffers hsections hentry _ _
  exact congrFun htree _

/-- **A request is answered the same, whatever sets are stored**, if only built-in ones are named
in the sections that can be found and as the default. -/
theorem render_withResolver (request : Request) :
    (engine.withResolver resolver).render request = engine.render request := by
  refine render_congr rfl hdiffers.sections fun entry hfound k => ?_
  exact renderOutput_withResolver hdiffers hdefault hsections request
    (hsections request.templateId entry hfound) k

end Requests

end Engine

end PromptTree
