import PromptTree.Proofs.Content.Rewriting
import PromptTree.Proofs.Render.Nodes

/-!
# Induction over renderings

A tree that is rendered in two runs is rendered alike if every node of it does alike what
it does by itself (`render_rel`); and a tree inside the sections being expanded, if every
node of it and of every section that can be found does (`renderTree_rel`).

`RunRelation.Matches` is the condition on a node.  It names what a node asks of its world:
rules, data types and draws.  What it reads of its bindings is not part of it, but of the
relation between the bindings, a `RunRelation.Scope`: the bindings of an item are those of
its list with more variables, and must be related again.

The two theorems follow the two recursions of a rendering.  The first is by induction on
the tree, one case for each kind of node; the second by induction on the number of sections
that may still be entered, and the first is its step.
-/

namespace PromptTree

namespace RunRelation

variable (r : RunRelation)

/-- A relation of bindings that are read alike, which the bindings of items keep. -/
structure Scope (Binds : Bindings → Bindings → Prop) : Prop where
  reads : ∀ {b b' : Bindings}, Binds b b' → r.Reads b b'
  extend : ∀ {b b' : Bindings} (more : Entries),
    Binds b b' → Binds (b.withVariables more) (b'.withVariables more)

/-- The relation of bindings that are the same, if variables are read alike. -/
theorem scope_eq
    (h : ∀ b id, r.Rel (Run.readVariable b id) (Run.readVariable b id)) :
    r.Scope fun b b' => b = b' where
  reads := by
    rintro b _ rfl
    exact ⟨h b, rfl, rfl⟩
  extend := by
    rintro more b _ rfl
    rfl

/-- What a node does by itself, apart from reading variables and rendering its parts, it
does alike in two worlds. -/
def Matches (w w' : World) (b b' : Bindings) : Content → Prop
  | .list _ set _ => r.Rel (w.findRules set) (w'.findRules set)
  | .context key _ => namesAllVariables key = true → b.vars = b'.vars
  | .pickOne candidates weights =>
    r.Rel (w.take (pickPosition candidates.length weights))
      (w'.take (pickPosition candidates.length weights))
  | .pickMany candidates count set duplicates =>
    r.Rel (w.take (pickPositions candidates.length count duplicates))
      (w'.take (pickPositions candidates.length count duplicates)) ∧
    ∀ texts, r.Rel (w.joinNamed set texts) (w'.joinNamed set texts)
  | .randomValue _ _ dataType _ =>
    (∀ id, dataType = some id → r.Rel (w.findDataType id) (w'.findDataType id)) ∧
    ∀ size, r.Rel (w.take (Random.uniformPosition size)) (w'.take (Random.uniformPosition size))
  | .weightedPick options =>
    r.Rel (w.take (Random.weightedIndex (options.map Prod.fst)))
      (w'.take (Random.weightedIndex (options.map Prod.fst)))
  | .shuffle _ _ set _ =>
    (∀ items : List Value, r.Rel (w.take (Random.shuffle items)) (w'.take (Random.shuffle items))) ∧
    ∀ texts, r.Rel (w.joinNamed set texts) (w'.joinNamed set texts)
  | .unknown tag _ =>
    r.Rel (Run.warn (.unknownNode (tag.getD "None"))) (Run.warn (.unknownNode (tag.getD "None")))
  | _ => True

/-- A node matches itself in two worlds under any relation that lookups, draws and nodes of
no known kind keep to, unless it reads all variables as one value and they differ. -/
theorem matches_of {w w' : World} {b b' : Bindings}
    (hrules : ∀ name, r.Rel (w.findRules name) (w'.findRules name))
    (htypes : ∀ id, r.Rel (w.findDataType id) (w'.findDataType id))
    (hset : w.separatorSet = w'.separatorSet)
    (htake : ∀ {α : Type} (draws : Random.Draw α), r.Rel (w.take draws) (w'.take draws))
    {node : Content}
    (hunknown : ∀ tag fields, node = .unknown tag fields →
      r.Rel (Run.warn (.unknownNode (tag.getD "None"))) (Run.warn (.unknownNode (tag.getD "None"))))
    (hall : node.readsAllVariables = true → b.vars = b'.vars) :
    r.Matches w w' b b' node := by
  match node with
  | .list _ set _ => exact hrules set
  | .context _ _ => exact hall
  | .pickOne _ _ | .weightedPick _ => exact htake _
  | .pickMany _ _ _ _ => exact ⟨htake _, fun texts => joinNamed_rel texts hset hrules⟩
  | .randomValue _ _ _ _ => exact ⟨fun id _ => htypes id, fun size => htake _⟩
  | .shuffle _ _ _ _ => exact ⟨fun items => htake _, fun texts => joinNamed_rel texts hset hrules⟩
  | .unknown tag fields => exact hunknown tag fields rfl
  | .text _ | .variable _ _ _ | .sectionRef _ | .composite _ | .conditional _ _ _
  | .plural _ _ | .article _ _ _ _ | .countSwitch _ _ _ | .switch _ _ _ => trivial

/-- In one world lookups find the same. -/
theorem matches_self {w : World} {b b' : Bindings}
    (htake : ∀ {α : Type} (draws : Random.Draw α), r.Rel (w.take draws) (w.take draws))
    {node : Content}
    (hunknown : ∀ tag fields, node = .unknown tag fields →
      r.Rel (Run.warn (.unknownNode (tag.getD "None"))) (Run.warn (.unknownNode (tag.getD "None"))))
    (hall : node.readsAllVariables = true → b.vars = b'.vars) :
    r.Matches w w b b' node :=
  r.matches_of (fun _ => r.lift _) (fun _ => r.lift _) rfl htake hunknown hall

end RunRelation

section Trees

variable {r : RunRelation} {Binds : Bindings → Bindings → Prop} {w w' : World} {e e' : Expander}

/-- A part that may be missing, and what stands in its place. -/
private theorem optionRel_of_forall₂ {R : Content → Content → Prop} {part : Option Content}
    {parts : List Content} (h : List.Forall₂ R part.toList parts) :
    Option.Rel R part parts.head? := by
  cases part with
  | none =>
      obtain rfl := List.forall₂_nil_left_iff.mp h
      exact .none
  | some child =>
      obtain ⟨child', _, hchild, -, rfl⟩ := List.forall₂_cons_left_iff.mp h
      exact .some hchild

/-- Cases and what comes after them, and what stands in their places. -/
private theorem forall₂_cases {α : Type} {R : Content → Content → Prop}
    {cases : List (α × Content)} {part : Option Content} {parts : List Content}
    (h : List.Forall₂ R (cases.map Prod.snd ++ part.toList) parts) :
    List.Forall₂ (fun p p' => p.1 = p'.1 ∧ R p.2 p'.2) cases ((cases.map Prod.fst).zip parts) ∧
      Option.Rel R part parts[cases.length]? := by
  induction cases generalizing parts with
  | nil =>
      rw [List.length_nil, ← List.head?_eq_getElem?]
      exact ⟨.nil, optionRel_of_forall₂ h⟩
  | cons first rest ih =>
      obtain ⟨child', parts, hchild, hrest, rfl⟩ := List.forall₂_cons_left_iff.mp h
      obtain ⟨hcases, hpart⟩ := ih hrest
      exact ⟨.cons ⟨rfl, hchild⟩ hcases, by simpa using hpart⟩

/-- **A rewritten tree is rendered alike** if what is put in the place of a node is, if the
references that are kept are, and if every node that is kept matches itself under all
related bindings. -/
theorem render_rewritten {Step : Content → Content → Prop} {Keep : Content → Prop}
    (hscope : r.Scope Binds)
    (hstep : ∀ node node', Step node node' →
      ∀ b b', Binds b b' → r.Alike w w' e e' b b' node node')
    (hrefs : ∀ id, Keep (.sectionRef id) → ∀ b b', Binds b b' → r.Rel (e id b) (e' id b'))
    (hown : ∀ node, Keep node → ∀ b b', Binds b b' → r.Matches w w' b b' node)
    {content content' : Content} (tree : content.Rewritten Step Keep content') :
    ∀ b b', Binds b b' → r.Alike w w' e e' b b' content content' := by
  induction tree with
  | step h => exact hstep _ _ h
  | @keep content own parts hlength _ ih =>
      -- The claim for the parts is for all related bindings: items have bindings of their own.
      intro b b' hb
      have hreads := hscope.reads hb
      have hown := hown content own b b' hb
      have hall : List.Forall₂ (fun child child' =>
          ∀ b b', Binds b b' → r.Alike w w' e e' b b' child child') content.children parts :=
        List.forall₂_iff_zip.mpr ⟨hlength, fun hmem => ih _ hmem⟩
      have hparts : List.Forall₂ (r.Alike w w' e e' b b') content.children parts :=
        hall.imp fun _ _ h => h b b' hb
      have htemplates : ∀ {part : Option Content}, part.toList = content.children →
          r.TemplatesAlike w w' e e' b b' part parts.head? := by
        intro part hpart
        rw [← hpart] at hall
        exact optionRel_of_forall₂ (hall.imp fun _ _ h index item =>
          h _ _ (hscope.extend _ hb))
      match content with
      | .text value => exact render_text_rel value
      | .variable id path format => exact render_variable_rel hreads id path format
      | .sectionRef id => exact render_sectionRef_rel (hrefs id own b b' hb)
      | .composite _ => exact render_composite_rel hparts
      | .conditional condition _ _ =>
          obtain ⟨yes', parts, hyes, hno, rfl⟩ := List.forall₂_cons_left_iff.mp hparts
          have hno' := optionRel_of_forall₂ hno
          rw [List.head?_eq_getElem?] at hno'
          exact render_conditional_rel hreads condition hyes hno'
      | .list id _ _ => exact render_list_rel hreads id hown (htemplates rfl)
      | .context _ _ =>
          exact render_context_rel (contextValue_rel hreads hown) (optionRel_of_forall₂ hparts)
      | .plural id forms => exact render_plural_rel hreads id forms
      | .article id _ style capitalize =>
          exact render_article_rel hreads id style capitalize (optionRel_of_forall₂ hparts)
      | .countSwitch id _ _ =>
          exact render_countSwitch_rel hreads id (forall₂_cases hparts).1 (forall₂_cases hparts).2
      | .switch id _ _ =>
          exact render_switch_rel hreads id (forall₂_cases hparts).1 (forall₂_cases hparts).2
      | .pickOne _ _ => exact render_pickOne_rel hown hparts
      | .pickMany _ _ _ _ => exact render_pickMany_rel hown.1 hown.2 hparts
      | .randomValue pool poolVariable _ format =>
          exact render_randomValue_rel (drawPool_rel hreads pool poolVariable format hown.1) hown.2
      | .weightedPick options =>
          have hoptions : List.Forall₂ (r.Alike w w' e e' b b')
              (options.map Prod.snd ++ (none : Option Content).toList) parts := by
            rw [Option.toList_none, List.append_nil]
            exact hparts
          exact render_weightedPick_rel hown (forall₂_cases hoptions).1
      | .shuffle id count _ _ =>
          exact render_shuffle_rel hreads id count hown.1 hown.2 (htemplates rfl)
      | .unknown _ fields => exact render_unknown_rel fields fields hown

/-- **A tree is rendered alike** if references are, and if every node of it matches itself
under all related bindings. -/
theorem render_rel (hscope : r.Scope Binds)
    (hexpand : ∀ id b b', Binds b b' → r.Rel (e id b) (e' id b')) {content : Content}
    (tree : content.Everywhere fun node => ∀ b b', Binds b b' → r.Matches w w' b b' node) :
    ∀ b b', Binds b b' → r.Rel (render w e content b) (render w' e' content b') := by
  have hself : content.Rewritten (fun _ _ => False) _ content := tree.rewritten
  exact render_rewritten hscope (fun _ _ h => h.elim) (fun id _ => hexpand id) (fun _ h => h) hself

/-- **The same tree is rendered alike in two worlds that find the same**, under the same
bindings, if the relation keeps to reading variables, to draws and to the issues at nodes of
no known kind, and if the references that occur in the tree are rendered alike. -/
theorem render_rel_of_refers
    (hread : ∀ b id, r.Rel (Run.readVariable b id) (Run.readVariable b id))
    (hresolver : w'.resolver = w.resolver) (hset : w'.separatorSet = w.separatorSet)
    (htake : ∀ {α : Type} (draws : Random.Draw α), r.Rel (w.take draws) (w'.take draws))
    {content : Content}
    (hexpand : ∀ id, .sectionRef id ∈ content.nodes → ∀ b, r.Rel (e id b) (e' id b))
    (tree : content.Everywhere fun node => ∀ tag fields, node = .unknown tag fields →
      r.Rel (Run.warn (.unknownNode (tag.getD "None"))) (Run.warn (.unknownNode (tag.getD "None"))))
    (b : Bindings) :
    r.Rel (render w e content b) (render w' e' content b) := by
  have hmatches : content.Everywhere fun node => ∀ b b', b = b' → r.Matches w w' b b' node := by
    refine tree.imp fun node hunknown b b' heq => ?_
    refine RunRelation.matches_of _ (fun name => ?_) (fun id => ?_) hset.symm htake hunknown
      fun _ => heq ▸ rfl
    · simp only [World.findRules, hresolver]
      exact r.lift _
    · simp only [World.findDataType, hresolver]
      exact r.lift _
  have hnodes : content.Everywhere (· ∈ content.nodes) :=
    Content.everywhere_of_forall_mem_nodes fun _ h => h
  have hself : content.Rewritten (fun _ _ => False) _ content := (hnodes.and hmatches).rewritten
  exact render_rewritten (r.scope_eq hread) (fun _ _ h => h.elim)
    (fun id hkept b b' heq => heq ▸ hexpand id hkept.1 b) (fun _ hkept => hkept.2) hself b b rfl

/-- The same tree is rendered alike in two worlds that find the same, if all references
are. -/
theorem render_rel_self
    (hread : ∀ b id, r.Rel (Run.readVariable b id) (Run.readVariable b id))
    (hresolver : w'.resolver = w.resolver) (hset : w'.separatorSet = w.separatorSet)
    (htake : ∀ {α : Type} (draws : Random.Draw α), r.Rel (w.take draws) (w'.take draws))
    (hexpand : ∀ id b, r.Rel (e id b) (e' id b)) {content : Content}
    (tree : content.Everywhere fun node => ∀ tag fields, node = .unknown tag fields →
      r.Rel (Run.warn (.unknownNode (tag.getD "None"))) (Run.warn (.unknownNode (tag.getD "None"))))
    (b : Bindings) :
    r.Rel (render w e content b) (render w' e' content b) :=
  render_rel_of_refers hread hresolver hset htake (fun id _ => hexpand id) tree b

/-! ## References -/

section References

variable (world : World) {id : String} (stack : List String) (b : Bindings)

/-- References are rendered by one rule, with or without a way to go deeper. -/
private theorem expand_of_expandWith {m : Run String} (room : Nat)
    (h : ∀ deeper, world.expandWith deeper stack id b = m) : world.expand room stack id b = m := by
  cases room with
  | zero => exact h _
  | succ room => exact h _

theorem expand_of_error {failure : Failure}
    (h : world.resolver.findSection id = .error failure) (room : Nat) :
    world.expand room stack id b = throw failure := by
  refine expand_of_expandWith world stack b room fun deeper => ?_
  unfold World.expandWith World.findSection
  rw [h, Run.liftM_error_bind]

theorem expand_of_none (h : world.resolver.findSection id = .ok none) (room : Nat) :
    world.expand room stack id b = do
      Run.warn (.sectionNotFound id)
      return "" := by
  refine expand_of_expandWith world stack b room fun deeper => ?_
  unfold World.expandWith World.findSection
  rw [h, Run.liftM_ok_bind]

variable {found : Section} (hfound : world.resolver.findSection id = .ok (some found))
include hfound

/-- A section that is being expanded is not entered again. -/
theorem expand_of_mem {stack : List String} (hkey : found.identity.scopedId ∈ stack) (room : Nat) :
    world.expand room stack id b = do
      Run.warn (.cycle stack found.identity.scopedId)
      return "" := by
  refine expand_of_expandWith world stack b room fun deeper => ?_
  unfold World.expandWith World.findSection
  rw [hfound, Run.liftM_ok_bind]
  simp only [List.contains_iff_mem.mpr hkey, if_true]

variable {stack : List String} (hkey : found.identity.scopedId ∉ stack)
include hkey

/-- Without room no section is entered. -/
theorem expand_zero :
    world.expand 0 stack id b = do
      Run.warn (.tooDeep world.depthLimit id)
      return "" := by
  unfold World.expand World.expandWith World.findSection
  rw [hfound, Run.liftM_ok_bind]
  simp only [List.contains_iff_mem, hkey, if_false]

/-- A section that is entered is rendered with room for one less. -/
theorem expand_succ (room : Nat) :
    world.expand (room + 1) stack id b = (do
      Run.useSection id
      Run.within found.identity.scopedId
        (render world (world.expand room (stack ++ [found.identity.scopedId]))
          found.body.content b)) := by
  rw [World.expand]
  unfold World.expandWith World.findSection
  rw [hfound, Run.liftM_ok_bind]
  simp only [List.contains_iff_mem, hkey, if_false]

end References

/-- A relation that also relates what references do: they record any issue, the use of a
section, and run inside it. -/
structure RunRelation.Enters (r : RunRelation) : Prop where
  warn : ∀ issue, r.Rel (Run.warn issue) (Run.warn issue)
  use : ∀ id, r.Rel (Run.useSection id) (Run.useSection id)
  within : ∀ (key : String) {m m' : Run String},
    r.Rel m m' → r.Rel (Run.within key m) (Run.within key m')

/-- Trees all of whose nodes match themselves in two worlds, under all related bindings. -/
def RunRelation.MatchesTree (r : RunRelation) (Binds : Bindings → Bindings → Prop)
    (w w' : World) (content : Content) : Prop :=
  content.Everywhere fun node => ∀ b b', Binds b b' → r.Matches w w' b b' node

/-- One reference is rendered alike, if what is deeper is. -/
theorem expandWith_rel (hscope : r.Scope Binds) (henters : r.Enters)
    (hfind : w'.resolver.findSection = w.resolver.findSection)
    (hlimit : w'.depthLimit = w.depthLimit)
    (hsections : ∀ id found, w.resolver.findSection id = .ok (some found) →
      r.MatchesTree Binds w w' found.body.content)
    {deeper deeper' : Option (List String → Expander)}
    (hdeeper : Option.Rel
      (fun inner inner' =>
        ∀ stack id b b', Binds b b' → r.Rel (inner stack id b) (inner' stack id b'))
      deeper deeper')
    (stack : List String) (id : String) {b b' : Bindings} (hb : Binds b b') :
    r.Rel (w.expandWith deeper stack id b) (w'.expandWith deeper' stack id b') := by
  unfold World.expandWith World.findSection
  rw [hfind, hlimit]
  refine r.lift_bind fun found hfound => ?_
  cases found with
  | none => exact r.bind (henters.warn _) fun _ => r.returns ""
  | some found =>
      simp only
      split
      · exact r.bind (henters.warn _) fun _ => r.returns ""
      · cases hdeeper with
        | none => exact r.bind (henters.warn _) fun _ => r.returns ""
        | some hinner =>
            refine r.bind (henters.use id) fun _ => henters.within _ ?_
            exact render_rel hscope (hinner _) (hsections id found hfound) b b' hb

/-- **References are rendered alike**, by induction on the number of sections that may
still be entered. -/
theorem expand_rel (hscope : r.Scope Binds) (henters : r.Enters)
    (hfind : w'.resolver.findSection = w.resolver.findSection)
    (hlimit : w'.depthLimit = w.depthLimit)
    (hsections : ∀ id found, w.resolver.findSection id = .ok (some found) →
      r.MatchesTree Binds w w' found.body.content)
    (room : Nat) :
    ∀ stack id b b', Binds b b' →
      r.Rel (w.expand room stack id b) (w'.expand room stack id b') := by
  induction room with
  | zero =>
      intro stack id b b' hb
      exact expandWith_rel hscope henters hfind hlimit hsections .none stack id hb
  | succ room ih =>
      intro stack id b b' hb
      exact expandWith_rel hscope henters hfind hlimit hsections (.some ih) stack id hb

/-- **A tree is rendered alike inside the sections being expanded**, if it and all sections
that can be found match themselves. -/
theorem renderTree_rel (hscope : r.Scope Binds) (henters : r.Enters)
    (hfind : w'.resolver.findSection = w.resolver.findSection)
    (hlimit : w'.depthLimit = w.depthLimit)
    (hsections : ∀ id found, w.resolver.findSection id = .ok (some found) →
      r.MatchesTree Binds w w' found.body.content)
    {content : Content} (tree : r.MatchesTree Binds w w' content) (stack : List String)
    {b b' : Bindings} (hb : Binds b b') :
    r.Rel (w.renderTree stack content b) (w'.renderTree stack content b') := by
  have hroom : w'.room stack = w.room stack := by
    simp only [World.room, hlimit]
  unfold World.renderTree
  rw [hroom]
  exact render_rel hscope
    (expand_rel hscope henters hfind hlimit hsections (w.room stack) stack) tree b b' hb

end Trees

end PromptTree
