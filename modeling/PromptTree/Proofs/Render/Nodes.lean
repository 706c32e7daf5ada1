import Mathlib.Data.List.Forall2
import Mathlib.Data.Option.Defs
import PromptTree.Proofs.Render.Relation
import PromptTree.Render.Walk

/-!
# Nodes of two runs

What a relation between runs has to know of a node: if it relates the parts of two nodes
of one kind, and the few things that the node does by itself, it relates the nodes.  There
is one theorem for each kind of node, in the order of the kinds, and before them one for
each of the positions in which parts stand: lists, optional parts, cases, templates.

The two nodes may have different parts, so that these theorems serve for a tree that is
compared with a changed one as well as for one tree that is rendered twice.
-/

namespace PromptTree

/-- The key of all variables as one value: the category of variables with no name in it. -/
def namesAllVariables (key : String) : Bool :=
  let (category, rest) := Text.cut '.' key
  category = "variables" && (rest.getD "").isEmpty

/-- The node reads all variables as one value. -/
def Content.readsAllVariables : Content → Bool
  | .context key _ => namesAllVariables key
  | _ => false

/-- Two trees are rendered alike by two runs. -/
def RunRelation.Alike (r : RunRelation) (w w' : World) (e e' : Expander) (b b' : Bindings)
    (c c' : Content) : Prop :=
  r.Rel (render w e c b) (render w' e' c' b')

/-- Two optional templates are rendered alike at every item. -/
def RunRelation.TemplatesAlike (r : RunRelation) (w w' : World) (e e' : Expander)
    (b b' : Bindings) (template template' : Option Content) : Prop :=
  Option.Rel
    (fun c c' => ∀ index item,
      r.Alike w w' e e' (itemBindings b index item) (itemBindings b' index item) c c')
    template template'

/-- Two lists of cases have the same labels, and contents that are rendered alike. -/
def RunRelation.CasesAlike {α : Type} (r : RunRelation) (w w' : World) (e e' : Expander)
    (b b' : Bindings) (cases cases' : List (α × Content)) : Prop :=
  List.Forall₂ (fun p p' => p.1 = p'.1 ∧ r.Alike w w' e e' b b' p.2 p'.2) cases cases'

section Nodes

-- The equations of `render` are generated here once, and not by every lemma that uses them.
attribute [local simp] render

/-- Cases that are rendered alike have the same labels. -/
theorem RunRelation.CasesAlike.labels_eq {α : Type} {r : RunRelation} {w w' : World}
    {e e' : Expander} {b b' : Bindings} {cases cases' : List (α × Content)}
    (h : r.CasesAlike w w' e e' b b' cases cases') :
    cases.map Prod.fst = cases'.map Prod.fst := by
  induction h with
  | nil => rfl
  | cons hpart _ ih => rw [List.map_cons, List.map_cons, hpart.1, ih]

variable {r : RunRelation} {w w' : World} {e e' : Expander} {b b' : Bindings}

/-! ## Positions -/

theorem renderAll_rel {cs cs' : List Content}
    (h : List.Forall₂ (r.Alike w w' e e' b b') cs cs') :
    r.Rel (renderAll w e cs b) (renderAll w' e' cs' b') := by
  induction h with
  | nil => exact r.returns []
  | cons hpart _ ih =>
      simp only [renderAll]
      refine r.bind hpart fun text => ?_
      exact r.map _ ih

theorem renderOptional_rel {part part' : Option Content}
    (h : Option.Rel (r.Alike w w' e e' b b') part part') :
    r.Rel (renderOptional w e part b) (renderOptional w' e' part' b') := by
  cases h with
  | none => exact r.returns ""
  | some hpart =>
      simp only [renderOptional]
      exact hpart

theorem renderAt_rel {cs cs' : List Content}
    (h : List.Forall₂ (r.Alike w w' e e' b b') cs cs') (position : Nat) :
    r.Rel (renderAt w e cs position b) (renderAt w' e' cs' position b') := by
  induction h generalizing position with
  | nil => exact r.returns ""
  | cons hpart _ ih =>
      cases position with
      | zero =>
          simp only [renderAt]
          exact hpart
      | succ position =>
          simp only [renderAt]
          exact ih position

theorem renderOption_rel {options options' : List (Float × Content)}
    (h : r.CasesAlike w w' e e' b b' options options') (position : Nat) :
    r.Rel (renderOption w e options position b) (renderOption w' e' options' position b') := by
  induction h generalizing position with
  | nil => exact r.returns ""
  | cons hpart _ ih =>
      cases position with
      | zero =>
          simp only [renderOption]
          exact hpart.2
      | succ position =>
          simp only [renderOption]
          exact ih position

theorem renderCountCase_rel (count : Number) {cases cases' : List (CaseCount × Content)}
    (h : r.CasesAlike w w' e e' b b' cases cases') :
    r.Rel (renderCountCase w e count cases b) (renderCountCase w' e' count cases' b') := by
  induction h with
  | nil => exact r.returns none
  | @cons p p' _ _ hpart _ ih =>
      obtain ⟨label, content⟩ := p
      obtain ⟨label', content'⟩ := p'
      obtain ⟨rfl, hcontent⟩ := hpart
      simp only [renderCountCase]
      split
      · exact r.map some hcontent
      · exact ih

theorem renderValueCase_rel (v : Value) {cases cases' : List (CaseValue × Content)}
    (h : r.CasesAlike w w' e e' b b' cases cases') :
    r.Rel (renderValueCase w e v cases b) (renderValueCase w' e' v cases' b') := by
  induction h with
  | nil => exact r.returns none
  | @cons p p' _ _ hpart _ ih =>
      obtain ⟨label, content⟩ := p
      obtain ⟨label', content'⟩ := p'
      obtain ⟨rfl, hcontent⟩ := hpart
      simp only [renderValueCase]
      split
      · exact r.map some hcontent
      · exact ih

theorem renderItems_rel {template template' : Option Content}
    (h : r.TemplatesAlike w w' e e' b b' template template') (start : Nat)
    (items : List Value) :
    r.Rel (renderItems w e template start items b)
      (renderItems w' e' template' start items b') := by
  cases h with
  | none =>
      simp only [renderItems]
      exact r.lift_returns _ _
  | some htemplate =>
      simp only [renderItems]
      exact r.mapM fun (item, index) _ => htemplate index item

/-! ## What nodes do by themselves -/

theorem readItems_rel (h : r.Reads b b') (id : String) :
    r.Rel (readItems b id) (readItems b' id) :=
  r.map (fun v : Value => v.items?.getD []) (h.vars id)

theorem joinNamed_rel {id : Option String} (texts : List String)
    (hset : w.separatorSet = w'.separatorSet)
    (hrules : ∀ name, r.Rel (w.findRules name) (w'.findRules name)) :
    r.Rel (w.joinNamed id texts) (w'.joinNamed id texts) := by
  simp only [World.joinNamed, hset]
  refine r.bind (hrules _) fun found => ?_
  cases found with
  | some rules => exact r.returns _
  | none => exact r.bind (r.warns _ trivial) fun _ => r.returns _

theorem drawPool_rel (h : r.Reads b b') (pool : Option (List String))
    (poolVariable : Option String) {dataType : Option String} (format : Option Format)
    (htype : ∀ id, dataType = some id → r.Rel (w.findDataType id) (w'.findDataType id)) :
    r.Rel (drawPool w b pool poolVariable dataType format)
      (drawPool w' b' pool poolVariable dataType format) := by
  unfold drawPool
  split
  · exact r.returns _
  · exact r.bind (readItems_rel h _) fun items => r.lift_returns _ _
  · rename_i hfilter
    refine r.bind (htype _ (Option.eq_some_of_filter_eq_some hfilter)) fun found => ?_
    cases found with
    | some type => exact r.returns _
    | none => exact r.bind (r.warns _ trivial) fun _ => r.returns _
  · exact r.returns _

/-- Values of context keys are alike, but those of the key of all variables: for a name
among the variables the value is that of the variable, and of the other namespaces the
bindings have the same. -/
theorem contextValue_rel (h : r.Reads b b') {key : String}
    (hall : namesAllVariables key = true → b.vars = b'.vars) :
    r.Rel (contextValue b key) (contextValue b' key) := by
  unfold contextValue
  unfold namesAllVariables at hall
  rcases hcut : Text.cut '.' key with ⟨category, rest⟩
  rw [hcut] at hall
  simp only [List.lookup_cons, List.lookup_nil, h.system, h.constraints] at hall ⊢
  by_cases hvars : category = "variables"
  · subst hvars
    by_cases hname : (rest.getD "").isEmpty = true
    · have hsame : b.vars = b'.vars := hall (by simpa using hname)
      simp only [hsame, hname]
      exact r.returns _
    · simp only [hname]
      exact h.vars (rest.getD "")
  · have hother : (category == "variables") = false := by simpa using hvars
    simp only [hother, hvars]
    split
    · exact r.returns _
    · split
      · exact r.returns _
      · exact r.returns _

/-! ## Kinds of nodes -/

theorem render_text_rel (value : String) : r.Alike w w' e e' b b' (.text value) (.text value) := by
  simp only [RunRelation.Alike, render]
  exact r.returns value

theorem render_variable_rel (h : r.Reads b b') (id : String) (path : Option String)
    (format : Option Format) :
    r.Alike w w' e e' b b' (.variable id path format) (.variable id path format) := by
  simp only [RunRelation.Alike, render]
  refine r.bind (h.vars id) fun v => ?_
  exact r.bind (r.lift _) fun _ => r.lift_returns _ _

theorem render_sectionRef_rel {id : String} (h : r.Rel (e id b) (e' id b')) :
    r.Alike w w' e e' b b' (.sectionRef id) (.sectionRef id) := by
  simp only [RunRelation.Alike, render]
  exact h

theorem render_composite_rel {parts parts' : List Content}
    (h : List.Forall₂ (r.Alike w w' e e' b b') parts parts') :
    r.Alike w w' e e' b b' (.composite parts) (.composite parts') := by
  simp only [RunRelation.Alike, render]
  exact r.map (Text.join "") (renderAll_rel h)

theorem render_conditional_rel (h : r.Reads b b') (condition : Condition) {yes yes' : Content}
    {no no' : Option Content} (hyes : r.Alike w w' e e' b b' yes yes')
    (hno : Option.Rel (r.Alike w w' e e' b b') no no') :
    r.Alike w w' e e' b b' (.conditional condition yes no) (.conditional condition yes' no') := by
  simp only [RunRelation.Alike, render]
  refine r.bind (Condition.evaluate_rel h condition) fun holds => ?_
  cases holds with
  | true => exact hyes
  | false => exact renderOptional_rel hno

theorem render_list_rel (h : r.Reads b b') (id : String) {set : String}
    {template template' : Option Content} (hrules : r.Rel (w.findRules set) (w'.findRules set))
    (htemplate : r.TemplatesAlike w w' e e' b b' template template') :
    r.Alike w w' e e' b b' (.list id set template) (.list id set template') := by
  simp only [RunRelation.Alike, render]
  refine r.bind (readItems_rel h id) fun items => ?_
  split
  · exact r.returns ""
  · refine r.bind hrules fun found => ?_
    cases found with
    | some rules => exact r.map rules.join (renderItems_rel htemplate 0 items)
    | none => exact r.bind (r.warns _ trivial) fun _ => r.lift_returns _ _

theorem render_context_rel {key : String} {fallback fallback' : Option Content}
    (hvalue : r.Rel (contextValue b key) (contextValue b' key))
    (hfallback : Option.Rel (r.Alike w w' e e' b b') fallback fallback') :
    r.Alike w w' e e' b b' (.context key fallback) (.context key fallback') := by
  simp only [RunRelation.Alike, render]
  refine r.bind hvalue fun v => ?_
  split
  · exact renderOptional_rel hfallback
  · exact r.lift_returns _ _

theorem render_plural_rel (h : r.Reads b b') (id : String) (forms : PluralForms) :
    r.Alike w w' e e' b b' (.plural id forms) (.plural id forms) := by
  simp only [RunRelation.Alike, render]
  exact r.bind (h.vars id) fun v => r.lift_returns _ _

theorem render_article_rel (h : r.Reads b b') (id : Option String) {word word' : Option Content}
    (style : ArticleStyle) (capitalize : Bool)
    (hword : Option.Rel (r.Alike w w' e e' b b') word word') :
    r.Alike w w' e e' b b' (.article id word style capitalize)
      (.article id word' style capitalize) := by
  simp only [RunRelation.Alike, render]
  split
  · refine r.bind (h.vars _) fun v => ?_
    exact r.lift_returns _ _
  · exact r.map (fun phrase => Grammar.chooseArticle phrase style capitalize)
      (renderOptional_rel hword)

theorem render_countSwitch_rel (h : r.Reads b b') (id : String)
    {cases cases' : List (CaseCount × Content)} {otherwise otherwise' : Option Content}
    (hcases : r.CasesAlike w w' e e' b b' cases cases')
    (hotherwise : Option.Rel (r.Alike w w' e e' b b') otherwise otherwise') :
    r.Alike w w' e e' b b' (.countSwitch id cases otherwise)
      (.countSwitch id cases' otherwise') := by
  simp only [RunRelation.Alike, render]
  refine r.bind (h.vars id) fun v => ?_
  refine r.bind (renderCountCase_rel (countOf v) hcases) fun found => ?_
  cases found with
  | some text => exact r.returns text
  | none => exact renderOptional_rel hotherwise

theorem render_switch_rel (h : r.Reads b b') (id : String)
    {cases cases' : List (CaseValue × Content)} {otherwise otherwise' : Option Content}
    (hcases : r.CasesAlike w w' e e' b b' cases cases')
    (hotherwise : Option.Rel (r.Alike w w' e e' b b') otherwise otherwise') :
    r.Alike w w' e e' b b' (.switch id cases otherwise) (.switch id cases' otherwise') := by
  simp only [RunRelation.Alike, render]
  refine r.bind (h.vars id) fun v => ?_
  refine r.bind (renderValueCase_rel v hcases) fun found => ?_
  cases found with
  | some text => exact r.returns text
  | none => exact renderOptional_rel hotherwise

theorem render_pickOne_rel {candidates candidates' : List Content} {weights : Option (List Float)}
    (htake : r.Rel (w.take (pickPosition candidates.length weights))
      (w'.take (pickPosition candidates.length weights)))
    (hcandidates : List.Forall₂ (r.Alike w w' e e' b b') candidates candidates') :
    r.Alike w w' e e' b b' (.pickOne candidates weights) (.pickOne candidates' weights) := by
  simp only [RunRelation.Alike, render, List.isEmpty_iff_length_eq_zero,
    ← hcandidates.length_eq]
  split
  · exact r.returns ""
  · exact r.bind htake fun position => renderAt_rel hcandidates position

theorem render_pickMany_rel {candidates candidates' : List Content} {count : PickCount}
    {set : Option String} {duplicates : Bool}
    (htake : r.Rel (w.take (pickPositions candidates.length count duplicates))
      (w'.take (pickPositions candidates.length count duplicates)))
    (hjoin : ∀ texts, r.Rel (w.joinNamed set texts) (w'.joinNamed set texts))
    (hcandidates : List.Forall₂ (r.Alike w w' e e' b b') candidates candidates') :
    r.Alike w w' e e' b b' (.pickMany candidates count set duplicates)
      (.pickMany candidates' count set duplicates) := by
  simp only [RunRelation.Alike, render, List.isEmpty_iff_length_eq_zero,
    ← hcandidates.length_eq]
  split
  · exact r.returns ""
  · refine r.bind htake fun positions => ?_
    exact r.bind (r.mapM fun position _ => renderAt_rel hcandidates position) hjoin

theorem render_randomValue_rel {pool : Option (List String)} {poolVariable dataType : Option String}
    {format : Option Format}
    (hpool : r.Rel (drawPool w b pool poolVariable dataType format)
      (drawPool w' b' pool poolVariable dataType format))
    (htake : ∀ size, r.Rel (w.take (Random.uniformPosition size))
      (w'.take (Random.uniformPosition size))) :
    r.Alike w w' e e' b b' (.randomValue pool poolVariable dataType format)
      (.randomValue pool poolVariable dataType format) := by
  simp only [RunRelation.Alike, render]
  refine r.bind hpool fun (values, format) => ?_
  split
  · exact r.returns ""
  · exact r.map (fun position => Format.applyIfAny format (values.getD position "")) (htake _)

theorem render_weightedPick_rel {options options' : List (Float × Content)}
    (htake : r.Rel (w.take (Random.weightedIndex (options.map Prod.fst)))
      (w'.take (Random.weightedIndex (options.map Prod.fst))))
    (hoptions : r.CasesAlike w w' e e' b b' options options') :
    r.Alike w w' e e' b b' (.weightedPick options) (.weightedPick options') := by
  have hweights : options.map Prod.fst = options'.map Prod.fst := hoptions.labels_eq
  simp only [RunRelation.Alike, render, List.isEmpty_iff_length_eq_zero,
    ← hoptions.length_eq, ← hweights]
  split
  · exact r.returns ""
  · exact r.bind htake fun weighted => renderOption_rel hoptions _

theorem render_shuffle_rel (h : r.Reads b b') (id : String) (count : Option Int)
    {set : Option String} {template template' : Option Content}
    (htake : ∀ items : List Value, r.Rel (w.take (Random.shuffle items))
      (w'.take (Random.shuffle items)))
    (hjoin : ∀ texts, r.Rel (w.joinNamed set texts) (w'.joinNamed set texts))
    (htemplate : r.TemplatesAlike w w' e e' b b' template template') :
    r.Alike w w' e e' b b' (.shuffle id count set template) (.shuffle id count set template') := by
  simp only [RunRelation.Alike, render]
  refine r.bind (readItems_rel h id) fun items => ?_
  split
  · exact r.returns ""
  · refine r.bind (htake items) fun shuffled => ?_
    exact r.bind (renderItems_rel htemplate 0 _) hjoin

theorem render_unknown_rel {tag : Option String} (fields fields' : List (String × Value))
    (hwarn : r.Rel (Run.warn (.unknownNode (tag.getD "None")))
      (Run.warn (.unknownNode (tag.getD "None")))) :
    r.Alike w w' e e' b b' (.unknown tag fields) (.unknown tag fields') := by
  simp only [RunRelation.Alike, render]
  exact r.bind hwarn fun _ => r.returns ""

end Nodes

end PromptTree
