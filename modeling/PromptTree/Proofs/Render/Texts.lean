import PromptTree.Proofs.Render.Meaning
import PromptTree.Proofs.Render.Nodes

/-!
# Texts of nodes

A node is rendered to a text that it denotes, if its parts are.  There is one theorem for each
kind of node, in the order of the kinds, and before them one for each of the positions in
which parts stand.

Two things come from outside a node: what choices return (`Random.returns_weightedIndex` and
its kin), and that lookups return the same whatever was recorded before, and take no draws
(`steadyRuns`), so that what one of them returned in a rendering is a fact that a rule of
the meaning can name.

## Main Definitions

* `steadyRuns` — runs that return the same from every state, and take no draws.
* `World.Bounded` — states from which all draws are from zero to one.
* `Renders` — a rendering returns only what the tree denotes.
-/

namespace PromptTree

open PromptTree.Random (Returns)

/-! ## Lookups -/

/-- Runs that return the same whatever was recorded before, and leave the generator alone. -/
def steadyRuns : RunRelation where
  Rel m m' := ∀ s t, (m' t).1 = (m s).1 ∧ (m s).2.generator = s.generator
  returns _ _ _ := ⟨rfl, rfl⟩
  fails _ _ _ := ⟨rfl, rfl⟩
  warns _ _ _ _ := ⟨rfl, rfl⟩
  bind := by
    intro α β m m' f f' hm hf s t
    obtain ⟨hresult, hgenerator⟩ := hm s t
    rcases hrun : m s with ⟨failure | a, u⟩
    · rcases hrun' : m' t with ⟨result, u'⟩
      rw [hrun, hrun'] at hresult
      rw [hrun] at hgenerator
      cases hresult
      rw [Run.bind_of_error hrun, Run.bind_of_error hrun']
      exact ⟨rfl, hgenerator⟩
    · rcases hrun' : m' t with ⟨result, u'⟩
      rw [hrun, hrun'] at hresult
      rw [hrun] at hgenerator
      cases hresult
      rw [Run.bind_of_ok hrun, Run.bind_of_ok hrun']
      obtain ⟨hresult', hgenerator'⟩ := hf a u u'
      exact ⟨hresult', hgenerator'.trans hgenerator⟩

theorem steadyRuns_reads (b : Bindings) : steadyRuns.Reads b b where
  vars id s t := by
    rw [Run.readVariable_apply, Run.readVariable_apply]
    split
    · exact ⟨rfl, rfl⟩
    · exact ⟨rfl, rfl⟩
  system := rfl
  constraints := rfl

/-- All draws of the nodes that are still to come are from zero to one. -/
def World.Bounded (world : World) (s : RunState) : Prop :=
  world.source.Bounded s.generator

section Rendering

variable {world : World} {α : Type}

theorem returns_of_steady {m : Run α} (h : steadyRuns.Rel m m) :
    Returns world.Bounded m m.Gives := by
  intro s hs
  refine ⟨?_, fun a ha t => (h s t).1.trans ha⟩
  unfold World.Bounded
  rw [(h s s).2]
  exact hs

/-- What is found in the surroundings, and does not depend on the state. -/
theorem returns_lookup (x : Except Failure α) :
    Returns world.Bounded (liftM x : Run α) fun a => x = .ok a :=
  Returns.lift fun _ h => h

/-- What is returned where all that is asked for can be written. -/
theorem returns_written (x : Except Failure Unit) {a : α} {P : α → Prop} (h : P a) :
    Returns world.Bounded (do let _ ← (liftM x : Run Unit); return a) P :=
  (returns_lookup x).bind fun _ _ => Returns.value h

theorem returns_readVariable (b : Bindings) (id : String) :
    Returns world.Bounded (Run.readVariable b id) fun v => v = b.variableOf id := by
  refine (returns_of_steady ((steadyRuns_reads b).vars id)).imp fun v hv => ?_
  have hvalue := hv { generator := .congruential 0 }
  rw [Run.readVariable_apply] at hvalue
  cases hvalue
  rfl

theorem returns_readItems (b : Bindings) (id : String) :
    Returns world.Bounded (readItems b id) fun items => items = b.itemsOf id :=
  (returns_readVariable b id).map fun _ hv => by rw [hv, Bindings.itemsOf]

theorem returns_warn (issue : Issue) :
    Returns world.Bounded (Run.warn issue) fun _ => True :=
  fun _ hs => ⟨hs, fun _ _ => trivial⟩

/-- An issue is recorded, and nothing is rendered. -/
theorem returns_nothing (issue : Issue) :
    Returns world.Bounded (do Run.warn issue; return "") fun text => text = "" :=
  (returns_warn issue).bind fun _ _ => Returns.value rfl

theorem returns_take {take : Random.Draw α} {P : α → Prop}
    (h : Returns Random.Generator.Bounded take P) : Returns world.Bounded (world.take take) P :=
  fun s hs => Random.Source.returns_drawFrom h s.generator hs

theorem returns_joinNamed (set : Option String) (texts : List String) :
    Returns world.Bounded (world.joinNamed set texts) (world.joinNamed set texts).Gives :=
  returns_of_steady (joinNamed_rel texts rfl fun _ => steadyRuns.lift _)

/-- Without items nothing is rendered. -/
theorem returns_unlessEmpty {items : List α} {m : Run String} {P : String → Prop}
    (hempty : items = [] → P "") (hfilled : items ≠ [] → Returns world.Bounded m P) :
    Returns world.Bounded (if items.isEmpty then return "" else m) P := by
  cases items with
  | nil => exact Returns.value (hempty rfl)
  | cons _ _ => exact hfilled (List.cons_ne_nil _ _)

/-! ## Positions -/

variable {expand : Expander} {stack : List String} {b : Bindings}

/-- A rendering of the tree returns only what the tree denotes. -/
def Renders (world : World) (expand : Expander) (stack : List String) (content : Content)
    (b : Bindings) : Prop :=
  Returns world.Bounded (render world expand content b) (Denotes world stack content b)

theorem returns_renderOptional {part : Option Content}
    (h : ∀ child ∈ part.toList, Renders world expand stack child b) :
    Returns world.Bounded (renderOptional world expand part b)
      (Denotes world stack (.orEmpty part) b) := by
  cases part with
  | none =>
      simp only [renderOptional]
      exact Returns.value (.text "")
  | some child =>
      simp only [renderOptional]
      exact h child List.mem_cons_self

theorem returns_renderAll {parts : List Content}
    (h : ∀ part ∈ parts, Renders world expand stack part b) :
    Returns world.Bounded (renderAll world expand parts b)
      (DenotesAll world stack (parts.map fun part => (part, b))) := by
  induction parts with
  | nil =>
      simp only [renderAll]
      exact Returns.value .nil
  | cons part rest ih =>
      rw [List.forall_mem_cons] at h
      simp only [renderAll]
      refine Returns.bind h.1 fun text htext => ?_
      exact (ih h.2).map fun texts htexts => .cons htext htexts

/-- Runs over a list render trees in order. -/
theorem returns_mapM {run : α → Run String} {items : List α} {parts : List (Content × Bindings)}
    (h : List.Forall₂
      (fun item part => Returns world.Bounded (run item) (Denotes world stack part.1 part.2))
      items parts) :
    Returns world.Bounded (items.mapM run) (DenotesAll world stack parts) := by
  induction h with
  | nil => exact Returns.value .nil
  | cons hfirst _ ih =>
      rw [List.mapM_cons]
      refine Returns.bind hfirst fun text htext => ?_
      exact ih.map fun texts htexts => .cons htext htexts

/-- Without a template items are shown as their texts. -/
theorem denotesAll_texts (items : List Value) (start : Nat) :
    DenotesAll world stack
      ((items.zipIdx start).map fun p => (Content.ofItem none p.1, itemBindings b p.2 p.1))
      (items.map Value.text) := by
  induction items generalizing start with
  | nil => exact .nil
  | cons item rest ih => exact .cons (.text item.text) (ih (start + 1))

theorem returns_renderItems {template : Option Content}
    (h : ∀ child ∈ template.toList, ∀ b, Renders world expand stack child b)
    (items : List Value) :
    Returns world.Bounded (renderItems world expand template 0 items b)
      (DenotesAll world stack (Content.ofItems template items b)) := by
  cases template with
  | none =>
      simp only [renderItems]
      exact returns_written _ (denotesAll_texts items 0)
  | some content =>
      simp only [renderItems]
      refine returns_mapM ?_
      rw [Content.ofItems, List.forall₂_map_right_iff, List.forall₂_same]
      exact fun p _ => h content List.mem_cons_self _

theorem renderAt_eq {candidates : List Content} {position : Nat} {picked : Content}
    (hplace : candidates[position]? = some picked) :
    renderAt world expand candidates position b = render world expand picked b := by
  induction candidates generalizing position with
  | nil => cases hplace
  | cons candidate rest ih =>
      cases position with
      | zero =>
          cases hplace
          simp only [renderAt]
      | succ position =>
          simp only [renderAt]
          exact ih hplace

theorem returns_renderAt {candidates : List Content} {position : Nat} {picked : Content}
    (h : ∀ candidate ∈ candidates, Renders world expand stack candidate b)
    (hplace : candidates[position]? = some picked) :
    Returns world.Bounded (renderAt world expand candidates position b)
      (Denotes world stack picked b) := by
  rw [renderAt_eq hplace]
  exact h picked (List.mem_of_getElem? hplace)

theorem renderOption_eq {options : List (Float × Content)} {position : Nat}
    {picked : Float × Content} (hplace : options[position]? = some picked) :
    renderOption world expand options position b = render world expand picked.2 b := by
  induction options generalizing position with
  | nil => cases hplace
  | cons option rest ih =>
      cases position with
      | zero =>
          cases hplace
          simp only [renderOption]
      | succ position =>
          simp only [renderOption]
          exact ih hplace

theorem returns_renderOption {options : List (Float × Content)} {position : Nat}
    {picked : Float × Content}
    (h : ∀ content ∈ options.map Prod.snd, Renders world expand stack content b)
    (hplace : options[position]? = some picked) :
    Returns world.Bounded (renderOption world expand options position b)
      (Denotes world stack picked.2 b) := by
  rw [renderOption_eq hplace]
  exact h picked.2 (List.mem_map_of_mem (List.mem_of_getElem? hplace))

theorem caseFor_cons (fits : α → Bool) (first : α × Content) (rest : List (α × Content))
    (otherwise : Option Content) :
    Content.caseFor fits (first :: rest) otherwise =
      if fits first.1 then first.2 else Content.caseFor fits rest otherwise := by
  unfold Content.caseFor
  rw [List.find?_cons]
  cases fits first.1 with
  | true => rfl
  | false => rfl

/-- What the search for a case returns: a text of the tree that stands for the case, or none if
that tree is what stands for all other cases. -/
def CaseDenotes (world : World) (stack : List String) (b : Bindings) (chosen : Content)
    (otherwise : Option Content) : Option String → Prop
  | some text => Denotes world stack chosen b text
  | none => chosen = .orEmpty otherwise

theorem returns_renderCountCase (count : Number) {cases : List (CaseCount × Content)}
    (h : ∀ content ∈ cases.map Prod.snd, Renders world expand stack content b)
    (otherwise : Option Content) :
    Returns world.Bounded (renderCountCase world expand count cases b)
      (CaseDenotes world stack b
        (.caseFor (fun label => label.fits count) cases otherwise) otherwise) := by
  induction cases with
  | nil =>
      simp only [renderCountCase]
      exact Returns.value rfl
  | cons first rest ih =>
      rw [List.map_cons, List.forall_mem_cons] at h
      simp only [renderCountCase, caseFor_cons]
      split
      · exact Returns.map h.1 fun _ htext => htext
      · exact ih h.2

theorem returns_renderValueCase (v : Value) {cases : List (CaseValue × Content)}
    (h : ∀ content ∈ cases.map Prod.snd, Renders world expand stack content b)
    (otherwise : Option Content) :
    Returns world.Bounded (renderValueCase world expand v cases b)
      (CaseDenotes world stack b
        (.caseFor (fun label => label.toValue.strictEquals v) cases otherwise) otherwise) := by
  induction cases with
  | nil =>
      simp only [renderValueCase]
      exact Returns.value rfl
  | cons first rest ih =>
      rw [List.map_cons, List.forall_mem_cons] at h
      simp only [renderValueCase, caseFor_cons]
      split
      · exact Returns.map h.1 fun _ htext => htext
      · exact ih h.2

/-- After the search for a case, what stands for all others is rendered if none fits. -/
theorem returns_caseOr {search : Run (Option String)} {chosen : Content}
    {otherwise : Option Content}
    (hsearch : Returns world.Bounded search (CaseDenotes world stack b chosen otherwise))
    (hother : ∀ content ∈ otherwise.toList, Renders world expand stack content b) :
    Returns world.Bounded
      (do
        match ← search with
        | some text => return text
        | none => renderOptional world expand otherwise b)
      (Denotes world stack chosen b) := by
  refine hsearch.bind fun found hfound => ?_
  cases found with
  | some text => exact Returns.value hfound
  | none =>
      rw [hfound]
      exact returns_renderOptional hother

/-! ## Nodes -/

theorem renders_variable (id : String) (path : Option String) (format : Option Format) :
    Renders world expand stack (.variable id path format) b := by
  simp only [Renders, render]
  refine (returns_readVariable b id).bind fun v hv => ?_
  subst hv
  exact (returns_lookup _).bind fun v hv => returns_written _ (.bound hv)

theorem renders_composite {parts : List Content}
    (h : ∀ part ∈ parts, Renders world expand stack part b) :
    Renders world expand stack (.composite parts) b := by
  simp only [Renders, render]
  exact (returns_renderAll h).map fun _ htexts => .composite htexts

theorem renders_conditional (condition : Condition) {yes : Content} {no : Option Content}
    (hyes : Renders world expand stack yes b)
    (hno : ∀ content ∈ no.toList, Renders world expand stack content b) :
    Renders world expand stack (.conditional condition yes no) b := by
  simp only [Renders, render]
  refine (returns_of_steady (Condition.evaluate_rel (steadyRuns_reads b) condition)).bind ?_
  intro holds hholds
  cases holds with
  | true => exact Returns.imp hyes fun _ htext => .conditional hholds htext
  | false => exact (returns_renderOptional hno).imp fun _ htext => .conditional hholds htext

theorem renders_list (id set : String) {template : Option Content}
    (h : ∀ content ∈ template.toList, ∀ b, Renders world expand stack content b) :
    Renders world expand stack (.list id set template) b := by
  simp only [Renders, render]
  refine (returns_readItems b id).bind fun items hitems => ?_
  subst hitems
  refine returns_unlessEmpty (fun hempty => .listEmpty hempty) fun hfilled => ?_
  refine (returns_of_steady (steadyRuns.lift _)).bind fun found hfound => ?_
  cases found with
  | some rules => exact (returns_renderItems h _).map fun _ htexts => .list hfilled hfound htexts
  | none => exact (returns_warn _).bind fun _ _ => returns_written _ (.listPlain hfilled hfound)

theorem renders_context (key : String) {fallback : Option Content}
    (h : ∀ content ∈ fallback.toList, Renders world expand stack content b) :
    Renders world expand stack (.context key fallback) b := by
  simp only [Renders, render]
  have hvalue : steadyRuns.Rel (contextValue b key) (contextValue b key) :=
    contextValue_rel (steadyRuns_reads b) fun _ => rfl
  refine (returns_of_steady hvalue).bind fun v hv => ?_
  split
  · rename_i hnull
    refine (returns_renderOptional h).imp fun text htext => .context hv ?_
    rw [if_pos hnull]
    exact htext
  · rename_i hpresent
    refine returns_written _ (.context hv ?_)
    rw [if_neg hpresent]
    exact .text v.text

theorem renders_plural (id : String) (forms : PluralForms) :
    Renders world expand stack (.plural id forms) b := by
  simp only [Renders, render]
  refine (returns_readVariable b id).bind fun v hv => ?_
  subst hv
  exact returns_written _ (.plural id forms)

theorem renders_article (wordVariable : Option String) {word : Option Content}
    (style : ArticleStyle) (capitalize : Bool)
    (h : ∀ content ∈ word.toList, Renders world expand stack content b) :
    Renders world expand stack (.article wordVariable word style capitalize) b := by
  simp only [Renders, render]
  split
  · rename_i id hnamed
    obtain ⟨rfl, hname⟩ := Option.filter_eq_some_iff.mp hnamed
    rw [Bool.not_eq_true'] at hname
    refine (returns_readVariable b id).bind fun v hv => ?_
    subst hv
    exact returns_written _ (.articleOf hname)
  · rename_i hunnamed
    exact (returns_renderOptional h).map fun _ hphrase => .article hunnamed hphrase

theorem renders_countSwitch (id : String) {cases : List (CaseCount × Content)}
    {otherwise : Option Content}
    (hcases : ∀ content ∈ cases.map Prod.snd, Renders world expand stack content b)
    (hother : ∀ content ∈ otherwise.toList, Renders world expand stack content b) :
    Renders world expand stack (.countSwitch id cases otherwise) b := by
  simp only [Renders, render]
  refine (returns_readVariable b id).bind fun v hv => ?_
  subst hv
  exact (returns_caseOr (returns_renderCountCase _ hcases otherwise) hother).imp
    fun _ htext => .countSwitch htext

theorem renders_switch (id : String) {cases : List (CaseValue × Content)}
    {otherwise : Option Content}
    (hcases : ∀ content ∈ cases.map Prod.snd, Renders world expand stack content b)
    (hother : ∀ content ∈ otherwise.toList, Renders world expand stack content b) :
    Renders world expand stack (.switch id cases otherwise) b := by
  simp only [Renders, render]
  refine (returns_readVariable b id).bind fun v hv => ?_
  subst hv
  exact (returns_caseOr (returns_renderValueCase _ hcases otherwise) hother).imp
    fun _ htext => .switch htext

/-! ## Random nodes -/

/-- What is picked by weights, or else with equal chances. -/
theorem returns_pickPosition {size : Nat} (hsize : 0 < size) (weights : Option (List Float)) :
    Returns Random.Generator.Bounded (pickPosition size weights) (MayPick size weights) := by
  -- Weights that do not decide: missing, not one for each candidate, or none above zero.
  have huniform : (∀ given, weights = some given → given.length = size →
      ∀ weight ∈ given, ¬ 0 < weight) →
      Returns Random.Generator.Bounded (Random.uniformPosition size) (MayPick size weights) := by
    intro hnone
    refine (Random.returns_uniformPosition hsize).imp fun position hposition => ?_
    refine ⟨hposition, fun given hgiven hlength hsome => ?_⟩
    obtain ⟨weight, hmem, hpos⟩ := hsome
    exact absurd hpos (hnone given hgiven hlength weight hmem)
  unfold pickPosition
  cases weights with
  | none => exact huniform nofun
  | some given =>
      simp only
      split
      · rename_i hlength
        refine (Random.returns_weightedIndex given).bind fun found hfound => ?_
        cases found with
        | some position =>
            obtain ⟨weight, hweight, hpos⟩ := hfound
            refine Returns.value ⟨?_, fun other hother _ _ => ?_⟩
            · exact hlength ▸ (List.getElem?_eq_some_iff.mp hweight).1
            · cases hother
              exact ⟨weight, hweight, hpos⟩
        | none =>
            refine huniform fun other hother _ => ?_
            cases hother
            exact hfound
      · rename_i hlength
        refine huniform fun other hother hother' => ?_
        cases hother
        exact absurd hother' hlength

theorem renders_pickOne {candidates : List Content} (weights : Option (List Float))
    (h : ∀ candidate ∈ candidates, Renders world expand stack candidate b) :
    Renders world expand stack (.pickOne candidates weights) b := by
  simp only [Renders, render]
  refine returns_unlessEmpty (fun hempty => hempty ▸ .pickOneEmpty) fun hfilled => ?_
  have hpick := returns_pickPosition (List.length_pos_iff.mpr hfilled) weights
  refine (returns_take hpick).bind fun position hmay => ?_
  have hplace := List.getElem?_eq_getElem hmay.1
  exact (returns_renderAt h hplace).imp fun _ htext => .pickOne hmay hplace htext

theorem returns_pickPositions {size : Nat} (hsize : 0 < size) {count : PickCount}
    (hcount : ∀ low high, count = .between low high → low ≤ high) (allowDuplicates : Bool) :
    Returns Random.Generator.Bounded (pickPositions size count allowDuplicates) fun positions =>
      (∀ position ∈ positions, position < size) ∧
        MayPickMany size count allowDuplicates positions := by
  have hsample : ∀ wanted, count.Admits wanted →
      Returns Random.Generator.Bounded (Random.sampleIndices size wanted allowDuplicates)
        fun positions => (∀ position ∈ positions, position < size) ∧
          MayPickMany size count allowDuplicates positions := by
    intro wanted hwanted
    exact (Random.returns_sampleIndices hsize wanted allowDuplicates).imp
      fun positions h => ⟨h.1, wanted, hwanted, h.2⟩
  unfold pickPositions
  cases count with
  | exactly n => exact hsample n rfl
  | between low high =>
      have hrange : (low : Int) ≤ high := Int.ofNat_le.mpr (hcount low high rfl)
      exact (Random.returns_inclusiveRange hrange).bind hsample

theorem renders_pickMany {candidates : List Content} {count : PickCount}
    (hcount : ∀ low high, count = .between low high → low ≤ high) (set : Option String)
    (allowDuplicates : Bool)
    (h : ∀ candidate ∈ candidates, Renders world expand stack candidate b) :
    Renders world expand stack (.pickMany candidates count set allowDuplicates) b := by
  simp only [Renders, render]
  refine returns_unlessEmpty (fun hempty => hempty ▸ .pickManyEmpty) fun hfilled => ?_
  have hpick := returns_pickPositions (List.length_pos_iff.mpr hfilled) hcount allowDuplicates
  refine (returns_take hpick).bind fun positions hpositions => ?_
  obtain ⟨picked, hpicked⟩ := Random.exists_itemsAt hpositions.1
  have htexts : Returns world.Bounded
      (positions.mapM fun position => renderAt world expand candidates position b)
      (DenotesAll world stack (picked.map fun part => (part, b))) := by
    refine returns_mapM ?_
    rw [List.forall₂_map_right_iff]
    exact hpicked.imp fun _ _ hplace => returns_renderAt h hplace
  refine htexts.bind fun texts hall => ?_
  exact (returns_joinNamed set texts).imp fun _ hjoined =>
    .pickMany hfilled hpositions.2 hpicked hall hjoined

theorem renders_randomValue (pool : Option (List String)) (poolVariable dataType : Option String)
    (format : Option Format) :
    Renders world expand stack (.randomValue pool poolVariable dataType format) b := by
  simp only [Renders, render]
  have hpool : steadyRuns.Rel (drawPool world b pool poolVariable dataType format)
      (drawPool world b pool poolVariable dataType format) :=
    drawPool_rel (steadyRuns_reads b) pool poolVariable format fun _ _ => steadyRuns.lift _
  refine (returns_of_steady hpool).bind fun found hfound => ?_
  obtain ⟨values, shownAs⟩ := found
  refine returns_unlessEmpty (fun hempty : values = [] => ?_) fun hfilled => ?_
  · subst hempty
    exact .randomValueEmpty hfound
  have hpick := Random.returns_uniformPosition (List.length_pos_iff.mpr hfilled)
  refine (returns_take hpick).map fun position hposition => .randomValue hfound ?_
  rw [List.getD_eq_getElem?_getD, List.getElem?_eq_getElem hposition]
  exact List.getElem_mem hposition

theorem MayPickWeighted.lt_length {weights : List Float} {position : Nat}
    (h : MayPickWeighted weights position) : position < weights.length := by
  rcases h with ⟨_, hweight, -⟩ | ⟨-, hlast⟩
  · exact (List.getElem?_eq_some_iff.mp hweight).1
  · omega

/-- What is found by weights may be picked, or the last option if nothing is found. -/
theorem mayPickWeighted_getD {weights : List Float} (hfilled : weights ≠ []) {found : Option Nat}
    (h : match found with
      | some position => ∃ weight, weights[position]? = some weight ∧ 0 < weight
      | none => ∀ weight ∈ weights, ¬ 0 < weight) :
    MayPickWeighted weights (found.getD (weights.length - 1)) := by
  cases found with
  | some position => exact .inl h
  | none => exact .inr ⟨h, Nat.sub_add_cancel (List.length_pos_iff.mpr hfilled)⟩

theorem renders_weightedPick {options : List (Float × Content)}
    (h : ∀ content ∈ options.map Prod.snd, Renders world expand stack content b) :
    Renders world expand stack (.weightedPick options) b := by
  simp only [Renders, render]
  refine returns_unlessEmpty (fun hempty => hempty ▸ .weightedPickEmpty) fun hfilled => ?_
  refine (returns_take (Random.returns_weightedIndex _)).bind fun found hfound => ?_
  have hmay := mayPickWeighted_getD (mt List.map_eq_nil_iff.mp hfilled) hfound
  rw [List.length_map] at hmay
  have hlt := hmay.lt_length
  rw [List.length_map] at hlt
  have hplace := List.getElem?_eq_getElem hlt
  exact (returns_renderOption h hplace).imp fun _ htext => .weightedPick hmay hplace htext

theorem keepItems_eq_take (count : Option Int) (items : List α) :
    keepItems count items = items.take (keptLength count items.length) := by
  unfold keepItems keptLength
  cases count with
  | none => rw [List.take_length]
  | some n =>
      simp only
      split
      · rw [List.take_length]
      · split
        · rw [List.take_eq_take_iff, Nat.min_assoc, Nat.min_self]
        · rfl

theorem keptLength_le (count : Option Int) (size : Nat) : keptLength count size ≤ size := by
  unfold keptLength
  split
  · exact Nat.le_refl size
  · split
    · exact Nat.le_refl size
    · split
      · exact Nat.min_le_right _ size
      · exact Nat.sub_le size _

theorem renders_shuffle (id : String) (count : Option Int) (set : Option String)
    {template : Option Content}
    (h : ∀ content ∈ template.toList, ∀ b, Renders world expand stack content b) :
    Renders world expand stack (.shuffle id count set template) b := by
  simp only [Renders, render]
  refine (returns_readItems b id).bind fun items hitems => ?_
  subst hitems
  refine returns_unlessEmpty (fun hempty => .shuffleEmpty hempty) fun hfilled => ?_
  refine (returns_take (Random.returns_shuffle (b.itemsOf id))).bind fun shuffled hshuffled => ?_
  obtain ⟨positions, hperm, hplaces⟩ := hshuffled
  have hlength : positions.length = (b.itemsOf id).length := by
    rw [hperm.length_eq, List.length_range]
  refine (returns_renderItems h _).bind fun texts hall => ?_
  refine (returns_joinNamed set texts).imp fun _ hjoined => ?_
  -- What is kept stands at the first of the positions.
  rw [keepItems_eq_take, ← hplaces.length_eq, hlength] at hall
  refine .shuffle hfilled ⟨?_, ?_⟩ (hplaces.take _) hall hjoined
  · exact (hperm.nodup_iff.mpr List.nodup_range).sublist (List.take_sublist _ _)
  · rw [List.length_take, hlength, Nat.min_eq_left (keptLength_le count _)]

theorem renders_unknown (tag : Option String) (fields : List (String × Value)) :
    Renders world expand stack (.unknown tag fields) b := by
  simp only [Renders, render]
  exact (returns_nothing _).imp fun _ htext => htext ▸ .unknown tag fields

end Rendering

end PromptTree
