import PromptTree.Engine.Preview
import PromptTree.Proofs.Render.Relation
import PromptTree.Proofs.Value.Written

/-!
# Previews and lists

A preview joins sample items by the rules of a name, and a list joins the items of a variable.
The rules are found in two ways: a list looks for them once, and records an issue if there are
none; a preview that finds none starts again with the built-in sets alone, and is refused when
they have none either.  **They come to the same** (`Engine.previewSeparator_iff_list`), because
what is built in was found before: `Resolver.builtin?_of_findRules_none`.

Which of two cases holds is decided by the rules of the name, so there is one theorem for each
case and each of the two computations.

## Main Definitions

* `Resolver.FindsSets` — lookups of separator sets that never fail.
-/

namespace PromptTree

/-! ## Rules of a name -/

namespace Resolver

variable {resolver : Resolver} {name : String}

/-- Lookups of separator sets never fail. -/
def FindsSets (resolver : Resolver) : Prop :=
  ∀ key, ∃ found, resolver.findSeparatorSet key = .ok found

theorem FindsSets.exists_findRules (h : resolver.FindsSets) (name : String) :
    ∃ found, resolver.findRules name = .ok found := by
  unfold findRules
  cases Separator.builtin? name with
  | some rules => exact ⟨some rules, rfl⟩
  | none =>
      obtain ⟨found, hfound⟩ := h name
      exact ⟨found.map Stored.body, by rw [hfound]; rfl⟩

theorem findsSets_store (store : Store) : store.resolver.FindsSets :=
  fun key => ⟨store.separatorSet? key, rfl⟩

/-- A name without rules is not that of a built-in set. -/
theorem builtin?_of_findRules_none (h : resolver.findRules name = .ok none) :
    Separator.builtin? name = none := by
  unfold findRules at h
  cases hbuiltin : Separator.builtin? name with
  | none => rfl
  | some rules =>
      rw [hbuiltin] at h
      cases h

end Resolver

/-! ## Previews -/

namespace Engine

variable {engine : Engine} {name : String} {rules : SeparatorRules} {items : List String}

theorem sampleTexts_ofStrings (items : List String) :
    sampleTexts (Value.ofStrings items) = .ok items := by
  have hplain : (items.map Value.str).map Value.plain = items := by
    rw [List.map_map]
    exact List.map_id _
  simp only [sampleTexts, Value.ofStrings, Value.elements?, Value.writing_ofStrings, hplain]
  rfl

theorem previewSeparator_of_found (h : engine.resolver.findRules name = .ok (some rules)) :
    engine.previewSeparator (.str name) (Value.ofStrings items) = .ok (rules.join items) := by
  simp only [previewSeparator, h, sampleTexts_ofStrings]
  rfl

/-- The names that could have been asked for are told in order. -/
theorem previewSeparator_of_missing (h : engine.resolver.findRules name = .ok none) :
    engine.previewSeparator (.str name) (Value.ofStrings items) =
      .error (.refused (.unknownRules name
        (Separator.builtinNames.mergeSort fun a b => decide (a ≤ b)))) := by
  simp only [previewSeparator, h, PromptTree.previewSeparator, sampleTexts_ofStrings, coerceRules,
    Resolver.builtin?_of_findRules_none h]
  rfl

end Engine

/-! ## Lists -/

section Lists

variable {engine : Engine} {world : World} {name : String} {rules : SeparatorRules}
  {items : List String} {b : Bindings} {id : String}

theorem Value.map_text_ofStrings (items : List String) :
    (items.map Value.str).map Value.text = items := by
  rw [List.map_map]
  refine List.map_id'' (fun item => ?_) items
  rw [Function.comp_apply, Value.text]

theorem readItems_ofStrings (hbound : b.variableOf id = .ofStrings items) (s : RunState) :
    readItems b id s = (.ok (items.map .str), (Run.readVariable b id s).2) := by
  have hread : Run.readVariable b id s = (.ok (.ofStrings items), (Run.readVariable b id s).2) := by
    rw [Run.readVariable_apply, hbound]
  unfold readItems
  rw [Run.bind_of_ok hread]
  rfl

variable (hworld : world.resolver = engine.resolver) (hbound : b.variableOf id = .ofStrings items)
  (hitems : items ≠ [])
include hworld hbound hitems

theorem render_list_of_found (h : engine.resolver.findRules name = .ok (some rules))
    (expand : Expander) (s : RunState) :
    render world expand (.list id name none) b s =
      (.ok (rules.join items), (Run.readVariable b id s).2) := by
  have hempty : (items.map Value.str).isEmpty = false := by simpa using hitems
  simp only [render]
  rw [Run.bind_of_ok (readItems_ofStrings hbound s), hempty, if_neg Bool.false_ne_true,
    World.findRules, hworld, h, Run.liftM_ok_bind]
  simp only [renderItems, Value.map_text_ofStrings, Value.writing_ofStrings]
  rfl

theorem render_list_of_missing (h : engine.resolver.findRules name = .ok none)
    (expand : Expander) (s : RunState) :
    let after := (Run.readVariable b id s).2
    render world expand (.list id name none) b s =
      (.ok (World.joinPlainly items),
        { after with issues := after.issues ++ [.separatorSetNotFound name] }) := by
  have hempty : (items.map Value.str).isEmpty = false := by simpa using hitems
  simp only [render]
  rw [Run.bind_of_ok (readItems_ofStrings hbound s), hempty, if_neg Bool.false_ne_true,
    World.findRules, hworld, h, Run.liftM_ok_bind]
  simp only [Value.map_text_ofStrings, Value.writing_ofStrings]
  rfl

end Lists

/-- **A preview shows what a list renders.**  Let lookups of separator sets not fail, and let a
variable be bound to some texts.  A list of the variable is rendered, whatever was recorded
before, and what it records are these issues: none if a preview of the texts by the rules of
the same name returns a text, which then is the text of the list, and that there is no such set
if the preview is refused for the rules. -/
theorem Engine.previewSeparator_iff_list (engine : Engine) (hfinds : engine.resolver.FindsSets)
    (name : String) (items : List String) (hitems : items ≠ []) (world : World)
    (hworld : world.resolver = engine.resolver) (b : Bindings) (id : String)
    (hbound : b.variableOf id = .ofStrings items) (stack : List String) (s : RunState) :
    let preview := engine.previewSeparator (.str name) (.ofStrings items)
    ∃ text issues after,
      world.renderTree stack (.list id name none) b s = (.ok text, after) ∧
      after.issues = s.issues ++ issues ∧
      ((∃ shown, preview = .ok shown) ↔ "SEPARATOR_NOT_FOUND" ∉ issues.map Issue.code) ∧
      (∀ shown, preview = .ok shown → shown = text) ∧
      ((∃ e, preview = .error (.refused e) ∧ e.kind = .separatorRules) ↔
        "SEPARATOR_NOT_FOUND" ∈ issues.map Issue.code) := by
  intro preview
  obtain ⟨found, hfound⟩ := hfinds.exists_findRules name
  cases found with
  | some rules =>
      have hpreview : preview = .ok (rules.join items) := previewSeparator_of_found hfound
      refine ⟨_, [], _, render_list_of_found hworld hbound hitems hfound _ s, ?_, ?_, ?_, ?_⟩
      · rw [Run.issues_readVariable, List.append_nil]
      · exact iff_of_true ⟨_, hpreview⟩ List.not_mem_nil
      · intro shown hshown
        exact (Except.ok.inj (hpreview.symm.trans hshown)).symm
      · refine iff_of_false ?_ List.not_mem_nil
        rintro ⟨e, he, -⟩
        cases hpreview.symm.trans he
  | none =>
      have hpreview : preview = .error (.refused _) := previewSeparator_of_missing hfound
      refine ⟨_, [.separatorSetNotFound name], _,
        render_list_of_missing hworld hbound hitems hfound _ s, ?_, ?_, ?_, ?_⟩
      · rw [Run.issues_readVariable]
      · refine iff_of_false ?_ (not_not_intro List.mem_cons_self)
        rintro ⟨shown, hshown⟩
        cases hpreview.symm.trans hshown
      · intro shown hshown
        cases hpreview.symm.trans hshown
      · exact iff_of_true ⟨_, hpreview, rfl⟩ List.mem_cons_self

/-- A store with a separator set of its own. -/
def dottedStore : Store :=
  { separatorSets := [⟨{ id := "dots" }, Separator.between " · " " · " " · "⟩] }

/-- Two guests by a stored set, and by one that is missing. -/
theorem previewSeparator_iff_list_guests :
    let engine : Engine := { resolver := dottedStore.resolver }
    let world := engine.world {}
    let guests := ["Ada", "Bo"]
    let b : Bindings := { vars := [("guests", .ofStrings guests)] }
    let start : RunState := { generator := .seeded 7 }
    engine.resolver.FindsSets ∧ guests ≠ [] ∧ world.resolver = engine.resolver ∧
      b.variableOf "guests" = .ofStrings guests ∧
      engine.previewSeparator (.str "dots") (.ofStrings guests) = .ok "Ada · Bo" ∧
      (∃ after, world.renderTree [] (.list "guests" "dots" none) b start = (.ok "Ada · Bo", after) ∧
        "SEPARATOR_NOT_FOUND" ∉ after.issues.map Issue.code) ∧
      ∃ text after, world.renderTree [] (.list "guests" "dashes" none) b start = (.ok text, after) ∧
        "SEPARATOR_NOT_FOUND" ∈ after.issues.map Issue.code := by
  intro engine world guests b start
  have hfinds : engine.resolver.FindsSets := Resolver.findsSets_store dottedStore
  have hguests : guests ≠ [] := List.cons_ne_nil _ _
  have hbound : b.variableOf "guests" = .ofStrings guests := rfl
  have hdots : engine.previewSeparator (.str "dots") (.ofStrings guests) = .ok "Ada · Bo" := by
    refine (Engine.previewSeparator_of_found rfl).trans (congrArg Except.ok ?_)
    decide +kernel
  have hdashes : ∃ e, engine.previewSeparator (.str "dashes") (.ofStrings guests) =
      .error (.refused e) ∧ e.kind = .separatorRules :=
    ⟨_, Engine.previewSeparator_of_missing rfl, rfl⟩
  obtain ⟨text, issues, after, hrun, hissues, hfound, hsame, -⟩ :=
    Engine.previewSeparator_iff_list engine hfinds "dots" guests hguests world rfl b "guests" hbound
      [] start
  obtain ⟨text', issues', after', hrun', hissues', -, -, hmissing⟩ :=
    Engine.previewSeparator_iff_list engine hfinds "dashes" guests hguests world rfl b "guests"
      hbound [] start
  refine ⟨hfinds, hguests, rfl, hbound, hdots, ⟨after, ?_, ?_⟩, text', after', hrun', ?_⟩
  · rw [hrun, hsame _ hdots]
  · rw [hissues]
    exact hfound.mp ⟨_, hdots⟩
  · rw [hissues']
    exact hmissing.mp hdashes

end PromptTree
