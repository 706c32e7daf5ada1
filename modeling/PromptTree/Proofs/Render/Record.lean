import PromptTree.Proofs.Render.Induction
import PromptTree.Proofs.Render.NameSet

/-!
# The record is only written

What a rendering records — issues, names that were used, moves — it never reads again.  So
a rendering gives the same text, or fails alike, whatever was recorded before it; it takes
the same draws; and what it adds to the record is the same (`renderTree_recordRuns`,
`partTexts_recordRuns`).  Draws are the one thing that a later part of a rendering takes
over from an earlier one.

What is added can be named: it is what the rendering leaves on an empty record
(`renderTree_onlyAdds`).

`recordRuns` is the property of a single run, in the form of a relation so that sequencing
keeps it: from a given generator the run does one and the same thing to every record.

## Main Definitions

* `Addition` — what is added to a record.
* `RunState.adding` — a state with more in its record.
* `recordRuns` — the runs that only write the record.
* `World.partTexts` — the texts of the parts of a composite.
-/

namespace PromptTree

/-- What is added to a record: issues, names and moves, in order. -/
structure Addition where
  issues : List Issue := []
  variablesUsed : List String := []
  sectionsUsed : List String := []
  moves : List Move := []

namespace Addition

/-- Two additions, one after the other. -/
def append (first second : Addition) : Addition where
  issues := first.issues ++ second.issues
  variablesUsed := first.variablesUsed ++ second.variablesUsed
  sectionsUsed := first.sectionsUsed ++ second.sectionsUsed
  moves := first.moves ++ second.moves

/-- What is added inside a section. -/
def inside (key : String) (more : Addition) : Addition :=
  { more with moves := .enter key :: (more.moves ++ [.leave]) }

end Addition

/-- The state with more in its record. -/
def RunState.adding (s : RunState) (more : Addition) : RunState where
  generator := s.generator
  issues := s.issues ++ more.issues
  variablesUsed := s.variablesUsed.union more.variablesUsed
  sectionsUsed := s.sectionsUsed.union more.sectionsUsed
  moves := s.moves ++ more.moves

theorem RunState.adding_nothing (s : RunState) : s.adding {} = s := by
  simp only [adding, List.append_nil]
  rfl

theorem RunState.adding_append (s : RunState) (first second : Addition) :
    s.adding (first.append second) = (s.adding first).adding second := by
  have hunion : ∀ set more more' : List String,
      NameSet.union set (more ++ more') = (NameSet.union set more).union more' :=
    fun set more more' => List.foldl_append ..
  simp only [adding, Addition.append, List.append_assoc, hunion]

/-! ## Runs -/

/-- **The runs that only write the record**: from one generator they come to one result and
one generator, and add the same to whatever was recorded. -/
def recordRuns : RunRelation where
  Rel m _ := ∀ generator, ∃ result after more, ∀ s : RunState, s.generator = generator →
    m s = (result, { s.adding more with generator := after })
  returns a generator := by
    refine ⟨.ok a, generator, {}, ?_⟩
    rintro s rfl
    rw [s.adding_nothing]
    rfl
  fails failure generator := by
    refine ⟨.error failure, generator, {}, ?_⟩
    rintro s rfl
    rw [s.adding_nothing]
    rfl
  warns issue _ generator := by
    refine ⟨.ok (), generator, { issues := [issue] }, ?_⟩
    rintro s rfl
    simp only [RunState.adding, List.append_nil]
    rfl
  bind := by
    intro α β m _ f _ hm hf generator
    obtain ⟨result, middle, more, hrun⟩ := hm generator
    cases result with
    | error failure =>
        exact ⟨.error failure, middle, more, fun s hs => Run.bind_of_error (hrun s hs)⟩
    | ok a =>
        obtain ⟨result', after, more', hrun'⟩ := hf a middle
        refine ⟨result', after, more.append more', fun s hs => ?_⟩
        rw [Run.bind_of_ok (hrun s hs), hrun' _ rfl, s.adding_append]
        rfl

section Runs

/-- A run from two states with one generator: what it comes to, and where it leaves the
generator. -/
theorem recordRuns_congr {α : Type} {m m' : Run α} (h : recordRuns.Rel m m') {s t : RunState}
    (hgenerator : s.generator = t.generator) :
    (m s).1 = (m t).1 ∧ (m s).2.generator = (m t).2.generator := by
  obtain ⟨result, after, more, hrun⟩ := h t.generator
  rw [hrun s hgenerator, hrun t rfl]
  exact ⟨rfl, rfl⟩

theorem recordRuns_reads (b : Bindings) : recordRuns.Reads b b where
  vars id := by
    intro generator
    by_cases hid : id.isEmpty = true
    · refine ⟨.ok (b.variableOf id), generator, {}, ?_⟩
      rintro s rfl
      rw [Run.readVariable_apply, if_pos hid, s.adding_nothing]
    · refine ⟨.ok (b.variableOf id), generator, { variablesUsed := [id] }, ?_⟩
      rintro s rfl
      rw [Run.readVariable_apply, if_neg hid]
      simp only [RunState.adding, List.append_nil]
      rfl
  system := rfl
  constraints := rfl

theorem recordRuns_scope : recordRuns.Scope fun b b' => b = b' :=
  RunRelation.scope_eq _ fun b => (recordRuns_reads b).vars

theorem recordRuns_take (world : World) {α : Type} (draws : Random.Draw α) :
    recordRuns.Rel (world.take draws) (world.take draws) := by
  intro generator
  refine ⟨(world.source.drawFrom draws generator).1, (world.source.drawFrom draws generator).2,
    {}, ?_⟩
  rintro s rfl
  rw [s.adding_nothing]
  rfl

theorem recordRuns_enters : recordRuns.Enters where
  warn issue generator := by
    refine ⟨.ok (), generator, { issues := [issue] }, ?_⟩
    rintro s rfl
    simp only [RunState.adding, List.append_nil]
    rfl
  use id generator := by
    refine ⟨.ok (), generator, { sectionsUsed := [id] }, ?_⟩
    rintro s rfl
    simp only [RunState.adding, List.append_nil]
    rfl
  within key m _ h generator := by
    obtain ⟨result, after, more, hrun⟩ := h generator
    refine ⟨result, after, more.inside key, fun s hs => ?_⟩
    rw [Run.within_apply, hrun { s with moves := s.moves ++ [.enter key] } hs]
    simp only [RunState.adding, Addition.inside, List.append_assoc, List.cons_append,
      List.nil_append]

theorem recordRuns_matchesTree (world : World) (content : Content) :
    recordRuns.MatchesTree (fun b b' => b = b') world world content := by
  refine Content.everywhere_of_forall (fun node b b' heq => ?_) content
  exact RunRelation.matches_self _ (recordRuns_take world) (fun _ _ _ => recordRuns_enters.warn _)
    fun _ => heq ▸ rfl

end Runs

/-! ## Renderings -/

/-- **A rendering only writes the record.** -/
theorem renderTree_recordRuns (world : World) (stack : List String) (content : Content)
    (b : Bindings) :
    recordRuns.Rel (world.renderTree stack content b) (world.renderTree stack content b) :=
  renderTree_rel recordRuns_scope recordRuns_enters rfl rfl
    (fun _ found _ => recordRuns_matchesTree world found.body.content)
    (recordRuns_matchesTree world content) stack rfl

/-- **A rendering only adds to the record.**  Whatever was recorded before it, it comes to
the same text or failure and leaves the generator in the same state; and there are issues,
variables and sections that it adds to any record, those that it leaves on an empty one:

* its issues come after the earlier ones, in the same order;
* the names that it used are united with the earlier ones;
* its moves come after the earlier ones.

All of this holds of a rendering that fails, too: what it added before is still there. -/
theorem renderTree_onlyAdds (world : World) (stack : List String) (content : Content)
    (b : Bindings) (s : RunState) :
    let alone := world.renderTree stack content b { generator := s.generator }
    world.renderTree stack content b s = (alone.1,
      { generator := alone.2.generator
        issues := s.issues ++ alone.2.issues
        variablesUsed := s.variablesUsed.union alone.2.variablesUsed
        sectionsUsed := s.sectionsUsed.union alone.2.sectionsUsed
        moves := s.moves ++ alone.2.moves }) := by
  intro alone
  obtain ⟨result, after, more, hrun⟩ := renderTree_recordRuns world stack content b s.generator
  have hstate : world.renderTree stack content b s =
      (result, { s.adding more with generator := after }) := hrun s rfl
  have halone : alone = (result, { RunState.adding { generator := s.generator } more with
      generator := after }) := hrun { generator := s.generator } rfl
  -- Added to nothing, names are put in order; added to a set, they come to the same.
  have hunion : ∀ set names : NameSet, set.union (NameSet.union [] names) = set.union names := by
    intro set names
    rw [← NameSet.union_assoc]
    rfl
  rw [hstate, halone]
  simp only [RunState.adding, List.nil_append, hunion]

/-- A list whose second item refers to a section that cannot be looked up: what its first item
added is there, after what was recorded before. -/
example :
    let resolver : Resolver :=
      { findSection := fun id => if id = "lost" then .error (.lookup "lost") else .ok none
        findSeparatorSet := fun _ => .ok none
        findDataType := fun _ => .ok none }
    let verse : Content :=
      .switch "item" [(.str "sun", .sectionRef "day")] (some (.sectionRef "lost"))
    let b : Bindings := { vars := [("words", .list [.str "sun", .str "moon"])] }
    let start : RunState :=
      { generator := .seeded 0, issues := [.unknownNode "title"], variablesUsed := ["sender"] }
    let poem : Content := .list "words" "space" (some verse)
    let run := World.renderTree { resolver := resolver } [] poem b start
    run.1 = .error (.lookup "lost") ∧
      run.2.issues = [.unknownNode "title", .sectionNotFound "day"] ∧
      run.2.variablesUsed = ["item", "sender", "words"] :=
  ⟨rfl, rfl, rfl⟩

/-- The texts of the parts of a composite, inside the sections being expanded. -/
def World.partTexts (world : World) (stack : List String) (parts : List Content) (b : Bindings) :
    Run (List String) :=
  renderAll world (world.expand (world.room stack) stack) parts b

/-- The text of a composite is made of the texts of its parts. -/
theorem renderTree_composite (world : World) (stack : List String) (parts : List Content)
    (b : Bindings) :
    world.renderTree stack (.composite parts) b = do
      return Text.join "" (← world.partTexts stack parts b) := by
  simp only [World.renderTree, World.partTexts, render]

/-- Parts that are rendered one after the other only write the record. -/
theorem partTexts_recordRuns (world : World) (stack : List String) (parts : List Content)
    (b : Bindings) :
    recordRuns.Rel (world.partTexts stack parts b) (world.partTexts stack parts b) := by
  refine renderAll_rel (List.forall₂_same.mpr fun content _ => ?_)
  exact renderTree_recordRuns world stack content b

end PromptTree
