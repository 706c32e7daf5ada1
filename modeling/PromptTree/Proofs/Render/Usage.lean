import PromptTree.Proofs.Render.Induction
import PromptTree.Proofs.Render.NameSet
import PromptTree.Proofs.Value.Places

/-!
# The record of variables

A rendering records the variables that it reads.  This module proves that the record is
complete: what was not recorded had no influence (`renderTree_noninterference`).  Two
bindings whose variables agree on the names that a rendering recorded give the same text
or failure, and leave the same behind, whatever the other variables are.

The two runs are compared by `recordedRuns`, which takes the *end* of the first run into
account: if the two bindings agree on every name in the record at the end, the runs are
the same.  That this goes through sequencing needs that records only grow, which is
therefore part of the relation.  The second run may stand on top of an earlier record; this
is what shows that `Run.recorded`, taken from an empty record, is what a run adds to any.

One kind of node has to be left out: a context key of all variables as one value reads
every variable there is and records none.
-/

namespace PromptTree

/-! ## Variables that agree -/

/-- Values that are the same before the same entries are set over them are so afterwards. -/
theorem Entries.getD_overlay_congr {a b : Entries} (more : Entries) {name : String}
    (h : Entries.getD a name = Entries.getD b name) :
    Entries.getD (Entries.overlay a more) name = Entries.getD (Entries.overlay b more) name := by
  induction more generalizing a b with
  | nil => exact h
  | cons entry rest ih =>
      refine ih ?_
      rw [Entries.getD_put, Entries.getD_put, h]

/-- Bindings that differ only in variables, and not in those of certain names. -/
structure Bindings.AgreeOn (names : String → Prop) (b b' : Bindings) : Prop where
  vars : ∀ name, names name → b.variableOf name = b'.variableOf name
  system : b.system = b'.system
  constraints : b.constraints = b'.constraints

theorem Bindings.AgreeOn.withVariables {names : String → Prop} {b b' : Bindings}
    (h : b.AgreeOn names b') (more : Entries) :
    (b.withVariables more).AgreeOn names (b'.withVariables more) where
  vars name hname := Entries.getD_overlay_congr more (h.vars name hname)
  system := h.system
  constraints := h.constraints

/-! ## Runs on top of an earlier record -/

/-- The same state, with its record of variables on top of an earlier one. -/
def RunState.over (s : RunState) (earlier : NameSet) : RunState :=
  { s with variablesUsed := earlier.union s.variablesUsed }

/-- The variables that a run records. -/
def Run.recorded {α : Type} (m : Run α) (s : RunState) : NameSet :=
  (m { s with variablesUsed := [] }).2.variablesUsed

/-- **Runs that are the same if the names recorded in the first are certain ones**, where
the second stands on top of an earlier record. -/
def recordedRuns (names : String → Prop) (earlier : NameSet) : RunRelation where
  Rel m m' := ∀ s, s.variablesUsed ⊆ (m s).2.variablesUsed ∧
    ((∀ name ∈ (m s).2.variablesUsed, names name) →
      m' (s.over earlier) = ((m s).1, (m s).2.over earlier))
  returns _ s := ⟨List.Subset.refl _, fun _ => rfl⟩
  fails _ s := ⟨List.Subset.refl _, fun _ => rfl⟩
  warns _ _ s := ⟨List.Subset.refl _, fun _ => rfl⟩
  bind := by
    intro α β m m' f f' hm hf s
    obtain ⟨hgrows, hsame⟩ := hm s
    rcases hrun : m s with ⟨a | a, t⟩
    · rw [hrun] at hgrows hsame
      rw [Run.bind_of_error hrun]
      exact ⟨hgrows, fun hnames => Run.bind_of_error (hsame hnames)⟩
    · rw [hrun] at hgrows hsame
      rw [Run.bind_of_ok hrun]
      obtain ⟨hgrows', hsame'⟩ := hf a t
      -- What the first part recorded is still recorded at the end, so the bindings agree on it.
      refine ⟨List.Subset.trans hgrows hgrows', fun hnames => ?_⟩
      rw [Run.bind_of_ok (hsame fun name hname => hnames name (hgrows' hname))]
      exact hsame' hnames

section Recorded

variable {names : String → Prop} {earlier : NameSet}

theorem recordedRuns_enters : (recordedRuns names earlier).Enters where
  warn issue s := ⟨List.Subset.refl _, fun _ => rfl⟩
  use id s := ⟨List.Subset.refl _, fun _ => rfl⟩
  within key m m' h s := by
    obtain ⟨hgrows, hsame⟩ := h { s with moves := s.moves ++ [.enter key] }
    refine ⟨hgrows, fun hnames => ?_⟩
    have hinner := hsame hnames
    unfold Run.within
    have hstart : { s.over earlier with moves := (s.over earlier).moves ++ [.enter key] } =
        RunState.over { s with moves := s.moves ++ [.enter key] } earlier := rfl
    rw [hstart, hinner]
    rfl

theorem recordedRuns_take (world : World) {α : Type} (draws : Random.Draw α) :
    (recordedRuns names earlier).Rel (world.take draws) (world.take draws) :=
  fun _ => ⟨List.Subset.refl _, fun _ => rfl⟩

/-- Variables are read alike: a variable that is read is recorded, but for the empty name. -/
theorem recordedRuns_reads (hblank : names "") {b b' : Bindings} (h : b.AgreeOn names b') :
    (recordedRuns names earlier).Reads b b' where
  vars id := by
    intro s
    rw [Run.readVariable_apply, Run.readVariable_apply]
    by_cases hid : id.isEmpty = true
    · have hempty : id = "" := by simpa using hid
      simp only [hid, if_true]
      refine ⟨List.Subset.refl _, fun _ => ?_⟩
      rw [hempty, h.vars "" hblank]
    · simp only [hid, Bool.false_eq_true, if_false]
      refine ⟨fun name hname => (NameSet.mem_insert _).mpr (.inr hname), fun hnames => ?_⟩
      have hread : names id := hnames id ((NameSet.mem_insert _).mpr (.inl rfl))
      rw [h.vars id hread]
      simp only [RunState.over, NameSet.union_insert]
  system := h.system
  constraints := h.constraints

end Recorded

/-! ## Trees -/

/-- Every node of the tree reads variables by their names. -/
def Content.ReadsByName (content : Content) : Prop :=
  content.Everywhere fun node => node.readsAllVariables = false

/-- Every section that can be found reads variables by their names. -/
def Resolver.ReadsByName (resolver : Resolver) : Prop :=
  ∀ id found, resolver.findSection id = .ok (some found) → found.body.content.ReadsByName

theorem Content.ReadsByName.matchesTree {names : String → Prop} {earlier : NameSet}
    {content : Content} (h : content.ReadsByName) (world : World) :
    (recordedRuns names earlier).MatchesTree (Bindings.AgreeOn names) world world content := by
  refine h.imp fun node hnode b b' _ => ?_
  refine RunRelation.matches_self _ (recordedRuns_take world) ?_ ?_
  · exact fun tag fields _ => recordedRuns_enters.warn _
  · intro hall
    rw [hnode] at hall
    cases hall

theorem renderTree_recordedRuns {names : String → Prop} (earlier : NameSet) (hblank : names "")
    {world : World} (hsections : world.resolver.ReadsByName) {content : Content}
    (htree : content.ReadsByName) (stack : List String) {b b' : Bindings}
    (h : b.AgreeOn names b') :
    (recordedRuns names earlier).Rel (world.renderTree stack content b)
      (world.renderTree stack content b') := by
  have hscope : (recordedRuns names earlier).Scope (Bindings.AgreeOn names) :=
    ⟨recordedRuns_reads hblank, fun more hb => hb.withVariables more⟩
  exact renderTree_rel hscope recordedRuns_enters rfl rfl
    (fun id found hfound => (hsections id found hfound).matchesTree world)
    (htree.matchesTree world) stack h

/-- **What a rendering does not record has no influence on it.**  The bindings may differ
in variables, but not in those that the first rendering records, nor in that of the empty
name, which is read and not recorded.  Then the two renderings give the same text or fail
alike, and leave the same behind: issues, what was used, the generator and the moves.

What a rendering records does not depend on earlier records, to which it is added. -/
theorem renderTree_noninterference (world : World) (hsections : world.resolver.ReadsByName)
    (content : Content) (htree : content.ReadsByName) (stack : List String) (s : RunState)
    (b b' : Bindings) (hsystem : b.system = b'.system)
    (hconstraints : b.constraints = b'.constraints) (hblank : b.variableOf "" = b'.variableOf "")
    (hused : ∀ name ∈ Run.recorded (world.renderTree stack content b) s,
      b.variableOf name = b'.variableOf name) :
    world.renderTree stack content b' s = world.renderTree stack content b s ∧
    (world.renderTree stack content b s).2.variablesUsed =
      s.variablesUsed.union (Run.recorded (world.renderTree stack content b) s) := by
  let names : String → Prop := fun name => b.variableOf name = b'.variableOf name
  let start : RunState := { s with variablesUsed := [] }
  have hstart : start.over s.variablesUsed = s := rfl
  have hother : b.AgreeOn names b' := ⟨fun name hname => hname, hsystem, hconstraints⟩
  have hsame : b.AgreeOn names b := ⟨fun name _ => rfl, rfl, rfl⟩
  have hrun := (renderTree_recordedRuns s.variablesUsed hblank hsections htree
    stack hsame start).2 hused
  have hrun' := (renderTree_recordedRuns s.variablesUsed hblank hsections htree
    stack hother start).2 hused
  -- Both runs on top of the record are the first run from an empty one.
  rw [hstart] at hrun hrun'
  refine ⟨hrun'.trans hrun.symm, ?_⟩
  rw [hrun]
  rfl

/-- The section `closing` names the sender. -/
def closingSection : Resolver where
  findSection
    | "closing" => .ok (some ⟨{ id := "closing" }, { content := .variable "sender" none none }⟩)
    | _ => .ok none
  findSeparatorSet _ := .ok none
  findDataType _ := .ok none

/-- A greeting by name if it is to be formal, and the closing. -/
def greeting : Content :=
  .composite
    [.conditional (.mk { variableId := some "formal", operator := some "exists" } none none none)
      (.variable "name" none none) (some (.text "Hello from ")), .sectionRef "closing"]

theorem greeting_readsByName : greeting.ReadsByName := by
  refine .node rfl fun part hpart => ?_
  rcases List.mem_pair.mp hpart with rfl | rfl
  · refine .node rfl fun branch hbranch => ?_
    rcases List.mem_pair.mp hbranch with rfl | rfl
    · exact .node rfl nofun
    · exact .node rfl nofun
  · exact .node rfl nofun

theorem closingSection_readsByName : closingSection.ReadsByName := by
  intro id found hfound
  simp only [closingSection] at hfound
  split at hfound
  · cases hfound
    exact .node rfl nofun
  · cases hfound

/-- A greeting that is not formal is the same to everyone. -/
theorem renderTree_noninterference_greeting :
    let world : World := { resolver := closingSection }
    let start : RunState := { generator := .congruential 0, variablesUsed := ["earlier"] }
    let toAda : Bindings := { vars := [("name", .str "Ada"), ("sender", .str "Bo")] }
    let toCy : Bindings := { vars := [("sender", .str "Bo"), ("name", .str "Cy")] }
    Run.recorded (world.renderTree [] greeting toAda) start = ["formal", "sender"] ∧
      toAda.variableOf "name" ≠ toCy.variableOf "name" ∧
      (world.renderTree [] greeting toAda start).1 = .ok "Hello from Bo" ∧
      world.renderTree [] greeting toCy start = world.renderTree [] greeting toAda start ∧
      (world.renderTree [] greeting toCy start).2.variablesUsed =
        ["earlier", "formal", "sender"] := by
  intro world start toAda toCy
  have hrecorded : Run.recorded (world.renderTree [] greeting toAda) start =
      ["formal", "sender"] := rfl
  have hused : ∀ name ∈ Run.recorded (world.renderTree [] greeting toAda) start,
      toAda.variableOf name = toCy.variableOf name := by
    rw [hrecorded]
    intro name hname
    rcases List.mem_pair.mp hname with rfl | rfl
    · rfl
    · rfl
  obtain ⟨hsame, hadds⟩ := renderTree_noninterference world closingSection_readsByName greeting
    greeting_readsByName [] start toAda toCy rfl rfl rfl hused
  refine ⟨hrecorded, fun heq => ?_, rfl, hsame, ?_⟩
  · have hname : "Ada" = "Cy" := Value.str.inj heq
    exact absurd hname (by decide)
  · rw [hsame, hadds, hrecorded]
    rfl

end PromptTree
