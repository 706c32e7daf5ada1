import PromptTree.Proofs.Condition.Paths
import PromptTree.Proofs.Render.Relation
import PromptTree.Proofs.Value.Written

/-!
# Conditions that are always decided

Whatever the bindings are, a condition holds or it does not; but three things stop its
evaluation instead.  A segment of a path is asked for its number and spells none; a text is
searched for the text of a value that cannot be written; and a pattern is refused in a way that
is not taken for a fault of it: for a bound that is too large, or for classes that contradict
each other.

`Test.Sound` says of a test that none of these can happen.  **A test is decided under all
bindings exactly if it is sound** (`Test.completes_iff_sound`), and a condition is if the tests
in it are (`evaluate_completes`).  In what is decided, a path that does not apply has no value,
and a faulty pattern matches nothing.

All this is said of conditions for which there is room: `Condition.Fits` bounds how deep the
conditions, the values that are compared with, and the groups of patterns are nested.  What
happens to other conditions is left open.  Of these bounds the reader of patterns knows its own;
`Condition.evaluate` itself follows conditions and values of any depth, and the other two keep what
is said to those that a run can follow as well.

## Main Definitions

* `Run.Completes` — runs that do not fail, from any state.
* `Test.Sound` — tests that are decided.
* `Condition.tests` — the tests that a condition may come to.
* `Test.Fits`, `Condition.Fits` — tests and conditions for which there is room.
-/

namespace PromptTree

/-! ## Runs that do not fail -/

namespace Run

variable {α β : Type}

/-- The run does not fail. -/
def Completes (m : Run α) : Prop :=
  ∀ s, ∃ a t, m s = (.ok a, t)

theorem completes_pure (a : α) : Completes (pure a : Run α) :=
  fun s => ⟨a, s, rfl⟩

theorem Completes.bind {m : Run α} {f : α → Run β} (hm : Completes m) (hf : ∀ a, Completes (f a)) :
    Completes (m >>= f) := by
  intro s
  obtain ⟨a, t, hrun⟩ := hm s
  rw [bind_of_ok hrun]
  exact hf a t

theorem completes_lift_ok (a : α) : Completes (liftM (.ok a : Except Failure α) : Run α) :=
  fun s => ⟨a, s, rfl⟩

theorem exists_readVariable (b : Bindings) (id : String) (s : RunState) :
    ∃ t, readVariable b id s = (.ok (b.variableOf id), t) :=
  ⟨_, readVariable_apply b id s⟩

/-- A run that fails somewhere does not complete. -/
theorem not_completes {m : Run α} {s t : RunState} {failure : Failure}
    (h : m s = (.error failure, t)) : ¬Completes m := by
  intro hm
  obtain ⟨a, u, hrun⟩ := hm s
  rw [h] at hrun
  cases hrun

end Run

/-! ## Tests -/

namespace Test

/-- The value that the test reads depends on the bindings. -/
def ReadsBindings (test : Test) : Prop :=
  (∃ id, test.variableId.filter (!·.isEmpty) = some id) ∨
    (test.variableId.filter (!·.isEmpty) = none ∧
      ∃ key, test.contextKey.filter (!·.isEmpty) = some key ∧
        (Text.cut '.' key).1 ∈ ["system", "constraints"])

theorem contextValue_of_notMem {key : String}
    (h : (Text.cut '.' key).1 ∉ ["system", "constraints"]) (b : Bindings) :
    contextValue b key = .null := by
  unfold contextValue
  simp only
  split
  · rename_i hsystem
    exact absurd (hsystem ▸ List.mem_cons_self) h
  · rename_i hconstraints
    exact absurd (hconstraints ▸ List.mem_cons_of_mem _ List.mem_cons_self) h
  · rfl

/-- A test that reads bindings reads any text from some of them. -/
theorem exists_subject_text {test : Test} (h : test.ReadsBindings) (text : String) :
    ∃ b, ∀ s, ∃ t, test.subject b s = (.ok (.str text), t) := by
  rcases h with ⟨id, hvariable⟩ | ⟨hvariable, key, hcontext, hcategory⟩
  · let b : Bindings := { vars := [(id, .nested (Value.segments test.path) (.str text))] }
    have hvalue : b.variableOf id = .nested (Value.segments test.path) (.str text) := by
      simp [b, Bindings.variableOf, Entries.getD]
    refine ⟨b, fun s => ?_⟩
    obtain ⟨t, hread⟩ := Run.exists_readVariable b id s
    refine ⟨t, ?_⟩
    unfold subject
    simp only [hvariable]
    rw [Run.bind_of_ok hread, hvalue, Value.resolve_nested]
    rfl
  · have hsubject : ∀ b, test.subject b = pure (contextValue b key) := by
      intro b
      unfold subject
      simp only [hvariable, hcontext]
    let entries : Entries := [((Text.cut '.' ((Text.cut '.' key).2.getD "")).1, .str text)]
    have hentry : Entries.getD entries (Text.cut '.' ((Text.cut '.' key).2.getD "")).1 =
        .str text := by
      simp [entries, Entries.getD]
    have hvalue : contextValue { system := entries, constraints := entries } key = .str text := by
      unfold contextValue
      have heither : (Text.cut '.' key).1 = "system" ∨ (Text.cut '.' key).1 = "constraints" := by
        simpa using hcategory
      rcases heither with hsystem | hconstraints
      · simp only [hsystem, hentry]
      · simp only [hconstraints, hentry]
    refine ⟨{ system := entries, constraints := entries }, fun s => ⟨s, ?_⟩⟩
    rw [hsubject, hvalue]
    rfl

/-- The test searches a text for that of the value it compares with. -/
def WritesValue (test : Test) : Prop :=
  ∃ operator, test.operator = some operator ∧ operator ∈ "matches" :: searchOperators

variable [limits : NestingLimits]

/-- **What makes a test one that is always decided**: the path from its variable is well
spelled, the value it compares with can be written if its text is searched for, and its
pattern, if it is asked for one, is a pattern or a faulty one; or it is nested too deep. -/
structure Sound (test : Test) : Prop where
  path : ∀ id, test.variableId.filter (!·.isEmpty) = some id →
    ∀ segment ∈ Value.segments test.path, Value.SpellsPosition segment
  text : test.WritesValue → test.ReadsBindings → test.value.isWritable = true
  pattern : test.operator = some "matches" → test.value.isTruthy = true → test.ReadsBindings →
    ∀ failure, Pattern.parse test.value.text = .error (.failed failure) →
      ∃ follower, failure = .nestedTooDeeply follower

/-- **There is room for the test**: for following the value it compares with, and for reading
its pattern. -/
structure Fits (test : Test) : Prop where
  value : test.value.depth ≤ limits.values
  pattern : test.operator = some "matches" →
    ∀ follower, Pattern.parse test.value.text ≠ .error (.failed (.nestedTooDeeply follower))

section Decided

/-- Nothing keeps a test that reads bindings from being decided, if it is sound and fits. -/
structure Unhindered (test : Test) : Prop where
  text : test.WritesValue → test.value.writing = .ok ()
  pattern : test.operator = some "matches" → test.value.isTruthy = true →
    ∀ failure, Pattern.parse test.value.text ≠ .error (.failed failure)

theorem Sound.unhindered {test : Test} (h : test.Sound) (hfits : test.Fits)
    (hreads : test.ReadsBindings) : test.Unhindered where
  text hwrites := Value.writing_of_isWritable (h.text hwrites hreads)
  pattern hmatches htruthy failure hfailed := by
    obtain ⟨follower, rfl⟩ := h.pattern hmatches htruthy hreads failure hfailed
    exact hfits.pattern hmatches follower hfailed

theorem completes_matchesPattern {pattern : Value} (hwriting : pattern.writing = .ok ())
    (h : pattern.isTruthy = true → ∀ failure, Pattern.parse pattern.text ≠ .error (.failed failure))
    (v : Value) : Run.Completes (matchesPattern v pattern) := by
  unfold matchesPattern
  split
  · split
    · rename_i htruthy
      rw [hwriting]
      refine (Run.completes_lift_ok ()).bind fun _ => ?_
      split
      · exact Run.completes_pure _
      · exact Run.Completes.bind (fun s => ⟨(), _, rfl⟩) fun _ => Run.completes_pure false
      · rename_i failure hfailed
        exact absurd hfailed (h htruthy failure)
    · exact Run.completes_pure false
  · exact Run.completes_pure false

/-- Whatever is asked of a value, it is decided. -/
theorem Unhindered.completes {test : Test} (h : test.Unhindered) {b : Bindings}
    (hsubject : Run.Completes (test.subject b)) : Run.Completes (test.evaluate b) := by
  unfold evaluate
  refine hsubject.bind fun v => ?_
  split
  · rename_i hmatches
    have hwriting := h.text ⟨"matches", hmatches, List.mem_cons_self⟩
    exact completes_matchesPattern hwriting (h.pattern hmatches) v
  · rename_i operator _ hoperator
    have hsought : writeSought operator v test.value = .ok () := by
      unfold writeSought
      split
      · rename_i hsearches
        simp only [Bool.and_eq_true, List.contains_iff_mem] at hsearches
        exact h.text ⟨operator, hoperator, List.mem_cons_of_mem _ hsearches.1⟩
      · rfl
    rw [hsought]
    exact (Run.completes_lift_ok ()).bind fun _ => Run.completes_pure _
  · exact Run.completes_pure false

/-- Without a value there is nothing to search, and nothing to match a pattern with. -/
theorem completes_of_subject_null {test : Test} {b : Bindings} (h : test.subject b = pure .null) :
    Run.Completes (test.evaluate b) := by
  unfold evaluate
  rw [h, pure_bind]
  split
  · exact Run.completes_pure false
  · rename_i operator _ _
    have hsought : writeSought operator .null test.value = .ok () :=
      if_neg (by simp [Value.str?])
    rw [hsought]
    exact (Run.completes_lift_ok ()).bind fun _ => Run.completes_pure _
  · exact Run.completes_pure false

/-- The value of a variable for a sound test: what the path leads to, and `null` if it does not
apply. -/
theorem Sound.subject_eq {test : Test} (h : test.Sound) {id : String}
    (hvariable : test.variableId.filter (!·.isEmpty) = some id) (b : Bindings) (s : RunState) :
    ∃ t, test.subject b s =
      (.ok (((b.variableOf id).descend? (Value.segments test.path)).getD .null), t) := by
  obtain ⟨t, hread⟩ := Run.exists_readVariable b id s
  refine ⟨t, ?_⟩
  unfold subject
  simp only [hvariable]
  rw [Run.bind_of_ok hread, Value.resolve_eq_descend (h.path id hvariable)]
  rfl

/-- **A sound test is decided**, if there is room for it. -/
theorem Sound.completes {test : Test} (h : test.Sound) (hfits : test.Fits) (b : Bindings) :
    Run.Completes (test.evaluate b) := by
  cases hvariable : test.variableId.filter (!·.isEmpty) with
  | some id =>
      have hunhindered : test.Unhindered := h.unhindered hfits (.inl ⟨id, hvariable⟩)
      exact hunhindered.completes fun s => ⟨_, h.subject_eq hvariable b s⟩
  | none =>
      cases hcontext : test.contextKey.filter (!·.isEmpty) with
      | none =>
          refine completes_of_subject_null ?_
          unfold subject
          simp only [hvariable, hcontext]
      | some key =>
          have hsubject : test.subject b = pure (contextValue b key) := by
            unfold subject
            simp only [hvariable, hcontext]
          by_cases hcategory : (Text.cut '.' key).1 ∈ ["system", "constraints"]
          · have hunhindered : test.Unhindered :=
              h.unhindered hfits (.inr ⟨hvariable, key, hcontext, hcategory⟩)
            exact hunhindered.completes (hsubject ▸ Run.completes_pure _)
          · rw [contextValue_of_notMem hcategory] at hsubject
            exact completes_of_subject_null hsubject

/-- A faulty pattern matches nothing: a test of it that is decided fails. -/
theorem evaluate_of_faulty {test : Test} {fault : Pattern.Fault} {b : Bindings} {s t : RunState}
    {holds : Bool} (hmatches : test.operator = some "matches")
    (hfaulty : Pattern.parse test.value.text = .error (.faulty fault))
    (hrun : test.evaluate b s = (.ok holds, t)) : holds = false := by
  unfold evaluate at hrun
  rcases hsubject : test.subject b s with ⟨failure | v, u⟩
  · rw [Run.bind_of_error hsubject] at hrun
    cases hrun
  · rw [Run.bind_of_ok hsubject, hmatches] at hrun
    simp only [matchesPattern, hfaulty] at hrun
    split at hrun
    · split at hrun
      · cases hwriting : test.value.writing with
        | error failure =>
            rw [hwriting, Run.liftM_error_bind] at hrun
            cases hrun
        | ok =>
            rw [hwriting, Run.liftM_ok_bind] at hrun
            cases hrun
            rfl
      · cases hrun
        rfl
    · cases hrun
      rfl

end Decided

section Undecided

variable {test : Test}

/-- A test that searches the empty text for that of a value that cannot be written. -/
theorem evaluate_of_unwritable (hwrites : test.WritesValue)
    (hunwritable : ¬test.value.isWritable = true) {b : Bindings} {s t : RunState}
    (hsubject : test.subject b s = (.ok (.str ""), t)) :
    test.evaluate b s = (.error .integerTooLong, t) := by
  rw [Bool.not_eq_true] at hunwritable
  have hwriting : test.value.writing = .error .integerTooLong :=
    Value.writing_eq_error_iff.mpr ⟨hunwritable, rfl⟩
  have htruthy : test.value.isTruthy = true := by
    by_contra hfalse
    rw [Bool.not_eq_true] at hfalse
    rw [Value.isWritable_of_not_isTruthy hfalse] at hunwritable
    cases hunwritable
  obtain ⟨operator, hoperator, hmem⟩ := hwrites
  unfold evaluate
  rw [Run.bind_of_ok hsubject, hoperator]
  simp only [searchOperators, List.mem_cons, List.not_mem_nil, or_false] at hmem
  obtain rfl | rfl | rfl | rfl := hmem
  · simp only [matchesPattern, htruthy, if_true, hwriting, Run.liftM_error_bind]
    rfl
  all_goals
    simp only [writeSought, searchOperators, Value.str?, hwriting]
    rfl

/-- **A test that is always decided is sound**: if it is not, some bindings lead it to where
it fails. -/
theorem sound_of_completes (h : ∀ b, Run.Completes (test.evaluate b)) : test.Sound := by
  have htext : test.WritesValue → test.ReadsBindings → test.value.isWritable = true := by
    intro hwrites hreads
    by_contra hunwritable
    obtain ⟨b, hsubject⟩ := exists_subject_text hreads ""
    obtain ⟨t, ht⟩ := hsubject { generator := .congruential 0 }
    exact Run.not_completes (evaluate_of_unwritable hwrites hunwritable ht) (h b)
  refine ⟨?_, htext, ?_⟩
  · intro id hvariable segment hsegment
    by_contra hspelled
    obtain ⟨v, failure, hfails⟩ := Value.exists_resolve_error hsegment hspelled
    let b : Bindings := { vars := [(id, v)] }
    have hvalue : b.variableOf id = v := by
      simp [b, Bindings.variableOf, Entries.getD]
    obtain ⟨t, hread⟩ := Run.exists_readVariable b id { generator := .congruential 0 }
    have hsubject : test.subject b { generator := .congruential 0 } = (.error failure, t) := by
      unfold subject
      simp only [hvariable]
      rw [Run.bind_of_ok hread, hvalue, hfails]
      rfl
    have hevaluate : test.evaluate b { generator := .congruential 0 } = (.error failure, t) := by
      unfold evaluate
      exact Run.bind_of_error hsubject
    exact Run.not_completes hevaluate (h b)
  · intro hmatches htruthy hreads failure hfailed
    have hwriting : test.value.writing = .ok () :=
      Value.writing_of_isWritable (htext ⟨"matches", hmatches, List.mem_cons_self⟩ hreads)
    obtain ⟨b, hsubject⟩ := exists_subject_text hreads ""
    obtain ⟨t, ht⟩ := hsubject { generator := .congruential 0 }
    have hevaluate : test.evaluate b { generator := .congruential 0 } = (.error failure, t) := by
      unfold evaluate
      rw [Run.bind_of_ok ht, hmatches]
      simp only [matchesPattern, htruthy, if_true, hwriting, hfailed, Run.liftM_ok_bind]
      rfl
    exact absurd (h b) (Run.not_completes hevaluate)

/-- **Exactly the sound tests are decided under all bindings**, of those for which there is
room. -/
theorem completes_iff_sound (hfits : test.Fits) :
    (∀ b, Run.Completes (test.evaluate b)) ↔ test.Sound :=
  ⟨sound_of_completes, fun h b => h.completes hfits b⟩

end Undecided

end Test

/-! ## Conditions -/

namespace Condition

mutual

/-- The tests that a condition may come to. -/
def tests : Condition → List Test
  | .mk test all any negated =>
    match all with
    | some conditions => testsOf conditions
    | none =>
      match any with
      | some conditions => testsOf conditions
      | none =>
        match negated with
        | some condition => tests condition
        | none => [test]

/-- The tests that conditions may come to. -/
def testsOf : List Condition → List Test
  | [] => []
  | condition :: rest => tests condition ++ testsOf rest

end

mutual

/-- How deep conditions are nested in a condition, of those that it may come to. -/
def depth : Condition → Nat
  | .mk _ all any negated =>
    match all with
    | some conditions => depthOfAll conditions + 1
    | none =>
      match any with
      | some conditions => depthOfAll conditions + 1
      | none =>
        match negated with
        | some condition => depth condition + 1
        | none => 0

/-- The greatest depth of conditions. -/
def depthOfAll : List Condition → Nat
  | [] => 0
  | condition :: rest => max (depth condition) (depthOfAll rest)

end

variable [limits : NestingLimits]

/-- **There is room for the condition**: for following the conditions in it, and for each of
its tests. -/
structure Fits (condition : Condition) : Prop where
  nesting : condition.depth ≤ limits.values
  tests : ∀ test ∈ condition.tests, test.Fits

mutual

/-- **A condition is decided if its tests are sound**, and fit. -/
theorem evaluate_completes (b : Bindings) :
    ∀ condition : Condition, (∀ test ∈ condition.tests, test.Sound ∧ test.Fits) →
      Run.Completes (condition.evaluate b)
  | .mk _ (some conditions) _ _, h => by
      simp only [evaluate]
      simp only [tests] at h
      exact evaluateAll_completes b conditions h
  | .mk _ none (some conditions) _, h => by
      simp only [evaluate]
      simp only [tests] at h
      exact evaluateAny_completes b conditions h
  | .mk _ none none (some condition), h => by
      simp only [evaluate]
      simp only [tests] at h
      exact (evaluate_completes b condition h).bind fun _ => Run.completes_pure _
  | .mk test none none none, h => by
      simp only [evaluate]
      simp only [tests] at h
      obtain ⟨hsound, hfits⟩ := h test List.mem_cons_self
      exact hsound.completes hfits b

theorem evaluateAll_completes (b : Bindings) :
    ∀ conditions : List Condition, (∀ test ∈ testsOf conditions, test.Sound ∧ test.Fits) →
      Run.Completes (evaluateAll conditions b)
  | [], _ => Run.completes_pure true
  | condition :: rest, h => by
      rw [testsOf, List.forall_mem_append] at h
      simp only [evaluateAll]
      refine (evaluate_completes b condition h.1).bind fun holds => ?_
      cases holds with
      | true => exact evaluateAll_completes b rest h.2
      | false => exact Run.completes_pure false

theorem evaluateAny_completes (b : Bindings) :
    ∀ conditions : List Condition, (∀ test ∈ testsOf conditions, test.Sound ∧ test.Fits) →
      Run.Completes (evaluateAny conditions b)
  | [], _ => Run.completes_pure false
  | condition :: rest, h => by
      rw [testsOf, List.forall_mem_append] at h
      simp only [evaluateAny]
      refine (evaluate_completes b condition h.1).bind fun holds => ?_
      cases holds with
      | true => exact Run.completes_pure true
      | false => exact evaluateAny_completes b rest h.2

end

end Condition

/-- **Conditions are decided but for tests that are not sound.**  Let there be room for a
condition.

* If its tests are sound, the condition holds or does not, whatever the bindings are and
  whatever was recorded before.
* Of its tests, exactly those are decided under all bindings that are sound: the path from
  the variable has no segment of digits that spells no number, the value can be written if a
  text is searched for it, and the pattern is not refused otherwise than for a fault of it.
* The value of a variable for a sound test is at the end of the path, and it is missing if
  the path does not apply.
* A sound test that matches a faulty pattern does not hold. -/
theorem condition_decided [NestingLimits] {condition : Condition} (hfits : condition.Fits) :
    ((∀ test ∈ condition.tests, test.Sound) →
      ∀ b s, ∃ holds t, condition.evaluate b s = (.ok holds, t)) ∧
    ∀ test ∈ condition.tests,
      (test.Sound ↔ ∀ b s, ∃ holds t, test.evaluate b s = (.ok holds, t)) ∧
      (test.Sound → ∀ id, test.variableId.filter (!·.isEmpty) = some id →
        ∀ b s, ∃ t, test.subject b s =
          (.ok (((b.variableOf id).descend? (Value.segments test.path)).getD .null), t)) ∧
      (test.Sound → test.operator = some "matches" →
        ∀ fault, Pattern.parse test.value.text = .error (.faulty fault) →
          ∀ b s, ∃ t, test.evaluate b s = (.ok false, t)) := by
  refine ⟨fun hsound b => ?_, fun test htest => ⟨?_, ?_, ?_⟩⟩
  · exact condition.evaluate_completes b fun test htest =>
      ⟨hsound test htest, hfits.tests test htest⟩
  · exact (Test.completes_iff_sound (hfits.tests test htest)).symm
  · intro hsound id hvariable b s
    exact hsound.subject_eq hvariable b s
  · intro hsound hmatches fault hfaulty b s
    obtain ⟨holds, t, hrun⟩ := hsound.completes (hfits.tests test htest) b s
    obtain rfl := Test.evaluate_of_faulty hmatches hfaulty hrun
    exact ⟨t, hrun⟩

/-- A test of the first item of a list. -/
def firstItem : Test :=
  { variableId := some "items", path := some "0", operator := some "exists" }

/-- The test of the first item is decided, also where there is no such item. -/
theorem condition_decided_firstItem :
    let condition := Condition.mk firstItem none none none
    condition.Fits ∧ (∀ test ∈ condition.tests, test.Sound) ∧
      (∀ b s, ∃ holds t, condition.evaluate b s = (.ok holds, t)) ∧
      ∀ s, ∃ t, firstItem.subject { vars := [("items", .list [])] } s = (.ok .null, t) := by
  intro condition
  have hpath : ∀ segment ∈ Value.segments firstItem.path, Value.SpellsPosition segment := by
    intro segment hsegment
    obtain rfl : segment = "0" := List.mem_singleton.mp hsegment
    exact fun _ => ⟨rfl, by decide⟩
  have hsound : firstItem.Sound := by
    refine ⟨fun _ _ => hpath, ?_, nofun⟩
    rintro ⟨operator, hoperator, hsearches⟩
    cases hoperator
    exact absurd hsearches (by decide)
  have hfits : condition.Fits :=
    ⟨Nat.zero_le _, fun test htest => List.mem_singleton.mp htest ▸ ⟨Nat.zero_le _, nofun⟩⟩
  have htests : ∀ test ∈ condition.tests, test.Sound :=
    fun test htest => List.mem_singleton.mp htest ▸ hsound
  obtain ⟨hdecided, hall⟩ := condition_decided hfits
  obtain ⟨-, hsubject, -⟩ := hall firstItem List.mem_cons_self
  exact ⟨hfits, htests, hdecided htests, hsubject hsound "items" rfl _⟩

/-- Not all conditions are decided.  A superscript two is a digit and spells no number, which
a list is asked for; and a bound of a repetition may be too large for a pattern. -/
theorem condition_undecided :
    let ask (test : Test) (v : Value) :=
      ((Condition.mk test none none none).evaluate { vars := [("x", v)] }
        { generator := .congruential 0 }).1
    ask { variableId := some "x", path := some "²", operator := some "exists" } (.list [.int 1]) =
        .error (.notDecimal "²") ∧
      ask { variableId := some "x", operator := some "matches", value := .str "a{99999999999}" }
        (.str "a") = .error .repetitionTooLarge ∧
      ¬∀ condition b s, ∃ holds t, Condition.evaluate condition b s = (.ok holds, t) := by
  intro ask
  have hpath : ask { variableId := some "x", path := some "²", operator := some "exists" }
      (.list [.int 1]) = .error (.notDecimal "²") := by
    decide +kernel
  refine ⟨hpath, by decide +kernel, fun hall => ?_⟩
  obtain ⟨holds, t, hrun⟩ := hall
    (.mk { variableId := some "x", path := some "²", operator := some "exists" } none none none)
    { vars := [("x", .list [.int 1])] } { generator := .congruential 0 }
  have hok : ask { variableId := some "x", path := some "²", operator := some "exists" }
      (.list [.int 1]) = .ok holds := congrArg Prod.fst hrun
  rw [hpath] at hok
  cases hok

end PromptTree
