import PromptTree.Content.Dump
import PromptTree.Content.Reader
import PromptTree.Proofs.Schema.Writing

/-!
# Parts of nodes that are written and read again

Formats, counts, cases and phrases are read from their documents as they were
(`Format.read_dump` and its kin).  Conditions are so up to the values that they compare
with, which come back as JSON can carry them (`Condition.read_dump`).

A condition may hold conditions in three places, two of them lists.  `Condition.induction`
is the induction with these as members, so that the proofs have one case.

## Main Definitions

* `Condition.values`, `Condition.mapValues` — the values that a condition compares with.
-/

namespace PromptTree

open Schema

/-! ## Formats -/

theorem Format.read_dump (f : Format) : read f.dump = .ok f := by
  have hcase : Schema.optional (present f.fields) "case" (oneOf LetterCase.names) =
      .ok f.letterCase := by
    refine optional_self "case" _ (fun c => .str c.name) (by simp [fields]) (fun _ => rfl) ?_
    intro c
    cases c with
    | _ => rfl
  have hreplace : Schema.optional (present f.fields) "replace" (Schema.list Replacement.read) =
      .ok f.replacements :=
    optional_self "replace" _ (fun rs => .list (rs.map Replacement.dump)) (by simp [fields])
      (fun _ => rfl) fun rs => list_self Replacement.dump fun _ _ => rfl
  have htruncate : Schema.optional (present f.fields) "truncate"
      (fun v => (atLeast 0 v).map Int.toNat) = .ok f.limit := by
    have hlookup : (present f.fields).lookup "truncate" = f.limit.map fun n => .int n := by
      cases hlimit : f.limit with
      | _ => simp [fields, hlimit]
    refine optional_self "truncate" _ _ hlookup (fun _ => rfl) fun n => ?_
    rw [atLeast_of_le (Int.natCast_nonneg n)]
    rfl
  simp only [read, dump, recordOf, record, Value.entries?]
  rw [withDefault_of_lookup "trim" (by simp [fields]) (boolean_bool f.trim), hcase, hreplace,
    htruncate, optional_string "prefix" f.before (by simp [fields]),
    optional_string "suffix" f.after (by simp [fields]),
    optional_string "placeholder" f.placeholder (by simp [fields])]
  rfl

/-! ## Conditions -/

namespace Condition

mutual

/-- The values that a condition and the conditions in it compare with. -/
def values : Condition → List Value
  | .mk test all any negated =>
    test.value :: ((match all with
      | some conditions => valuesOf conditions
      | none => []) ++ (match any with
      | some conditions => valuesOf conditions
      | none => []) ++ match negated with
      | some condition => values condition
      | none => [])

/-- The values that conditions compare with. -/
def valuesOf : List Condition → List Value
  | [] => []
  | condition :: rest => values condition ++ valuesOf rest

end

mutual

/-- The condition with other values to compare with. -/
def mapValues (f : Value → Value) : Condition → Condition
  | .mk test all any negated =>
    .mk { test with value := f test.value }
      (match all with
        | some conditions => some (mapValuesOf f conditions)
        | none => none)
      (match any with
        | some conditions => some (mapValuesOf f conditions)
        | none => none)
      (match negated with
        | some condition => some (mapValues f condition)
        | none => none)

/-- Conditions with other values to compare with. -/
def mapValuesOf (f : Value → Value) : List Condition → List Condition
  | [] => []
  | condition :: rest => mapValues f condition :: mapValuesOf f rest

end

/-- Induction on conditions, with the conditions in a condition as members of its lists. -/
theorem induction {P : Condition → Prop}
    (h : ∀ test all any negated, (∀ conditions ∈ all, ∀ part ∈ conditions, P part) →
      (∀ conditions ∈ any, ∀ part ∈ conditions, P part) → (∀ part ∈ negated, P part) →
        P (.mk test all any negated)) (condition : Condition) : P condition := by
  induction hsize : sizeOf condition using Nat.strongRecOn generalizing condition with
  | _ size ih =>
      obtain ⟨test, all, any, negated⟩ := condition
      subst hsize
      refine h test all any negated (fun conditions hall part hpart => ih _ ?_ part rfl)
        (fun conditions hany part hpart => ih _ ?_ part rfl) fun part hpart => ih _ ?_ part rfl
      · cases hall
        have hless := List.sizeOf_lt_of_mem hpart
        simp only [mk.sizeOf_spec, Option.some.sizeOf_spec]
        omega
      · cases hany
        have hless := List.sizeOf_lt_of_mem hpart
        simp only [mk.sizeOf_spec, Option.some.sizeOf_spec]
        omega
      · cases hpart
        simp only [mk.sizeOf_spec, Option.some.sizeOf_spec]
        omega

theorem forall_mem_valuesOf {P : Value → Prop} {conditions : List Condition} :
    (∀ v ∈ valuesOf conditions, P v) ↔ ∀ part ∈ conditions, ∀ v ∈ part.values, P v := by
  induction conditions with
  | nil => simp [valuesOf]
  | cons first rest ih => rw [valuesOf, List.forall_mem_append, ih, List.forall_mem_cons]

theorem forall_mem_values {P : Value → Prop} {test : Test} {all any : Option (List Condition)}
    {negated : Option Condition} :
    (∀ v ∈ (mk test all any negated).values, P v) ↔
      P test.value ∧ (∀ conditions ∈ all, ∀ part ∈ conditions, ∀ v ∈ part.values, P v) ∧
        (∀ conditions ∈ any, ∀ part ∈ conditions, ∀ v ∈ part.values, P v) ∧
          ∀ part ∈ negated, ∀ v ∈ part.values, P v := by
  cases all <;> cases any <;> cases negated <;>
    simp only [values, List.forall_mem_cons, List.forall_mem_append, forall_mem_valuesOf] <;>
    simp [and_assoc]

theorem dumps_eq_map (conditions : List Condition) : dumps conditions = conditions.map dump := by
  induction conditions with
  | nil => rfl
  | cons first rest ih => rw [dumps, ih, List.map_cons]

theorem mapValuesOf_eq_map (f : Value → Value) (conditions : List Condition) :
    mapValuesOf f conditions = conditions.map (mapValues f) := by
  induction conditions with
  | nil => rfl
  | cons first rest ih => rw [mapValuesOf, ih, List.map_cons]

theorem mapValues_mk (f : Value → Value) (test : Test) (all any : Option (List Condition))
    (negated : Option Condition) :
    mapValues f (.mk test all any negated) =
      .mk { test with value := f test.value } (all.map (·.map (mapValues f)))
        (any.map (·.map (mapValues f))) (negated.map (mapValues f)) := by
  cases all <;> cases any <;> cases negated <;> simp [mapValues, mapValuesOf_eq_map]

/-- The fields of a condition with the values they are written with. -/
def fields (test : Test) (all any : Option (List Condition)) (negated : Option Condition) :
    List (String × Option Value) :=
  [("variable", test.variableId.map .str), ("path", test.path.map .str),
   ("context_key", test.contextKey.map .str), ("operator", test.operator.map .str),
   ("value", if test.value.isNull then none else some (portable test.value)),
   ("and", all.map fun conditions => .list (conditions.map dump)),
   ("or", any.map fun conditions => .list (conditions.map dump)), ("not", negated.map dump)]

theorem dump_mk (test : Test) (all any : Option (List Condition)) (negated : Option Condition) :
    dump (.mk test all any negated) = recordOf (fields test all any negated) := by
  cases all <;> cases any <;> cases negated <;> simp [dump, dumps_eq_map, fields]

theorem isNull_dump (condition : Condition) : condition.dump.isNull = false := by
  obtain ⟨test, all, any, negated⟩ := condition
  rw [dump_mk]
  rfl

/-- A condition is written alike with other values that are. -/
theorem dump_mapValues (f : Value → Value) (condition : Condition)
    (h : ∀ v ∈ condition.values, (f v).isNull = v.isNull ∧ portable (f v) = portable v) :
    (condition.mapValues f).dump = condition.dump := by
  induction condition using Condition.induction with
  | h test all any negated hall hany hnegated =>
      obtain ⟨⟨hnull, hvalue⟩, hall', hany', hnegated'⟩ := forall_mem_values.mp h
      have hparts : ∀ parts : Option (List Condition),
          (∀ conditions ∈ parts, ∀ part ∈ conditions, (part.mapValues f).dump = part.dump) →
          (parts.map (·.map (mapValues f))).map
              (fun conditions => Value.list (conditions.map dump)) =
            parts.map fun conditions => .list (conditions.map dump) := by
        intro parts hsame
        rw [Option.map_map]
        refine Option.map_congr fun conditions hmem => ?_
        simp only [Function.comp_apply, List.map_map]
        exact congrArg Value.list (List.map_congr_left (hsame conditions hmem))
      have hnot : (negated.map (mapValues f)).map dump = negated.map dump := by
        rw [Option.map_map]
        exact Option.map_congr fun part hpart => hnegated part hpart (hnegated' part hpart)
      rw [mapValues_mk, dump_mk, dump_mk]
      simp only [fields, hnull, hvalue, hnot,
        hparts all fun conditions hc part hp =>
          hall conditions hc part hp (hall' conditions hc part hp),
        hparts any fun conditions hc part hp =>
          hany conditions hc part hp (hany' conditions hc part hp)]

/-- Functions that change the values of a condition alike change it alike. -/
theorem mapValues_congr {f g : Value → Value} (condition : Condition)
    (h : ∀ v ∈ condition.values, f v = g v) : condition.mapValues f = condition.mapValues g := by
  induction condition using Condition.induction with
  | h test all any negated hall hany hnegated =>
      obtain ⟨hvalue, hall', hany', hnegated'⟩ := forall_mem_values.mp h
      have hparts : ∀ parts : Option (List Condition),
          (∀ conditions ∈ parts, ∀ part ∈ conditions, part.mapValues f = part.mapValues g) →
          parts.map (·.map (mapValues f)) = parts.map (·.map (mapValues g)) :=
        fun parts hsame => Option.map_congr fun conditions hmem =>
          List.map_congr_left (hsame conditions hmem)
      have hnot : negated.map (mapValues f) = negated.map (mapValues g) :=
        Option.map_congr fun part hpart => hnegated part hpart (hnegated' part hpart)
      rw [mapValues_mk, mapValues_mk, hvalue, hnot,
        hparts all fun conditions hc part hp =>
          hall conditions hc part hp (hall' conditions hc part hp),
        hparts any fun conditions hc part hp =>
          hany conditions hc part hp (hany' conditions hc part hp)]

theorem mapValues_id (condition : Condition) : condition.mapValues id = condition := by
  induction condition using Condition.induction with
  | h test all any negated hall hany hnegated =>
      have hparts : ∀ parts : Option (List Condition),
          (∀ conditions ∈ parts, ∀ part ∈ conditions, part.mapValues id = part) →
          parts.map (·.map (mapValues id)) = parts := by
        intro parts hsame
        have hlists : ∀ conditions ∈ parts, conditions.map (mapValues id) = id conditions :=
          fun conditions hmem =>
            (List.map_congr_left (hsame conditions hmem)).trans (List.map_id' conditions)
        rw [Option.map_congr hlists, Option.map_id_apply]
      have hnot : negated.map (mapValues id) = negated := by
        rw [Option.map_congr (g := id) hnegated, Option.map_id_apply]
      rw [mapValues_mk, hparts all hall, hparts any hany, hnot, id_eq]

section Fields

variable (test : Test) (all any : Option (List Condition)) (negated : Option Condition)

/-- The test of a condition is read with the value that its document carries. -/
theorem read_test :
    (Test.mk <$> Schema.optional (present (fields test all any negated)) "variable" string
      <*> Schema.optional (present (fields test all any negated)) "path" string
      <*> Schema.optional (present (fields test all any negated)) "context_key" string
      <*> Schema.optional (present (fields test all any negated)) "operator" string
      <*> withDefault (present (fields test all any negated)) "value" .null anything) =
      .ok { test with value := portable test.value } := by
  have hvalue : withDefault (present (fields test all any negated)) "value" .null anything =
      .ok (portable test.value) := by
    cases hnull : test.value.isNull with
    | true =>
        have hmissing : test.value = .null := by
          cases hvalue : test.value with
          | null => rfl
          | _ =>
              rw [hvalue] at hnull
              cases hnull
        rw [hmissing]
        exact withDefault_of_missing "value" (by simp [fields, hnull])
    | false => exact withDefault_of_lookup "value" (by simp [fields, hnull]) rfl
  rw [hvalue, optional_string "variable" test.variableId (by simp [fields]),
    optional_string "path" test.path (by simp [fields]),
    optional_string "context_key" test.contextKey (by simp [fields]),
    optional_string "operator" test.operator (by simp [fields])]
  rfl

end Fields

/-- A condition is read with the values that its document carries. -/
theorem readWithin_dump {depth : Nat} {condition : Condition}
    (hdepth : condition.dump.depth < depth) :
    readWithin depth condition.dump = .ok (condition.mapValues portable) := by
  induction depth generalizing condition with
  | zero => exact absurd hdepth (Nat.not_lt_zero _)
  | succ depth ih =>
      obtain ⟨test, all, any, negated⟩ := condition
      rw [dump_mk] at hdepth ⊢
      have hbound : Value.depthOfEntries (present (fields test all any negated)) < depth :=
        Nat.lt_of_succ_lt_succ hdepth
      have hparts : ∀ {name other : String} {parts : Option (List Condition)},
          (present (fields test all any negated)).lookup name =
            parts.map (fun conditions => .list (conditions.map dump)) →
          (present (fields test all any negated)).lookup other = none →
          withDefaultAs (present (fields test all any negated)) [name, other] none
            (nullable (Schema.list (readWithin depth))) =
              .ok (parts.map (·.map (mapValues portable))) := by
        intro name other parts hname hother
        refine nullableAs_of_lookup name other _ _ hname hother (fun _ => rfl) ?_
        intro conditions hconditions
        refine list_map dump _ fun part hpart => ih ?_
        rw [hconditions] at hname
        exact Nat.lt_trans (depth_lt_of_lookup_list hname (List.mem_map_of_mem hpart)) hbound
      have hnegated : withDefaultAs (present (fields test all any negated)) ["not", "not_"] none
          (nullable (readWithin depth)) = .ok (negated.map (mapValues portable)) := by
        have hlookup : (present (fields test all any negated)).lookup "not" = negated.map dump := by
          simp [fields]
        refine nullableAs_of_lookup "not" "not_" _ _ hlookup (by simp [fields]) isNull_dump
          fun part hpart => ih ?_
        cases hpart
        exact Nat.lt_of_le_of_lt (depth_le_of_lookup hlookup) hbound
      rw [mapValues_mk]
      simp only [readWithin, readWith, record, recordOf, Value.entries?, read_test, hnegated]
      rw [@hparts "and" "and_" all (by simp [fields]) (by simp [fields]),
        @hparts "or" "or_" any (by simp [fields]) (by simp [fields])]
      rfl

theorem read_dump (condition : Condition) :
    read condition.dump = .ok (condition.mapValues portable) :=
  readWithin_dump (Nat.lt_succ_self _)

end Condition

/-! ## Counts, cases and phrases -/

theorem CaseCount.read_dump (count : CaseCount) : read count.dump = .ok count := by
  cases count with
  | _ => rfl

theorem CaseValue.read_toValue (value : CaseValue) : read value.toValue = .ok value := by
  cases value with
  | _ => rfl

theorem PickCount.read_dump {count : PickCount}
    (h : ∀ low high, count = .between low high → low ≤ high) : read count.dump = .ok count := by
  cases count with
  | exactly n => rfl
  | between low high =>
      have hle := h low high rfl
      have hmin : required [("min", .int low), ("max", .int high)] "min" (atLeast 0) =
          .ok (low : Int) :=
        required_of_lookup "min" rfl (atLeast_of_le (Int.natCast_nonneg low))
      have hmax : required [("min", .int low), ("max", .int high)] "max" (atLeast 0) =
          .ok (high : Int) :=
        required_of_lookup "max" rfl (atLeast_of_le (Int.natCast_nonneg high))
      refine orElse_of_faulty rfl (Checked.below_eq_ok.mpr ?_)
      simp only [readRange, dump, record, Value.entries?, hmin, hmax]
      change (if (high : Int) < low then _ else Checked.ok (between low high)) = _
      rw [if_neg (by omega)]

/-- Phrases are read with the variable that they were written with. -/
theorem PluralForms.readEntries_fields (countVariable : String) (forms : PluralForms) :
    readEntries (present (("type", some (.str "plural")) ::
      ("count_variable", some (.str countVariable)) :: forms.fields)) =
      .ok (countVariable, forms) := by
  have htype : oneOf [("plural", ContentTag.plural)] (.str "plural") = .ok .plural := rfl
  rw [readEntries, withDefault_of_lookup "type" (by simp) htype,
    required_of_lookup "count_variable" (by simp) (string_str countVariable),
    optional_string "zero" forms.zero (by simp [fields]),
    required_of_lookup "one" (by simp [fields]) (string_str forms.one),
    optional_string "two" forms.two (by simp [fields]),
    optional_string "few" forms.few (by simp [fields]),
    optional_string "many" forms.many (by simp [fields]),
    required_of_lookup "other" (by simp [fields]) (string_str forms.other)]
  rfl

end PromptTree
