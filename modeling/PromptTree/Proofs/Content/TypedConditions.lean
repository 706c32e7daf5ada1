import PromptTree.Proofs.Content.FieldTypes
import PromptTree.Proofs.Schema.Reading

/-!
# Conditions of the right types

A condition in which the check finds nothing can be read exactly if the values in it are of
the right types (`isOk_read_condition`): what a test takes its value from, and its operator,
are texts.  All else that the reader asks, the check has settled: conditions are objects,
and those that are joined stand in lists.

The reader knows the keys that join conditions by a second name as well, which the check
does not.  What stands under such a name was not checked, so it has to be fit to be read.

## Main Definitions

* `Entries.AliasFits` — what stands under the second name of a key is fit to be read.
* `conditionsBelow` — the conditions right below a condition.
* `Value.WellTypedCondition` — the values in a condition are of the right types.
-/

namespace PromptTree

open Schema

/-! ## Reading at any depth -/

namespace Condition

/-- Conditions are read alike if those in them are. -/
theorem readWith_congr {part part' : Reader Condition} {entries : Entries}
    (h : ∀ v : Value, v.depth ≤ Value.depthOfEntries entries → part v = part' v) :
    readWith part (.object entries) = readWith part' (.object entries) := by
  have hlist : ∀ v : Value, v.depth ≤ Value.depthOfEntries entries →
      nullable (Schema.list part) v = nullable (Schema.list part') v := by
    intro v hdepth
    refine nullable_congr (list_congr fun item hitem => ?_)
    exact h item (Nat.le_trans (Nat.le_of_lt hitem) hdepth)
  simp only [readWith, record_object]
  rw [withDefaultAs_congr hlist, withDefaultAs_congr hlist,
    withDefaultAs_congr fun v hdepth => nullable_congr (h v hdepth)]

/-- How deep a reader goes does not matter, if it is deep enough. -/
theorem readWithin_congr {depth depth' : Nat} {v : Value} (h : v.depth < depth)
    (h' : v.depth < depth') : readWithin depth v = readWithin depth' v := by
  induction depth generalizing depth' v with
  | zero => exact absurd h (Nat.not_lt_zero _)
  | succ depth ih =>
      cases depth' with
      | zero => exact absurd h' (Nat.not_lt_zero _)
      | succ depth' =>
          rw [readWithin, readWithin]
          cases v with
          | object entries =>
              rw [Value.depth] at h h'
              exact readWith_congr fun u hdepth => ih (by omega) (by omega)
          | _ => rfl

/-- A condition is read by reading the conditions in it. -/
theorem read_object (entries : Entries) :
    read (.object entries) = readWith read (.object entries) := by
  rw [read, readWithin]
  refine readWith_congr fun v hdepth => readWithin_congr ?_ (Nat.lt_succ_self _)
  rw [Value.depth]
  omega

end Condition

/-! ## Keys with two names -/

/-- If there is nothing under a key, then what stands under its second name is `null`, or fit
to be read. -/
def Entries.AliasFits {α : Type} (entries : Entries) (key second : String) (read : Reader α) :
    Prop :=
  entries.lookup key = none →
    ((entries.lookup second).all fun v => v.isNull || (read v).isOk) = true

instance {α : Type} (entries : Entries) (key second : String) (read : Reader α) :
    Decidable (entries.AliasFits key second read) :=
  inferInstanceAs (Decidable (_ = none → _ = true))

theorem isOk_withAlias {α : Type} {entries : Entries} {read : Reader α} (key second : String) :
    (withDefaultAs entries [key, second] none (nullable read)).isOk = true ↔
      ((entries.lookup key).all fun v => v.isNull || (read v).isOk) = true ∧
        entries.AliasFits key second read := by
  rw [isOk_withDefaultAs]
  unfold Entries.AliasFits entry? Entries.get?
  cases entries.lookup key with
  | some v => simp
  | none =>
      unfold entry? Entries.get?
      cases entries.lookup second with
      | some v => simp
      | none => simp only [Option.all_none, entry?, implies_true, and_self]

/-! ## Well-typed conditions -/

/-- The conditions right below a condition. -/
def conditionsBelow (entries : Entries) : List Value :=
  (listField entries "and").1 ++ (listField entries "or").1 ++ Entries.given entries "not"

/-- The values in a condition are of the right types. -/
inductive Value.WellTypedCondition : Value → Prop where
  | object {entries : Entries} (test : entries.Fit testTypes)
      (all : entries.AliasFits "and" "and_" (Schema.list Condition.read))
      (any : entries.AliasFits "or" "or_" (Schema.list Condition.read))
      (negated : entries.AliasFits "not" "not_" Condition.read)
      (below : ∀ part ∈ conditionsBelow entries, part.WellTypedCondition) :
      (Value.object entries).WellTypedCondition

section Checks

variable {check : Value → Findings} {entries : Entries}

/-- Conditions under a key, if the check finds nothing in them. -/
theorem isOk_joined {key : String} (h : (checkJoined check key (Entries.getD entries key)).Clean) :
    (∀ v ∈ (listField entries key).1, (check v).Clean) ∧
    ∀ part : Reader Condition,
      ((entries.lookup key).all fun v => v.isNull || (Schema.list part v).isOk) = true ↔
        ∀ v ∈ (listField entries key).1, (part v).isOk = true := by
  unfold listField Entries.getD at *
  cases hlookup : entries.lookup key with
  | none => simp
  | some v =>
      rw [hlookup, Option.getD_some] at h
      cases v with
      | null => simp [Value.isNull]
      | list items =>
          cases items with
          | nil => simp [checkJoined] at h
          | cons first rest => simpa [Value.isNull, Value.items?, checkJoined] using h
      | _ => simp [checkJoined] at h

/-- One level: a condition is read if its fields are of the right types and the conditions
in it are read; and the check goes into all of these. -/
theorem isOk_readWith_condition {v : Value} (h : (checkConditionWith check v).Clean) :
    ∃ entries : Entries, v = .object entries ∧
      (∀ u ∈ conditionsBelow entries, (check u).Clean) ∧
      ∀ part : Reader Condition, (Condition.readWith part v).isOk = true ↔
        entries.Fit testTypes ∧ entries.AliasFits "and" "and_" (Schema.list part) ∧
          entries.AliasFits "or" "or_" (Schema.list part) ∧
          entries.AliasFits "not" "not_" part ∧
          ∀ u ∈ conditionsBelow entries, (part u).isOk = true := by
  cases v with
  | object entries =>
      simp only [checkConditionWith, Findings.clean_gather_cons] at h
      obtain ⟨hall, hany, hnegated, -⟩ := h
      refine ⟨entries, rfl, ?_, fun part => ?_⟩
      · rw [conditionsBelow, List.forall_mem_append, List.forall_mem_append]
        refine ⟨⟨(isOk_joined hall).1, (isOk_joined hany).1⟩, ?_⟩
        rw [Entries.given_eq]
        split
        · exact List.forall_mem_nil _
        · rename_i hgiven
          rw [if_neg hgiven, Findings.clean_below] at hnegated
          exact List.forall_mem_singleton.mpr hnegated
      · rw [conditionsBelow, List.forall_mem_append, List.forall_mem_append,
          ← (isOk_joined hall).2, ← (isOk_joined hany).2, all_given fun u => (part u).isOk]
        simp only [Condition.readWith, record_object, Checked.isOk_seq, Checked.isOk_fmap,
          Bool.and_eq_true, isOk_withAlias]
        simp [testTypes, FieldType.admits, anything, and_assoc, and_comm, and_left_comm]
  | _ => exact absurd h (Findings.not_clean_found _)

end Checks

/-- **A condition without flaws is read exactly if it is well typed.** -/
theorem isOk_read_condition {v : Value} (h : (checkCondition v).Clean) :
    (Condition.read v).isOk = true ↔ v.WellTypedCondition := by
  have hwithin : ∀ depth v, (checkConditionWithin depth v).Clean →
      ((Condition.read v).isOk = true ↔ v.WellTypedCondition) := by
    intro depth
    induction depth with
    | zero => exact fun v h => nomatch h
    | succ depth ih =>
        intro v h
        obtain ⟨entries, rfl, hbelow, hread⟩ := isOk_readWith_condition h
        rw [Condition.read_object, hread]
        constructor
        · rintro ⟨htest, hall, hany, hnegated, hparts⟩
          exact .object htest hall hany hnegated fun u hu => (ih u (hbelow u hu)).mp (hparts u hu)
        · rintro ⟨htest, hall, hany, hnegated, hparts⟩
          exact ⟨htest, hall, hany, hnegated, fun u hu => (ih u (hbelow u hu)).mpr (hparts u hu)⟩
  exact hwithin _ v h

end PromptTree
