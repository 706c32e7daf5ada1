import Mathlib.Algebra.Group.Int.Defs
import PromptTree.Proofs.Content.Returning
import PromptTree.Proofs.Content.UnknownKinds
import PromptTree.Proofs.Content.WrittenNodes

/-!
# When the check of a tree returns

The document of a tree that was read holds little that a message shows and that may be too long
to be written.  Counts of cases are integers or words, so they can be looked up; styles and
operators are texts, and weights are in floating point.  What remains are the numbers to pick and
to keep: **the check of a tree that was read returns exactly if none of them is negative and of
too many digits** (`check_returns_iff`).

## Main Definitions

* `Content.fixedCount?` — the number to pick or to keep, if a node has a fixed one.
* `Content.CountsFit` — it can be written, if it is negative.
-/

namespace PromptTree

open Findings

/-- A message about a condition that was read shows a text. -/
theorem ConditionShows.exists_str {v shown : Value} (h : ConditionShows v shown)
    {condition : Condition} (hv : v = condition.dump) : ∃ name, shown = .str name := by
  obtain ⟨test, all, any, negated⟩ := condition
  rw [Condition.dump_mk] at hv
  induction h generalizing test all any negated with
  | @operator entries alone given unknown =>
      cases hv
      have hoperator : Entries.getD (Schema.present (Condition.fields test all any negated))
          "operator" = (test.operator.map .str).getD .null := by
        simp [Entries.getD, Condition.fields]
      rw [hoperator] at given ⊢
      cases hname : test.operator with
      | none =>
          rw [hname] at given
          cases given
      | some name => exact ⟨name, rfl⟩
  | @joined entries key parts part shown joins list there deeper ih =>
      cases hv
      have hparts : ∃ conditions : List Condition, parts = conditions.map Condition.dump := by
        obtain rfl | rfl := List.mem_pair.mp joins
        · cases all with
          | none => simp [Entries.getD, Condition.fields] at list
          | some conditions =>
              exact ⟨conditions, by simpa [Entries.getD, Condition.fields] using list.symm⟩
        · cases any with
          | none => simp [Entries.getD, Condition.fields] at list
          | some conditions =>
              exact ⟨conditions, by simpa [Entries.getD, Condition.fields] using list.symm⟩
      obtain ⟨conditions, rfl⟩ := hparts
      obtain ⟨⟨test', all', any', negated'⟩, -, rfl⟩ := List.mem_map.mp there
      exact ih test' all' any' negated' (Condition.dump_mk ..)
  | @negated entries shown given deeper ih =>
      cases hv
      have hnot : Entries.getD (Schema.present (Condition.fields test all any negated)) "not" =
          (negated.map Condition.dump).getD .null := by
        simp [Entries.getD, Condition.fields]
      rw [hnot] at given ih
      cases negated with
      | none => cases given
      | some part =>
          obtain ⟨test', all', any', negated'⟩ := part
          exact ih test' all' any' negated' (Condition.dump_mk ..)

namespace Content

/-- The number to pick or to keep, if a node has a fixed one. -/
def fixedCount? : Content → Option Int
  | .pickMany _ (.exactly n) _ _ => some n
  | .shuffle _ count _ _ => count
  | _ => none

/-- The fixed number to pick or to keep has no more digits than are written, if it is negative. -/
def CountsFit (content : Content) : Prop :=
  ∀ n ∈ content.fixedCount?, -10 ^ Numeral.digitLimit < n

section Nodes

variable {content : Content} {tag : ContentTag} {shown : Value} {failure : Failure}

/-- An object in the field for nodes with labels is a label and a node. -/
theorem exists_of_mem_labelled (htag : content.tag? = some tag) (field : CaseField)
    {cases : List ((String × Value) × Content)} (hcases : content.labelled? field = some cases)
    {fields : Entries} (h : .object fields ∈ (listField content.entries field.name).1) :
    ∃ case ∈ cases, fields = [case.1, ("content", case.2.dump)] := by
  have hlookup := lookup_labelled htag field
  rw [hcases] at hlookup
  rw [listField_of_lookup hlookup] at h
  obtain ⟨case, hcase, heq⟩ := List.mem_map.mp h
  exact ⟨case, hcase, (Value.object.inj heq).symm⟩

/-- The count of a case that was read is an integer or a word. -/
theorem exists_caseCount {countVariable : String} {cases : List (CaseCount × Content)}
    {otherwise : Option Content} {fields : Entries}
    (h : .object fields ∈
      (listField (countSwitch countVariable cases otherwise).entries "cases").1) :
    ∃ count : CaseCount, Entries.getD fields "count" = count.dump := by
  obtain ⟨labelled, hlabelled, rfl⟩ := exists_of_mem_labelled rfl .cases rfl h
  obtain ⟨case, -, rfl⟩ := List.mem_map.mp hlabelled
  exact ⟨case.1, rfl⟩

/-- The number to pick in the document of a node. -/
theorem getD_count_pickMany {candidates : List Content} {count : PickCount}
    {separatorSet : Option String} {allowDuplicates : Bool} :
    Entries.getD (pickMany candidates count separatorSet allowDuplicates).entries "count" =
      count.dump := by
  simp [Entries.getD, entries, dump, entries_node]

/-- The number to keep in the document of a node. -/
theorem getD_count_shuffle {variableId : String} {count : Option Int}
    {separatorSet : Option String} {template : Option Content} :
    Entries.getD (shuffle variableId count separatorSet template).entries "count" =
      (count.map .int).getD .null := by
  simp [Entries.getD, entries, dump, entries_node]

/-- What is shown about a condition or a node that was read is a text, a number in floating point
or a fixed count that is negative. -/
theorem shown_of_kindShows (htag : content.tag? = some tag) (hlegible : content.Legible)
    (h : KindShows tag content.entries shown) :
    (∃ name, shown = .str name) ∨ (∃ w, shown = .float w) ∨
      ∃ n ∈ content.fixedCount?, n < 0 ∧ shown = .int n := by
  cases content with
  | conditional condition yes no =>
      cases htag
      cases h with
      | operator hshows =>
          have hdump : Entries.getD (conditional condition yes no).entries "condition" =
              condition.dump := by
            simp [Entries.getD, entries, dump, entries_node]
          exact .inl (hshows.exists_str hdump)
  | article wordVariable word style capitalize =>
      cases htag
      cases h with
      | style given unknown =>
          exact .inl ⟨style.name, by simp [Entries.getD, entries, dump, entries_node]⟩
  | countSwitch countVariable cases otherwise =>
      cases htag
      cases h with
      | caseCount hcase hashable noInteger unknown =>
          obtain ⟨count, hcount⟩ := exists_caseCount hcase
          rw [hcount] at noInteger ⊢
          cases count with
          | exactly n => exact absurd rfl (noInteger n)
          | _ => exact .inl ⟨_, rfl⟩
  | weightedPick options =>
      cases htag
      cases h with
      | optionWeight hoption faulty =>
          obtain ⟨labelled, hlabelled, rfl⟩ := exists_of_mem_labelled rfl .options rfl hoption
          obtain ⟨option, -, rfl⟩ := List.mem_map.mp hlabelled
          exact .inr (.inl ⟨option.1, rfl⟩)
  | pickOne candidates weights =>
      cases htag
      cases h with
      | weight list there faulty =>
          have hweights : Entries.getD (pickOne candidates weights).entries "weights" =
              (weights.map fun ws => .list (ws.map .float)).getD .null := by
            simp [Entries.getD, entries, dump, entries_node]
          rw [hweights] at list
          cases weights with
          | none => cases list
          | some ws =>
              cases list
              obtain ⟨w, -, rfl⟩ := List.mem_map.mp there
              exact .inr (.inl ⟨w, rfl⟩)
  | pickMany candidates count separatorSet allowDuplicates =>
      cases htag
      cases h with
      | pickCount given fixed faulty =>
          rw [getD_count_pickMany] at fixed faulty ⊢
          cases count with
          | exactly n => exact .inr (.inr ⟨n, rfl, faulty n rfl, rfl⟩)
          | between low high => cases fixed
      | range object hmin hmax notNegative reversed either =>
          rw [getD_count_pickMany] at object
          -- a range that was read is in order, so it is not shown
          cases count with
          | exactly n => cases object
          | between low high =>
              cases object
              cases hmin
              cases hmax
              have hle : low ≤ high := hlegible
              omega
  | shuffle variableId count separatorSet template =>
      cases htag
      cases h with
      | shuffleCount given faulty =>
          rw [getD_count_shuffle] at given faulty ⊢
          cases count with
          | none => cases given
          | some n => exact .inr (.inr ⟨n, rfl, faulty n rfl, rfl⟩)
  | unknown _ _ => cases htag
  | _ =>
      cases htag
      cases h

theorem kindShows_fixedCount {n : Int} (h : n ∈ content.fixedCount?) (hnegative : n < 0) :
    ∃ tag, content.tag? = some tag ∧ KindShows tag content.entries (.int n) := by
  have hfaulty : ∀ {v : Value}, v = .int n → ∀ m, v = .int m → m < 0 := by
    rintro _ rfl m ⟨⟩
    exact hnegative
  cases content with
  | pickMany candidates count separatorSet allowDuplicates =>
      cases count with
      | between low high => cases h
      | exactly m =>
          cases h
          have hcount : Entries.getD (pickMany candidates (.exactly n) separatorSet
              allowDuplicates).entries "count" = .int n :=
            getD_count_pickMany
          refine ⟨_, rfl, hcount ▸ .pickCount ?_ ?_ (hfaulty hcount)⟩
          · rw [hcount]
            rfl
          · rw [hcount]
            rfl
  | shuffle variableId count separatorSet template =>
      cases h
      have hcount : Entries.getD (shuffle variableId (some n) separatorSet template).entries
          "count" = .int n :=
        getD_count_shuffle
      refine ⟨_, rfl, hcount ▸ .shuffleCount ?_ (hfaulty hcount)⟩
      rw [hcount]
      rfl
  | _ => cases h

/-- A fixed count does not fit if it is negative and cannot be written. -/
theorem not_countsFit_iff :
    ¬content.CountsFit ↔
      ∃ n ∈ content.fixedCount?, n < 0 ∧ (Value.int n).isWritable = false := by
  have hlong : ∀ n : Int, ¬-10 ^ Numeral.digitLimit < n ↔
      n < 0 ∧ (Value.int n).isWritable = false := by
    intro n
    have hpos : 0 < 10 ^ Numeral.digitLimit := Nat.pow_pos (by decide)
    have hcast : ((10 ^ Numeral.digitLimit : Nat) : Int) = 10 ^ Numeral.digitLimit :=
      Int.natCast_pow 10 Numeral.digitLimit
    rw [Value.isWritable, Bool.eq_false_iff, ne_eq, Numeral.isWritable_iff_lt_pow, ← hcast]
    generalize 10 ^ Numeral.digitLimit = bound at hpos
    omega
  simp only [CountsFit, not_forall, hlong, exists_prop]

/-- **The check of a node that was read fails in its fixed count**, and in nothing else. -/
theorem fails_dump (hlegible : content.Legible) :
    Fails (nodePieces content.dump) failure ↔ ¬content.CountsFit ∧ failure = .integerTooLong := by
  rw [not_countsFit_iff]
  cases htag : content.tag? with
  | none =>
      cases content with
      | unknown tag fields =>
          have htype : (Entries.getD (taggedFields tag (reshapedFields Schema.portable fields))
              "type").isWritable = true := by
            rw [Entries.getD, lookup_taggedFields tag (ne_type_of_mem_reshapedFields hlegible)]
            cases tag with
            | _ => rfl
          rw [dump_unknown, fails_unknown (ofValue?_taggedFields hlegible),
            Value.writing_of_isWritable htype]
          refine iff_of_false (fun hok => ?_) ?_
          · cases hok
          · rintro ⟨⟨n, hn, -⟩, -⟩
            cases hn
      | _ => cases htag
  | some tag =>
      rw [dump_eq_object, fails_known (entries_of_tag htag).1, fails_kind]
      constructor
      · rintro (⟨rfl, fields, hcase, kind, hkind, -⟩ | ⟨shown, hshows, hlong⟩)
        · cases content with
          | countSwitch countVariable cases otherwise =>
              obtain ⟨count, hcount⟩ := exists_caseCount hcase
              rw [hcount] at hkind
              cases count with
              | _ => cases hkind
          | _ => cases htag
        · obtain ⟨hwritable, hfailure⟩ := Value.writing_eq_error_iff.mp hlong
          obtain ⟨name, rfl⟩ | ⟨w, rfl⟩ | ⟨n, hn, hnegative, rfl⟩ :=
            shown_of_kindShows htag hlegible hshows
          · cases hwritable
          · cases hwritable
          · exact ⟨⟨n, hn, hnegative, hwritable⟩, hfailure⟩
      · rintro ⟨⟨n, hn, hnegative, hlong⟩, rfl⟩
        obtain ⟨other, hother, hshows⟩ := kindShows_fixedCount hn hnegative
        cases htag.symm.trans hother
        exact .inr ⟨_, hshows, Value.writing_eq_error_iff.mpr ⟨hlong, rfl⟩⟩

end Nodes

/-- **The check of a tree that was read returns exactly if the fixed counts in it fit**, by
induction on the tree. -/
theorem check_returns_iff {content : Content} (hlegible : content.Everywhere Legible) :
    (∃ problems, content.check = .ok problems) ↔ content.Everywhere CountsFit := by
  induction hlegible with
  | @node content own _ ih =>
      have hperm := documents_dump own
      rw [check, checkContent_eq_collect, collect_returns_iff]
      constructor
      · rintro ⟨hown, hparts⟩
        refine .node ?_ fun child hchild => (ih child hchild).mp (hparts _ ?_)
        · by_contra hlong
          exact hown _ ((fails_dump own).mpr ⟨hlong, rfl⟩)
        · exact hperm.mem_iff.mpr (List.mem_map_of_mem hchild)
      · rintro ⟨hfits, hbelow⟩
        refine ⟨fun failure hfails => ((fails_dump own).mp hfails).1 hfits, fun part hpart => ?_⟩
        obtain ⟨child, hchild, rfl⟩ := List.mem_map.mp (hperm.mem_iff.mp hpart)
        exact (ih child hchild).mpr (hbelow child hchild)

end Content

end PromptTree
