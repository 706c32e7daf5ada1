import PromptTree.Content.Check
import PromptTree.Content.Reader
import PromptTree.Proofs.Schema.Acceptance
import PromptTree.Proofs.Schema.Writing

/-!
# Checks that find nothing

What does it say of a document that its check finds nothing?  A check that is gathered from
others finds nothing exactly if none of them does, so the answer can be read off the checks
of the parts: which fields are there, which of them hold lists and objects, and that the
same is true of the nodes below (`flawless_of_clean`).

Of what a check looks at it also settles the values: the counts of cases, the numbers to
pick and to keep, and the styles that it lets pass are accepted by their readers.

## Main Definitions

* `Findings.Clean` — nothing was found, and the check did not fail.
* `Entries.given` — the value of a field, unless it is missing or `null`.
* `Value.objects` — the entries of the objects among values.
* `Flawless` — what a check finds nothing of at a node of a kind.
-/

namespace PromptTree

open Findings Schema

/-! ## Gathering nothing -/

/-- Nothing was found. -/
def Findings.Clean (findings : Findings) : Prop :=
  findings = .ok []

namespace Findings

variable {first : Findings} {rest : List Findings}

@[simp] theorem clean_ok (problems : List Problem) : Clean (.ok problems) ↔ problems = [] := by
  simp [Clean]

@[simp] theorem clean_gather_nil : (gather []).Clean := rfl

@[simp] theorem clean_gather_cons :
    (gather (first :: rest)).Clean ↔ first.Clean ∧ (gather rest).Clean := by
  cases first with
  | error failure => simp [Clean, gather]
  | ok problems =>
      cases hrest : gather rest with
      | error failure => simp [Clean, gather, hrest, Except.map]
      | ok more => simp [Clean, gather, hrest, Except.map]

@[simp] theorem clean_below (step : PlaceStep) : (below step first).Clean ↔ first.Clean := by
  cases first with
  | error failure => simp [Clean, below, Except.map]
  | ok problems => simp [Clean, below, Except.map]

@[simp] theorem not_clean_found (kind : ProblemKind) : ¬(found kind).Clean := by
  simp [Clean, found]

@[simp] theorem not_clean_foundAt (label : String) (kind : ProblemKind) :
    ¬(foundAt label kind).Clean := by
  simp [foundAt]

@[simp] theorem clean_showing (v : Value) :
    (showing v first).Clean ↔ v.isWritable = true ∧ first.Clean := by
  unfold showing Value.writing Clean
  split
  · rename_i hwritable
    exact (and_iff_right hwritable).symm
  · rename_i hlong
    exact ⟨nofun, fun h => absurd h.1 hlong⟩

/-- If a message shows what cannot be written, the check fails, and that is not clean either. -/
theorem not_clean_showing {v : Value} (h : ¬first.Clean) : ¬(showing v first).Clean := by
  rw [clean_showing]
  exact fun hclean => h hclean.2

@[simp] theorem clean_gather_items (label : String) (check : Value → Findings) (index : Nat)
    (items : List Value) :
    (gather (checkItems label check index items)).Clean ↔ ∀ v ∈ items, (check v).Clean := by
  induction items generalizing index with
  | nil => simp [checkItems]
  | cons v rest ih => simp [checkItems, ih]

theorem clean_gather_map {α : Type} (check : α → Findings) (items : List α) :
    (gather (items.map check)).Clean ↔ ∀ a ∈ items, (check a).Clean := by
  induction items with
  | nil => simp
  | cons a rest ih => simp [ih]

end Findings

/-! ## Fields -/

/-- The value of a field, unless it is missing or `null`. -/
def Entries.given (entries : Entries) (name : String) : List Value :=
  (entries.lookup name).toList.filter (!·.isNull)

/-- The entries of the objects among values. -/
def Value.objects (items : List Value) : List Entries :=
  items.filterMap Value.entries?

theorem Entries.given_eq (entries : Entries) (name : String) :
    Entries.given entries name =
      if (Entries.getD entries name).isNull then [] else [Entries.getD entries name] := by
  unfold Entries.given Entries.getD
  cases entries.lookup name with
  | none => rfl
  | some v => cases v with | _ => rfl

section Fields

variable {node check : Value → Findings} {entries : Entries}

theorem clean_checkChild {field label : String} :
    (checkChild node entries field label).Clean ↔
      ∀ v ∈ Entries.given entries field, (node v).Clean := by
  rw [Entries.given_eq]
  unfold checkChild
  cases Entries.getD entries field with
  | null => simp [Value.isNull]
  | _ => simp [Value.isNull]

theorem clean_checkListField {name : String} :
    (checkListField entries name check).Clean ↔
      (listField entries name).2.Clean ∧ ∀ v ∈ (listField entries name).1, (check v).Clean := by
  simp [checkListField]

/-- The value of a field that is there. -/
theorem lookup_of_given {name : String} (h : (Entries.getD entries name).isNull = false) :
    entries.lookup name = some (Entries.getD entries name) := by
  unfold Entries.getD at *
  cases hlookup : entries.lookup name with
  | none => simp [hlookup, Value.isNull] at h
  | some v => rfl

/-- A field that is there, and clean, holds a list. -/
theorem lookup_of_clean_listField {name : String}
    (hgiven : (Entries.getD entries name).isNull = false) (h : (listField entries name).2.Clean) :
    entries.lookup name = some (.list (listField entries name).1) := by
  rw [lookup_of_given hgiven]
  unfold listField at *
  cases hv : Entries.getD entries name with
  | null => simp [hv, Value.isNull] at hgiven
  | list items => rfl
  | _ => simp [hv] at h

theorem clean_checkCaseContent (h : (checkCaseContent node entries).Clean) :
    (Entries.getD entries "content").isNull = false ∧
      ∀ v ∈ Entries.given entries "content", (node v).Clean := by
  rw [Entries.given_eq]
  unfold checkCaseContent at h
  cases hcontent : Entries.getD entries "content" with
  | null => simp [hcontent] at h
  | _ => simpa [hcontent, Value.isNull] using h

end Fields

/-! ## Values -/

section Values

variable {v : Value}

theorem isOk_of_clean_checkCaseCount (h : (checkCaseCount v).Clean) :
    (CaseCount.read v).isOk = true := by
  cases v with
  | int n => rfl
  | str s =>
      simp only [checkCaseCount, unhashable?] at h
      split at h
      · rename_i hword
        simp only [Value.str?, Option.any_some, List.contains_iff_mem] at hword
        simp only [List.mem_cons, List.not_mem_nil, or_false] at hword
        rcases hword with rfl | rfl | rfl
        · rfl
        · rfl
        · rfl
      · exact absurd h (not_clean_showing (not_clean_foundAt _ _))
  | null | bool _ | float _ => exact absurd h (not_clean_foundAt _ _)
  | list _ | object _ => cases h
  | tuple items =>
      simp only [checkCaseCount] at h
      split at h
      · cases h
      · exact absurd h (not_clean_showing (not_clean_foundAt _ _))

theorem isNull_of_clean_checkWeight (h : (checkWeight v).Clean) : v.isNull = false := by
  cases v with
  | null => exact absurd h (not_clean_showing (not_clean_found _))
  | _ => rfl

/-- A range of integers that is neither negative nor reversed is read. -/
theorem readRange_of_bounds {entries : Entries} {low high : Int}
    (hmin : Entries.getD entries "min" = .int low) (hmax : Entries.getD entries "max" = .int high)
    (hlow : 0 ≤ low) (hle : low ≤ high) :
    PickCount.readRange (.object entries) = .ok (.between low.toNat high.toNat) := by
  have hbound : ∀ {name : String} {n : Int}, Entries.getD entries name = .int n → 0 ≤ n →
      required entries name (atLeast 0) = .ok n := by
    intro name n hname hn
    refine required_of_lookup name ?_ (atLeast_of_le hn)
    unfold Entries.getD at hname
    cases hlookup : entries.lookup name with
    | none => simp [hlookup] at hname
    | some v => simpa [hlookup] using hname
  have hbounds : record "CountRange" (fun entries => Prod.mk <$> required entries "min" (atLeast 0)
      <*> required entries "max" (atLeast 0)) (.object entries) = .ok (low, high) := by
    rw [record_object, hbound hmin hlow, hbound hmax (Int.le_trans hlow hle)]
    rfl
  rw [PickCount.readRange, hbounds]
  exact if_neg (Int.not_lt.mpr hle)

theorem isOk_of_clean_checkPickCount (h : (checkPickCount v).Clean) (hgiven : v.isNull = false) :
    (PickCount.read v).isOk = true := by
  cases v with
  | null => cases hgiven
  | int n => rfl
  | object entries =>
      simp only [checkPickCount] at h
      split at h
      · rename_i low high hmin hmax
        split at h
        · exact absurd h (not_clean_foundAt _ _)
        · rename_i hsigns
          split at h
          · exact absurd h (not_clean_showing (not_clean_showing (not_clean_foundAt _ _)))
          · rename_i hle
            simp only [Bool.or_eq_true, decide_eq_true_eq, not_or, Int.not_lt] at hsigns hle
            simp [PickCount.read, readRange_of_bounds hmin hmax hsigns.1 hle]
      · exact absurd h (not_clean_foundAt _ _)
  | _ => exact absurd h (not_clean_showing (not_clean_foundAt _ _))

theorem isOk_of_clean_checkShuffleCount (h : (checkShuffleCount v).Clean) :
    (v.isNull || (integer v).isOk) = true := by
  cases v with
  | null => rfl
  | int n => rfl
  | _ => exact absurd h (not_clean_showing (not_clean_foundAt _ _))

/-- A style that is a text is one that is known. -/
theorem isSome_of_clean_checkArticle {entries : Entries} {name : String}
    (h : (checkArticle entries).Clean) (hstyle : Entries.getD entries "style" = .str name) :
    (ArticleStyle.names.lookup name).isSome = true := by
  rw [checkArticle, clean_gather_cons, clean_gather_cons, hstyle] at h
  obtain ⟨-, hclean, -⟩ := h
  dsimp only at hclean
  split at hclean
  · rename_i hknown
    exact hknown
  · exact absurd hclean (not_clean_showing (not_clean_foundAt _ _))

end Values

/-! ## Nodes -/

/-- Nothing is found at a node of a kind, nor at the nodes below it: all required fields are
there, and the single nodes, the parts and what only the kind asks are clean. -/
structure Flawless (node : Value → Findings) (entries : Entries) (tag : ContentTag) : Prop where
  required : ∀ name ∈ tag.requiredFields, (Entries.getD entries name).isNull = false
  children : ∀ field ∈ childFields, ∀ v ∈ Entries.given entries field.1, (node v).Clean
  parts : (checkListField entries "parts" node).Clean
  kind : (checkKind node entries tag).Clean

/-- **A check that finds nothing** is that of an object of a known kind without flaws. -/
theorem flawless_of_clean {node : Value → Findings} {v : Value} (h : (checkNodeWith node v).Clean) :
    ∃ entries tag, v = .object entries ∧
      ContentTag.ofValue? (Entries.getD entries "type") = some tag ∧
      Flawless node entries tag := by
  cases v with
  | object entries =>
      simp only [checkNodeWith] at h
      cases htag : ContentTag.ofValue? (Entries.getD entries "type") with
      | none =>
          rw [htag] at h
          exact absurd h (not_clean_showing (not_clean_found _))
      | some tag =>
          simp only [htag, clean_gather_cons, clean_ok, List.map_eq_nil_iff,
            List.filter_eq_nil_iff, clean_gather_map] at h
          obtain ⟨hrequired, hchildren, hparts, hkind, -⟩ := h
          refine ⟨entries, tag, rfl, htag, ?_, ?_, hparts, hkind⟩
          · exact fun name hname => Bool.eq_false_iff.mpr (hrequired name hname)
          · exact fun field hfield => clean_checkChild.mp (hchildren field hfield)
  | _ => exact absurd h (not_clean_found _)

end PromptTree
