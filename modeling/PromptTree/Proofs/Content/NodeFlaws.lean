import PromptTree.Proofs.Content.ConditionFlaws
import PromptTree.Proofs.Content.LongCounts
import PromptTree.Proofs.Content.WrittenNodes
import PromptTree.Proofs.Numeral.Sides

/-!
# What can be wrong with a tree that was read

A tree that was read is checked by its document.  Readers fill in defaults, and documents leave
out what is missing, so it is not clear that the check agrees with them on what a node is.  It
does: **the check of a tree that was read never finds that a value is of a wrong shape**
(`check_of_read`).  All that it finds are flaws that a reader does not ask about, and each of
them is told at the position of the node that has it.

`Content.HasFlaw` lists the flaws of a node, with the place and the code of the problem.  That
the findings about a single node are its flaws is shown kind by kind (`only_of_own_mem`); what
is found below it comes from the nodes in its slots (`exists_child_of_part_mem`).

## Main Definitions

* `Content.HasFlaw` — what is wrong with a node, with the place and the code.
-/

namespace PromptTree

open Findings Schema

/-- The findings of a part have a property if those of the part have it, at its place. -/
theorem Findings.Only.foldr_below {P : Problem → Prop} {findings : Findings}
    {place : List PlaceStep} (h : findings.Only fun problem => P (problem.within place)) :
    (place.foldr Findings.below findings).Only P := by
  induction place generalizing P with
  | nil => exact h
  | cons step rest ih => exact Only.below (ih h)

namespace Content

/-! ## Findings of nodes that were read -/

section Own

variable {content : Content} {tag : ContentTag} {P : Problem → Prop} {findings : Findings}

/-- Nothing is found at the content of a case that is there. -/
theorem own_notMem_content {fields : Entries} (h : (Entries.getD fields "content").isNull = false) :
    .own findings ∉ contentPieces fields := by
  unfold contentPieces
  intro hown
  split at hown
  · rename_i hnull
    rw [hnull] at h
    cases h
  · cases List.mem_singleton.mp hown

theorem own_notMem_children {entries : Entries} : .own findings ∉ childrenPieces entries := by
  intro hown
  obtain ⟨group, hgroup, hmem⟩ := List.mem_flatten.mp hown
  obtain ⟨child, -, rfl⟩ := List.mem_map.mp hgroup
  simp only [childPieces] at hmem
  split at hmem
  · cases hmem
  · cases List.mem_singleton.mp hmem

/-- What is found at a list, but for its parts, is found at its items. -/
theorem only_of_own_mem_list {entries : Entries} {name : String} {inner : Value → List Piece}
    (items : Option (List Value)) (hlookup : entries.lookup name = items.map .list)
    (hinner : ∀ vs ∈ items, ∀ (index : Nat) v, vs[index]? = some v →
      ∀ own, .own own ∈ inner v → own.Only fun problem => P (problem.below (.item name index)))
    (h : .own findings ∈ listPieces entries name inner) : findings.Only P := by
  obtain hown | ⟨index, v, own, hv, hown, heq⟩ := mem_listPieces.mp h
  · cases hown
    rw [listField, Entries.getD, hlookup]
    cases items with
    | none => exact only_nil
    | some vs => exact only_nil
  · cases own with
    | part place u => cases heq
    | own found =>
        cases heq
        obtain ⟨vs, hvs, hitem⟩ := lookup_of_listField hv
        rw [hlookup] at hvs
        obtain ⟨_, hitems, heq⟩ := Option.map_eq_some_iff.mp hvs
        cases heq
        exact (hinner vs hitems index v hitem found hown).below

/-- Nothing is found at a list of nodes. -/
theorem only_of_own_mem_listed (htag : content.tag? = some tag) (field : ListField)
    (h : .own findings ∈ listPieces content.entries field.name wholePieces) : findings.Only P := by
  have hlookup := lookup_listed htag field
  rw [← Function.comp_def, ← Option.map_map] at hlookup
  refine only_of_own_mem_list _ hlookup (fun vs _ index v _ own hown => ?_) h
  cases List.mem_singleton.mp hown

/-- What is found at a list of nodes with labels is found at the labels. -/
theorem only_of_own_mem_labelled (htag : content.tag? = some tag) (field : CaseField)
    (label : Entries → Findings) {inner : Value → List Piece}
    (hinner : ∀ fields, inner (.object fields) = .own (label fields) :: contentPieces fields)
    {cases : List ((String × Value) × Content)} (hcases : content.labelled? field = some cases)
    (hlabel : ∀ (index : Nat) case, cases[index]? = some case →
      (label [case.1, ("content", case.2.dump)]).Only fun problem =>
        P (problem.below (.item field.name index)))
    (h : .own findings ∈ listPieces content.entries field.name inner) : findings.Only P := by
  have hlookup := lookup_labelled htag field
  rw [hcases] at hlookup
  refine only_of_own_mem_list (some _) hlookup (fun vs hvs index v hv own hown => ?_) h
  cases hvs
  rw [List.getElem?_map] at hv
  obtain ⟨case, hcase, rfl⟩ := Option.map_eq_some_iff.mp hv
  have hne := label_ne_content hcases case (List.mem_of_getElem? hcase)
  rw [hinner] at hown
  obtain hfirst | hrest := List.mem_cons.mp hown
  · cases hfirst
    exact hlabel index case hcase
  · refine absurd hrest (own_notMem_content ?_)
    rw [Entries.getD, lookup_content hne, Option.getD_some, isNull_dump]

end Own

/-! ## Flaws -/

/-- What can be wrong with a node that was read, with the place and the code. -/
inductive HasFlaw : Content → List PlaceStep → String → Prop where
  | unknown {tag : Option String} {fields : List (String × Value)} :
      HasFlaw (.unknown tag fields) [] "UNKNOWN_CONTENT_TYPE"
  | condition {condition : Condition} {yes : Content} {no : Option Content}
      {place : List PlaceStep} {code : String} (flaw : condition.HasFlaw place code) :
      HasFlaw (.conditional condition yes no) (.field "condition" :: place) code
  | word {wordVariable : Option String} {style : ArticleStyle} {capitalize : Bool}
      (noVariable : wordVariable = none ∨ wordVariable = some "") :
      HasFlaw (.article wordVariable none style capitalize) [] "MISSING_FIELD"
  | weightCount {candidates : List Content} {weights : List Float}
      (differ : weights.length ≠ candidates.length) :
      HasFlaw (.pickOne candidates (some weights)) [.field "weights"] "WEIGHT_COUNT_MISMATCH"
  | weight {candidates : List Content} {weights : List Float} {index : Nat} {w : Float}
      (there : weights[index]? = some w) (negative : w < 0) :
      HasFlaw (.pickOne candidates (some weights)) [.item "weights" index] "INVALID_WEIGHT"
  | optionWeight {options : List (Float × Content)} {index : Nat} {w : Float} {child : Content}
      (there : options[index]? = some (w, child)) (negative : w < 0) :
      HasFlaw (.weightedPick options) [.item "options" index, .field "weight"] "INVALID_WEIGHT"
  | pickCount {candidates : List Content} {n : Int} {separatorSet : Option String}
      {allowDuplicates : Bool} (negative : n < 0) :
      HasFlaw (.pickMany candidates (.exactly n) separatorSet allowDuplicates)
        [.field "count"] "INVALID_COUNT"
  | shuffleCount {variableId : String} {n : Int} {separatorSet : Option String}
      {template : Option Content} (negative : n < 0) :
      HasFlaw (.shuffle variableId (some n) separatorSet template) [.field "count"] "INVALID_COUNT"
  | noSource {format : Option Format} :
      HasFlaw (.randomValue none none none format) [] "MISSING_FIELD"
  | severalSources {pool : Option (List String)} {poolVariable dataType : Option String}
      {format : Option Format}
      (several : 1 < [pool.isSome, poolVariable.isSome, dataType.isSome].count true) :
      HasFlaw (.randomValue pool poolVariable dataType format) [] "AMBIGUOUS_SOURCE"

/-- A problem tells a flaw of a node. -/
def Explains (content : Content) (problem : Problem) : Prop :=
  content.HasFlaw problem.place problem.kind.code

section Kinds

variable {findings : Findings}

theorem only_checkWeight {P : Problem → Prop} {w : Float}
    (h : w < 0 → P (.here (.negativeWeight (Value.float w).literal))) :
    (checkWeight (.float w)).Only P := by
  refine only_ite (fun hless => (only_found (h ?_)).showing _) fun _ => only_nil
  exact Numeral.lt_zero_of_compareInt? (beq_iff_eq.mp hless)

theorem only_checkArticle {wordVariable : Option String} {word : Option Content}
    {style : ArticleStyle} {capitalize : Bool} :
    (checkArticle (article wordVariable word style capitalize).entries).Only
      (Explains (.article wordVariable word style capitalize)) := by
  have hvariable : Entries.getD (article wordVariable word style capitalize).entries
      "word_variable" = (wordVariable.map .str).getD .null := by
    simp [Entries.getD, entries, dump, entries_node]
  have hword : Entries.getD (article wordVariable word style capitalize).entries
      "word_content" = (word.map dump).getD .null := by
    simp [Entries.getD, entries, dump, entries_node, dump?_eq_map]
  have hstyle : Entries.getD (article wordVariable word style capitalize).entries "style" =
      .str style.name := by
    simp [Entries.getD, entries, dump, entries_node]
  refine only_gather_pair (only_ite (fun _ => only_nil) fun hlacks => only_found ?_) ?_
  · rw [hvariable, hword, Bool.or_eq_true, not_or, Bool.not_eq_true, Condition.isTruthy_string,
      Bool.not_eq_true', Bool.not_eq_false] at hlacks
    obtain ⟨hnoVariable, hnoWord⟩ := hlacks
    obtain rfl := Condition.eq_none_of_isNull isNull_dump hnoWord
    exact .word hnoVariable
  · rw [hstyle]
    cases style with
    | _ => exact only_nil

theorem only_checkSources {pool : Option (List String)} {poolVariable dataType : Option String}
    {format : Option Format} :
    (checkSources (randomValue pool poolVariable dataType format).entries).Only
      (Explains (.randomValue pool poolVariable dataType format)) := by
  have hpool : Entries.getD (randomValue pool poolVariable dataType format).entries "pool" =
      (pool.map Value.ofStrings).getD .null := by
    simp [Entries.getD, entries, dump, entries_node]
  have hvariable : Entries.getD (randomValue pool poolVariable dataType format).entries
      "pool_variable" = (poolVariable.map .str).getD .null := by
    simp [Entries.getD, entries, dump, entries_node]
  have htype : Entries.getD (randomValue pool poolVariable dataType format).entries
      "data_type_id" = (dataType.map .str).getD .null := by
    simp [Entries.getD, entries, dump, entries_node]
  simp only [checkSources, List.filter_cons, List.filter_nil, hpool, hvariable, htype]
  cases pool with
  | none =>
      cases poolVariable with
      | none =>
          cases dataType with
          | none => exact only_found .noSource
          | some _ => exact only_nil
      | some _ =>
          cases dataType with
          | none => exact only_nil
          | some _ => exact only_found (.severalSources (by simp))
  | some _ =>
      cases poolVariable with
      | none =>
          cases dataType with
          | none => exact only_nil
          | some _ => exact only_found (.severalSources (by simp))
      | some _ => exact only_found (.severalSources (by simp))

theorem only_checkWeights {candidates : List Content} {weights : Option (List Float)} :
    (checkWeights candidates.length
      ((weights.map fun ws => .list (ws.map .float)).getD .null)).Only
        (Explains (.pickOne candidates weights)) := by
  cases weights with
  | none => exact only_nil
  | some ws =>
      refine only_gather (List.forall_mem_cons.mpr
        ⟨only_ite (fun _ => only_nil) fun hdiffer => only_foundAt (.weightCount ?_),
          only_checkItems fun index v hv => ?_⟩)
      · rwa [List.length_map] at hdiffer
      · rw [List.getElem?_map] at hv
        obtain ⟨w, hw, rfl⟩ := Option.map_eq_some_iff.mp hv
        rw [Nat.zero_add]
        exact only_checkWeight fun hnegative => .weight hw hnegative

theorem only_checkPickCount {candidates : List Content} {count : PickCount}
    {separatorSet : Option String} {allowDuplicates : Bool}
    (hlegible : (pickMany candidates count separatorSet allowDuplicates).Legible) :
    (checkPickCount count.dump).Only
      (Explains (.pickMany candidates count separatorSet allowDuplicates)) := by
  cases count with
  | exactly n =>
      exact only_ite (fun hnegative => (only_foundAt (.pickCount hnegative)).showing _)
        fun _ => only_nil
  | between low high =>
      have hle : low ≤ high := hlegible
      refine only_ite (fun hreversed => absurd hreversed ?_) fun _ => only_nil
      omega

theorem only_checkShuffleCount {variableId : String} {count : Option Int}
    {separatorSet : Option String} {template : Option Content} :
    (checkShuffleCount ((count.map .int).getD .null)).Only
      (Explains (.shuffle variableId count separatorSet template)) := by
  cases count with
  | none => exact only_nil
  | some n =>
      exact only_ite (fun hnegative => (only_foundAt (.shuffleCount hnegative)).showing _)
        fun _ => only_nil

end Kinds

section Nodes

variable {content : Content} {tag : ContentTag} {findings : Findings}

theorem only_of_own_mem_singleton {P : Problem → Prop} {found : Findings}
    (h : .own findings ∈ [Piece.own found]) (hfound : found.Only P) : findings.Only P := by
  cases List.mem_singleton.mp h
  exact hfound

/-- What is found at a node of a kind, as far as only this kind can have it, are its flaws. -/
theorem only_of_own_mem_kind (htag : content.tag? = some tag) (hlegible : content.Legible)
    (hfinite : ∀ v ∈ content.freeValues, v.IsFinite)
    (h : .own findings ∈ kindPieces content.entries tag) : findings.Only content.Explains := by
  cases content with
  | unknown _ _ => cases htag
  | conditional condition yes no =>
      cases htag
      have hcondition : Entries.getD (conditional condition yes no).entries "condition" =
          condition.dump := by
        simp [Entries.getD, entries, dump, entries_node]
      simp only [kindPieces, hcondition] at h
      split at h
      · cases h
      · refine only_of_own_mem_singleton h (Only.below ?_)
        exact (Condition.only_checkCondition_dump hfinite).imp fun problem hflaw => .condition hflaw
  | article wordVariable word style capitalize =>
      cases htag
      exact only_of_own_mem_singleton h only_checkArticle
  | countSwitch countVariable cases otherwise =>
      cases htag
      refine only_of_own_mem_labelled rfl .cases
        (fun fields => checkCaseCount (Entries.getD fields "count")) (fun _ => rfl) rfl
        (fun index case hcase => ?_) h
      rw [List.getElem?_map] at hcase
      obtain ⟨original, -, rfl⟩ := Option.map_eq_some_iff.mp hcase
      cases original.1 with
      | _ => exact only_nil
  | switch variableId cases otherwise =>
      cases htag
      refine only_of_own_mem_labelled rfl .cases
        (fun fields => if (Entries.getD fields "value").isNull then
          found .caseWithoutValue else .ok []) (fun _ => rfl) rfl (fun index case hcase => ?_) h
      rw [List.getElem?_map] at hcase
      obtain ⟨original, -, rfl⟩ := Option.map_eq_some_iff.mp hcase
      cases original.1 with
      | _ => exact only_nil
  | weightedPick options =>
      cases htag
      refine only_of_own_mem_labelled rfl .options
        (fun fields => below (.field "weight") (checkWeight (Entries.getD fields "weight")))
        (fun _ => rfl) rfl (fun index case hcase => ?_) h
      rw [List.getElem?_map] at hcase
      obtain ⟨original, hthere, rfl⟩ := Option.map_eq_some_iff.mp hcase
      exact Only.below (only_checkWeight fun hnegative => .optionWeight hthere hnegative)
  | pickOne candidates weights =>
      cases htag
      have hcandidates : (listField (pickOne candidates weights).entries "candidates").1.length =
          candidates.length := by
        have hlookup := @lookup_listed (pickOne candidates weights) _ rfl .candidates
        exact (congrArg List.length (listField_of_lookup hlookup)).trans (List.length_map ..)
      have hweights : Entries.getD (pickOne candidates weights).entries "weights" =
          (weights.map fun ws => .list (ws.map .float)).getD .null := by
        simp [Entries.getD, entries, dump, entries_node]
      obtain hlist | hown := List.mem_append.mp h
      · exact only_of_own_mem_listed rfl .candidates hlist
      · rw [hcandidates, hweights] at hown
        exact only_of_own_mem_singleton hown only_checkWeights
  | pickMany candidates count separatorSet allowDuplicates =>
      cases htag
      have hcount : Entries.getD (pickMany candidates count separatorSet allowDuplicates).entries
          "count" = count.dump := by
        simp [Entries.getD, entries, dump, entries_node]
      obtain hlist | hown := List.mem_append.mp h
      · exact only_of_own_mem_listed rfl .candidates hlist
      · rw [hcount] at hown
        exact only_of_own_mem_singleton hown (only_checkPickCount hlegible)
  | randomValue pool poolVariable dataType format =>
      cases htag
      exact only_of_own_mem_singleton h only_checkSources
  | shuffle variableId count separatorSet template =>
      cases htag
      have hcount : Entries.getD (shuffle variableId count separatorSet template).entries "count" =
          (count.map .int).getD .null := by
        simp [Entries.getD, entries, dump, entries_node]
      rw [kindPieces, hcount] at h
      exact only_of_own_mem_singleton h only_checkShuffleCount
  | _ =>
      cases htag
      cases h

/-- **What is found at a node that was read are its flaws.** -/
theorem only_of_own_mem (hlegible : content.Legible)
    (hfinite : ∀ v ∈ content.freeValues, v.IsFinite)
    (h : .own findings ∈ nodePieces content.dump) : findings.Only content.Explains := by
  cases htag : content.tag? with
  | none =>
      cases content with
      | unknown tag fields =>
          simp only [dump_unknown, nodePieces, ofValue?_taggedFields hlegible] at h
          exact only_of_own_mem_singleton h ((only_found .unknown).showing _)
      | _ => cases htag
  | some tag =>
      obtain ⟨hkind, hrequired⟩ := entries_of_tag htag
      rw [dump_eq_object, nodePieces_of_kind hkind] at h
      simp only [List.mem_append] at h
      obtain hmissing | hchildren | hparts | hown := h
      · refine only_of_own_mem_singleton hmissing ?_
        have hnone : tag.requiredFields.filter
            (fun name => (Entries.getD content.entries name).isNull) = [] :=
          List.filter_eq_nil_iff.mpr fun name hname => by simp [hrequired name hname]
        rw [missingFields, hnone]
        exact only_nil
      · exact absurd hchildren own_notMem_children
      · exact only_of_own_mem_listed htag .parts hparts
      · exact only_of_own_mem_kind htag hlegible hfinite hown

/-- A node that the check of a node goes into stands in a slot of it. -/
theorem exists_child_of_part_mem (hlegible : content.Legible) {place : List PlaceStep}
    {part : Value} (h : .part place part ∈ nodePieces content.dump) :
    ∃ slot child, place = slot.place ∧ content.child? slot = some child ∧ child.dump = part := by
  cases htag : content.tag? with
  | none =>
      cases content with
      | unknown tag fields =>
          simp only [dump_unknown, nodePieces, ofValue?_taggedFields hlegible] at h
          cases List.mem_singleton.mp h
      | _ => cases htag
  | some tag =>
      rw [dump_eq_object] at h
      obtain ⟨slot, -, hplace, there⟩ := slot_of_part_mem (entries_of_tag htag).1 h
      obtain ⟨child, hchild, hdump⟩ := exists_child_of_at? htag there
      exact ⟨slot, child, hplace, hchild, hdump⟩

end Nodes

/-! ## Trees that were read -/

namespace HasFlaw

/-- No flaw is that a value is not of the shape that is asked for. -/
theorem code_ne_of_condition {condition : Condition} {place : List PlaceStep} {code : String}
    (h : condition.HasFlaw place code) : code ≠ "INVALID_NODE" ∧ code ≠ "INVALID_VALUE" := by
  induction h with
  | inAll _ _ ih | inAny _ _ ih | inNegated _ ih => exact ih
  | _ => decide

theorem code_ne {content : Content} {place : List PlaceStep} {code : String}
    (h : content.HasFlaw place code) : code ≠ "INVALID_NODE" ∧ code ≠ "INVALID_VALUE" := by
  cases h with
  | condition flaw => exact code_ne_of_condition flaw
  | _ => decide

end HasFlaw

/-- **The check of a tree finds nothing but the flaws of its nodes**, each at the position of
the node, by induction on the tree. -/
theorem only_check {content : Content}
    (h : content.Everywhere fun node => node.Legible ∧ ∀ v ∈ node.freeValues, v.IsFinite) :
    content.check.Only fun problem => ∃ position node place, content.at? position = some node ∧
      problem.place = placeOf position ++ place ∧ node.HasFlaw place problem.kind.code := by
  induction h with
  | @node content own _ ih =>
      rw [check, checkContent_eq_collect, collect]
      refine only_gather (List.forall_mem_map.mpr fun piece hpiece => ?_)
      cases piece with
      | own findings =>
          exact (only_of_own_mem own.1 own.2 hpiece).imp fun problem hflaw =>
            ⟨[], content, problem.place, rfl, rfl, hflaw⟩
      | part place part =>
          obtain ⟨slot, child, rfl, hchild, rfl⟩ := exists_child_of_part_mem own.1 hpiece
          refine Only.foldr_below ((ih child (mem_children_of_child? hchild)).imp ?_)
          rintro problem ⟨position, node, place, hnode, hplace, hflaw⟩
          refine ⟨slot :: position, node, place, ?_, ?_, hflaw⟩
          · rw [at?, hchild, Option.bind_some, hnode]
          · rw [placeOf_cons, List.append_assoc, ← hplace]
            rfl

/-- An article without a word, and a choice with no weights for its only candidate. -/
def teaDocument : Value :=
  .object [("type", .str "composite"), ("parts", .list
    [.object [("type", .str "article")],
     .object [("type", .str "pick-one"), ("weights", .list []), ("candidates", .list
       [.object [("type", .str "text"), ("value", .str "tea")]])]])]

/-- The tree of the document. -/
def teaTree : Content :=
  .composite [.article none none .indefinite false, .pickOne [.text "tea"] (some [])]

end Content

end PromptTree
