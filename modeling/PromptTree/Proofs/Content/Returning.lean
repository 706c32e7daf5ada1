import PromptTree.Proofs.Content.Failing

/-!
# When the check of a document returns

**The check of a document returns exactly if all counts that it comes to can be looked up and all
values that it shows can be written** (`checkWithin_returns_iff`), provided that there is room for
the nodes inside each other.

At a single node `fails_node` says so.  The nodes that the check of a whole document comes to
are those that it goes into (`Reaches`); these become less deep, so that it reaches all of them if
it has the room that the depth of the document asks for.

## Main Definitions

* `Reaches` — the nodes that the check of a document goes into.
-/

namespace PromptTree

open Findings

/-! ## The nodes that are checked are less deep -/

section Depth

variable {entries : Entries} {name : String} {v part : Value}

theorem depth_lt_of_mem_listField (h : v ∈ (listField entries name).1) :
    v.depth < Value.depthOfEntries entries := by
  have hfield := Schema.depth_getD_le entries name
  unfold listField at h
  split at h
  · cases h
  · rename_i items hitems
    rw [hitems] at hfield
    exact Nat.lt_of_lt_of_le (Nat.lt_succ_of_le (Schema.depth_le_of_mem h)) hfield
  · cases h

theorem depth_le_of_content (h : part ∈ documents (contentPieces entries)) :
    part.depth ≤ Value.depthOfEntries entries := by
  have hcontent := Schema.depth_getD_le entries "content"
  unfold contentPieces at h
  split at h
  · cases h
  · obtain rfl := List.mem_singleton.mp h
    exact hcontent

/-- The nodes in a case or an option are those of its content. -/
theorem depth_le_of_case {inner : Value → List Piece}
    (hobject : ∀ fields, documents (inner (.object fields)) = documents (contentPieces fields))
    (hother : ∀ v, v.entries? = none → documents (inner v) = []) (h : part ∈ documents (inner v)) :
    part.depth ≤ v.depth := by
  cases hv : v.entries? with
  | none =>
      rw [hother v hv] at h
      cases h
  | some fields =>
      cases v with
      | object entries =>
          rw [hobject entries] at h
          exact Nat.le_succ_of_le (depth_le_of_content h)
      | _ => cases hv

theorem depth_le_of_list {inner : Value → List Piece}
    (hinner : ∀ v part, part ∈ documents (inner v) → part.depth ≤ v.depth)
    (h : part ∈ documents (listPieces entries name inner)) :
    part.depth ≤ Value.depthOfEntries entries := by
  rw [documents_list] at h
  obtain ⟨v, hv, hpart⟩ := List.mem_flatMap.mp h
  exact Nat.le_trans (hinner v part hpart) (Nat.le_of_lt (depth_lt_of_mem_listField hv))

theorem depth_le_of_whole (h : part ∈ documents (wholePieces v)) : part.depth ≤ v.depth := by
  obtain rfl := List.mem_singleton.mp h
  exact Nat.le_refl _

theorem depth_le_of_children (h : part ∈ documents (childrenPieces entries)) :
    part.depth ≤ Value.depthOfEntries entries := by
  rw [childrenPieces, documents_flatten, List.flatMap_map] at h
  obtain ⟨field, -, hpart⟩ := List.mem_flatMap.mp h
  have hchild := Schema.depth_getD_le entries field.1
  simp only [childPieces] at hpart
  split at hpart
  · cases hpart
  · obtain rfl := List.mem_singleton.mp hpart
    exact hchild

theorem depth_le_of_kind {tag : ContentTag} (h : part ∈ documents (kindPieces entries tag)) :
    part.depth ≤ Value.depthOfEntries entries := by
  cases tag with
  | countSwitch | switch | weightedPick =>
      refine depth_le_of_list (fun v part hpart => ?_) h
      refine depth_le_of_case (fun _ => rfl) (fun v hv => ?_) hpart
      cases v with
      | object _ => cases hv
      | _ => rfl
  | pickOne | pickMany =>
      rw [kindPieces, documents_append_own] at h
      exact depth_le_of_list (fun v part hpart => depth_le_of_whole hpart) h
  | conditional =>
      simp only [kindPieces] at h
      split at h
      · cases h
      · cases h
  | _ => cases h

/-- **The nodes that the check of a node goes into are less deep.** -/
theorem depth_lt_of_mem_documents (h : part ∈ documents (nodePieces v)) : part.depth < v.depth := by
  cases v with
  | object entries =>
      refine Nat.lt_succ_of_le ?_
      cases htag : ContentTag.ofValue? (Entries.getD entries "type") with
      | none =>
          simp only [nodePieces, htag] at h
          cases h
      | some tag =>
          simp only [nodePieces, htag, documents_flatten] at h
          obtain ⟨group, hgroup, hpart⟩ := List.mem_flatMap.mp h
          simp only [List.mem_cons, List.not_mem_nil, or_false] at hgroup
          obtain rfl | rfl | rfl | rfl := hgroup
          · cases hpart
          · exact depth_le_of_children hpart
          · exact depth_le_of_list (fun v part hpart => depth_le_of_whole hpart) hpart
          · exact depth_le_of_kind hpart
  | _ => cases h

end Depth

/-! ## Documents -/

/-- **The check of a document goes into a node**: into the document itself, and into what the check
of a node goes into. -/
inductive Reaches : Value → Value → Prop where
  | here (v : Value) : Reaches v v
  | inside {v part node : Value} (document : part ∈ documents (nodePieces v))
      (deeper : Reaches part node) : Reaches v node

section Documents

variable {node : Value → Findings} {pieces : List Piece} {v : Value} {failure : Failure}

/-- Pieces that fail when they are collected: one of them does, or the check of a node. -/
theorem fails_of_collect_error (h : collect node pieces = .error failure) :
    Fails pieces failure ∨ ∃ part ∈ documents pieces, node part = .error failure := by
  obtain ⟨piece, hpiece, hfindings⟩ := List.mem_map.mp (mem_of_gather_error h)
  cases piece with
  | own findings =>
      obtain rfl : findings = .error failure := hfindings
      exact .inl hpiece
  | part place v =>
      have hmem : v ∈ documents pieces := List.mem_filterMap.mpr ⟨_, hpiece, rfl⟩
      exact .inr ⟨v, hmem, (foldr_below_eq_error place).mp hfindings⟩

/-- Pieces of which one fails, or the check of a node, fail when they are collected. -/
theorem exists_collect_error
    (h : Fails pieces failure ∨ ∃ part ∈ documents pieces, node part = .error failure) :
    ∃ first, collect node pieces = .error first := by
  have hpiece : ∃ piece ∈ pieces, piece.findings node = .error failure := by
    obtain hown | ⟨part, hpart, hnode⟩ := h
    · exact ⟨_, hown, rfl⟩
    · obtain ⟨piece, hpiece, hdocument⟩ := List.mem_filterMap.mp hpart
      cases piece with
      | own _ => cases hdocument
      | part place v =>
          cases hdocument
          exact ⟨_, hpiece, (foldr_below_eq_error place).mpr hnode⟩
  exact exists_gather_error (List.mem_map.mpr hpiece)

/-- Pieces are collected if none of them fails, nor the check of a node. -/
theorem collect_returns_iff :
    (∃ problems, collect node pieces = .ok problems) ↔
      (∀ failure, ¬Fails pieces failure) ∧
        ∀ part ∈ documents pieces, ∃ problems, node part = .ok problems := by
  constructor
  · rintro ⟨problems, hproblems⟩
    have hsound : ∀ failure,
        ¬(Fails pieces failure ∨ ∃ part ∈ documents pieces, node part = .error failure) := by
      intro failure hfails
      obtain ⟨first, hfirst⟩ := exists_collect_error hfails
      rw [hproblems] at hfirst
      cases hfirst
    refine ⟨fun failure hfails => hsound failure (.inl hfails), fun part hpart => ?_⟩
    cases hnode : node part with
    | ok found => exact ⟨found, rfl⟩
    | error failure => exact absurd (.inr ⟨part, hpart, hnode⟩) (hsound failure)
  · rintro ⟨hown, hparts⟩
    cases hcollect : collect node pieces with
    | ok problems => exact ⟨problems, rfl⟩
    | error failure =>
        obtain hfails | ⟨part, hpart, hnode⟩ := fails_of_collect_error hcollect
        · exact absurd hfails (hown failure)
        · obtain ⟨found, hfound⟩ := hparts part hpart
          rw [hfound] at hnode
          cases hnode

/-- **A check fails at a node that it goes into, or for want of room**, by induction on the room. -/
theorem fails_of_checkWithin_error {room : Nat} (h : checkWithin room v = .error failure) :
    (∃ node, Reaches v node ∧ Fails (nodePieces node) failure) ∨
      room ≤ v.depth ∧ failure = noRoom := by
  induction room generalizing v with
  | zero =>
      cases h
      exact .inr ⟨Nat.zero_le _, rfl⟩
  | succ room ih =>
      rw [checkWithin, checkNodeWith_eq_collect] at h
      obtain hown | ⟨part, hpart, hbelow⟩ := fails_of_collect_error h
      · exact .inl ⟨v, .here v, hown⟩
      · obtain ⟨node, hnode, hfails⟩ | ⟨hroom, hfailure⟩ := ih hbelow
        · exact .inl ⟨node, .inside hpart hnode, hfails⟩
        · exact .inr ⟨Nat.lt_of_le_of_lt hroom (depth_lt_of_mem_documents hpart), hfailure⟩

/-- **A check fails if a node fails that it goes into**, along the nodes that lead to it. -/
theorem exists_checkWithin_error {inner : Value} (h : Reaches v inner)
    (hfails : Fails (nodePieces inner) failure) {room : Nat} (hroom : v.depth < room) :
    ∃ first, checkWithin room v = .error first := by
  -- Along the way down the room that is left stays above the depth of the document.
  induction h generalizing room with
  | here v =>
      obtain ⟨room, rfl⟩ := Nat.exists_eq_succ_of_ne_zero (Nat.ne_zero_of_lt hroom)
      rw [checkWithin, checkNodeWith_eq_collect]
      exact exists_collect_error (.inl hfails)
  | @inside v part inner hpart _ ih =>
      obtain ⟨room, rfl⟩ := Nat.exists_eq_succ_of_ne_zero (Nat.ne_zero_of_lt hroom)
      have hless : part.depth < room :=
        Nat.lt_of_lt_of_le (depth_lt_of_mem_documents hpart) (Nat.le_of_lt_succ hroom)
      obtain ⟨first, hfirst⟩ := ih hfails hless
      rw [checkWithin, checkNodeWith_eq_collect]
      exact exists_collect_error (.inr ⟨part, hpart, hfirst⟩)

end Documents

/-- **The check of a document returns but for counts that cannot be looked up and values that
cannot be written.**  However much room there is for nodes inside each other:

* A check with the room that the depth of the document asks for returns a list of problems,
  whatever the document is, exactly if at every node that it goes into the counts can be looked
  up and what is shown can be written.  A count can be looked up if it is neither a list nor an
  object, nor a tuple that holds one.
* If a check fails, it is with the kind of such a count, for an integer of too many digits in what
  is shown, or because the document is deeper than there is room for. -/
theorem checkWithin_returns_iff (room : Nat) (v : Value) :
    (v.depth < room →
      ((∃ problems, checkWithin room v = .ok problems) ↔
        ∀ node, Reaches v node →
          (∀ count, CountOf node count → unhashable? count = none) ∧
            ∀ shown, Shows node shown → shown.isWritable = true)) ∧
    ∀ failure, checkWithin room v = .error failure →
      (∃ node count kind, Reaches v node ∧ CountOf node count ∧ unhashable? count = some kind ∧
        failure = .unhashable kind) ∨
      (∃ node shown, Reaches v node ∧ Shows node shown ∧ shown.isWritable = false ∧
        failure = .integerTooLong) ∨
      room ≤ v.depth ∧ failure = .nestedTooDeeply "" := by
  refine ⟨fun hroom => ⟨?_, fun hall => ?_⟩, fun failure hfails => ?_⟩
  · rintro ⟨problems, hproblems⟩ node hnode
    have hsound : ∀ failure, ¬Fails (nodePieces node) failure := by
      intro failure hfails
      obtain ⟨first, hfirst⟩ := exists_checkWithin_error hnode hfails hroom
      rw [hproblems] at hfirst
      cases hfirst
    refine ⟨fun count hcount => ?_, fun shown hshown => ?_⟩
    · by_contra hsome
      obtain ⟨kind, hkind⟩ := Option.ne_none_iff_exists'.mp hsome
      exact hsound _ (fails_node.mpr (.inl ⟨count, kind, hcount, hkind, rfl⟩))
    · by_contra hlong
      refine hsound .integerTooLong (fails_node.mpr (.inr ⟨shown, hshown, ?_⟩))
      exact Value.writing_eq_error_iff.mpr ⟨Bool.eq_false_iff.mpr hlong, rfl⟩
  · cases hcheck : checkWithin room v with
    | ok problems => exact ⟨problems, rfl⟩
    | error failure =>
        obtain ⟨node, hnode, hfails⟩ | ⟨hdeep, -⟩ := fails_of_checkWithin_error hcheck
        · obtain ⟨hcounts, hshows⟩ := hall node hnode
          obtain ⟨count, kind, hcount, hkind, -⟩ | ⟨shown, hshown, hlong⟩ := fails_node.mp hfails
          · rw [hcounts count hcount] at hkind
            cases hkind
          · rw [Value.writing_of_isWritable (hshows shown hshown)] at hlong
            cases hlong
        · omega
  · obtain ⟨node, hnode, hnodeFails⟩ | hdeep := fails_of_checkWithin_error hfails
    · obtain ⟨count, kind, hcount, hkind, heq⟩ | ⟨shown, hshown, hlong⟩ := fails_node.mp hnodeFails
      · exact .inl ⟨node, count, kind, hnode, hcount, hkind, heq⟩
      · obtain ⟨hwritable, heq⟩ := Value.writing_eq_error_iff.mp hlong
        exact .inr (.inl ⟨node, shown, hnode, hshown, hwritable, heq⟩)
    · exact .inr (.inr hdeep)

/-- Not every document has a list of problems: the count of a case may be a list. -/
theorem checkContent_fails :
    let case : Value :=
      .object [("count", .list [.int 1]),
        ("content", .object [("type", .str "text"), ("value", .str "x")])]
    let choice : Value :=
      .object [("type", .str "count-switch"), ("count_variable", .str "n"), ("cases", .list [case])]
    checkContent choice = .error (.unhashable "list") ∧
      ¬∀ v, ∃ problems, checkContent v = .ok problems := by
  intro case choice
  have hfails : checkContent choice = .error (.unhashable "list") := rfl
  refine ⟨hfails, fun hall => ?_⟩
  obtain ⟨problems, hproblems⟩ := hall choice
  rw [hfails] at hproblems
  cases hproblems

end PromptTree
