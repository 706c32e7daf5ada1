import PromptTree.Proofs.Content.CheckedSlots

/-!
# Messages about a document that can be written

What a message shows is part of the document, so that **in a document that can be written nothing
is shown that cannot** (`isWritable_of_shows`), at no node that the check goes into.
-/

namespace PromptTree

section Fields

variable {entries : Entries} {name : String} {v : Value}

theorem isWritable_of_mem_list {items : List Value} (h : (Value.object entries).isWritable = true)
    (hlist : Entries.getD entries name = .list items) (hv : v ∈ items) : v.isWritable = true := by
  have hfield := Value.isWritable_getD h name
  rw [hlist] at hfield
  exact Value.isWritable_list_iff.mp hfield v hv

theorem isWritable_of_mem_listField (h : (Value.object entries).isWritable = true)
    (hv : v ∈ (listField entries name).1) : v.isWritable = true := by
  obtain ⟨index, hindex⟩ := List.mem_iff_getElem?.mp hv
  obtain ⟨items, hlist, hitem⟩ := lookup_of_listField hindex
  have hlist' := Value.isWritable_of_lookup h hlist
  exact Value.isWritable_list_iff.mp hlist' v (List.mem_of_getElem? hitem)

/-- What stands at a place in a document can be written if the document can. -/
theorem isWritable_of_at? {steps : List Schema.Step} {part : Value} (h : v.isWritable = true)
    (hpart : v.at? steps = some part) : part.isWritable = true := by
  induction steps generalizing v with
  | nil =>
      rw [Value.at?_nil] at hpart
      cases hpart
      exact h
  | cons step rest ih =>
      cases step with
      | field name =>
          obtain ⟨entries, u, rfl, hu, hrest⟩ := Value.at?_field.mp hpart
          exact ih (Value.isWritable_of_lookup h hu) hrest
      | item index =>
          obtain ⟨items, u, rfl, hu, hrest⟩ := Value.at?_item.mp hpart
          exact ih (Value.isWritable_list_iff.mp h u (List.mem_of_getElem? hu)) hrest

end Fields

theorem isWritable_of_conditionShows {v shown : Value} (h : ConditionShows v shown)
    (hv : v.isWritable = true) : shown.isWritable = true := by
  induction h with
  | operator => exact Value.isWritable_getD hv _
  | joined _ list there _ ih => exact ih (isWritable_of_mem_list hv list there)
  | negated _ _ ih => exact ih (Value.isWritable_getD hv _)

theorem isWritable_of_kindShows {entries : Entries} {tag : ContentTag} {shown : Value}
    (h : KindShows tag entries shown) (hentries : (Value.object entries).isWritable = true) :
    shown.isWritable = true := by
  cases h with
  | operator hshows => exact isWritable_of_conditionShows hshows (Value.isWritable_getD hentries _)
  | caseCount hcase => exact Value.isWritable_getD (isWritable_of_mem_listField hentries hcase) _
  | optionWeight hoption =>
      exact Value.isWritable_getD (isWritable_of_mem_listField hentries hoption) _
  | weight hlist hw => exact isWritable_of_mem_list hentries hlist hw
  | @range _ bounds low high bound hcount hmin hmax _ _ heither =>
      have hbounds := Value.isWritable_getD hentries "count"
      rw [hcount] at hbounds
      obtain rfl | rfl := heither
      · exact hmin ▸ Value.isWritable_getD hbounds "min"
      · exact hmax ▸ Value.isWritable_getD hbounds "max"
  | style | pickCount | shuffleCount => exact Value.isWritable_getD hentries _

/-- **Nothing is shown that cannot be written** at a node of a document that can, along the way
to the node. -/
theorem isWritable_of_shows {v node shown : Value} (hnode : Reaches v node)
    (hshows : Shows node shown) (h : v.isWritable = true) : shown.isWritable = true := by
  induction hnode with
  | here =>
      cases hshows with
      | type => exact Value.isWritable_getD h _
      | field _ hfield => exact isWritable_of_kindShows hfield h
  | @inside v part node hpart _ ih =>
      refine ih hshows ?_
      obtain ⟨piece, hpiece, hdocument⟩ := List.mem_filterMap.mp hpart
      cases piece with
      | own _ => cases hdocument
      | part place inner =>
          cases hdocument
          cases v with
          | object entries =>
              cases htag : ContentTag.ofValue? (Entries.getD entries "type") with
              | none =>
                  simp only [nodePieces, htag] at hpiece
                  cases List.mem_singleton.mp hpiece
              | some tag =>
                  obtain ⟨slot, -, -, hat⟩ := slot_of_part_mem htag hpiece
                  exact isWritable_of_at? h hat
          | _ => cases List.mem_singleton.mp hpiece

end PromptTree
