import PromptTree.Content.Reader
import PromptTree.Proofs.Content.Everywhere
import PromptTree.Proofs.Schema.Reading

/-!
# Trees that were read

Not every tree is the tree of a document: a range of numbers to pick may be empty, and a
node of no known kind may have a tag that is known, or its tag among its other fields.
This module proves that **trees that were read have no such nodes**
(`everywhere_legible_of_read`).

The proof goes down the document by its depth, as the reader does.  What is read one level
deeper only matters as a set of trees (`readFields_children`), so that this part of it
serves any property of nodes.

## Main Definitions

* `Content.Legible` — what a node is like by itself that was read.
-/

namespace PromptTree.Content

open Schema

/-- What a node that was read is like by itself. -/
def Legible : Content → Prop
  | .pickMany _ (.between low high) _ _ => low ≤ high
  | .unknown tag fields =>
    (∀ name ∈ tag, ContentTag.names.lookup name = none) ∧ ∀ field ∈ fields, field.1 ≠ "type"
  | _ => True

theorem le_of_readRange {v : Value} {low high : Nat}
    (h : PickCount.readRange v = .ok (.between low high)) : low ≤ high := by
  unfold PickCount.readRange at h
  obtain ⟨⟨least, most⟩, _, hrange⟩ := Checked.andThen_eq_ok.mp h
  simp only at hrange
  split at hrange
  · cases hrange
  · rename_i hle
    cases hrange
    omega

theorem reads_count {depth : Nat} :
    Reads depth PickCount.read fun count => ∀ low high, count = .between low high → low ≤ high := by
  rintro v _ - hread low high rfl
  unfold PickCount.read orElse asMember at hread
  split at hread
  · rename_i count hcount
    cases hread
    obtain ⟨n, _, hn⟩ := Checked.map_eq_ok.mp (Checked.below_eq_ok.mp hcount)
    cases hn
  · split at hread
    · rename_i count hcount
      cases hread
      exact le_of_readRange (Checked.below_eq_ok.mp hcount)
    · cases hread

section Fields

variable {node : Reader Content} {entries : Entries} {P : Content → Prop}

/-- A node with a label: a case or an option. -/
theorem reads_labelled {α : Type} {label : Reader α} {name first second : String} {depth : Nat}
    (h : Reads depth node P) :
    Reads depth (record name fun entries =>
      Prod.mk <$> required entries first label <*> required entries second node)
      fun p => P p.2 := by
  refine Reads.record fun fields p hdepth hread => ?_
  obtain ⟨_, content, hfirst, hcontent, rfl⟩ := Checked.seq_eq_ok.mp hread
  obtain ⟨_, _, rfl⟩ := Checked.map_eq_ok.mp hfirst
  exact h.required hdepth hcontent

/-- The nodes below a node with fields have whatever all nodes have that were read in them,
and the node by itself is legible. -/
theorem readFields_children (h : Reads (Value.depthOfEntries entries) node P) {tag : ContentTag}
    {content : Content} (hread : readFields node entries tag = .ok content) :
    content.Legible ∧ ∀ child ∈ content.children, P child := by
  have hlist : ∀ {name nodes}, withDefault entries name [] (Schema.list node) = .ok nodes →
      ∀ child ∈ nodes, P child :=
    h.list.withDefault (List.forall_mem_nil _) (Nat.le_refl _)
  have hoptional : ∀ {name part}, optional entries name node = .ok part →
      ∀ child ∈ part.toList, P child := by
    intro name part hpart child hchild
    exact h.optional (Nat.le_refl _) hpart child (Option.mem_toList.mp hchild)
  have hcases : ∀ {α : Type} {label : Reader α} {field name first second cases},
      withDefault entries field [] (Schema.list (record name fun entries =>
        Prod.mk <$> required entries first label <*> required entries second node)) = .ok cases →
      ∀ child ∈ cases.map Prod.snd, P child := by
    intro α label field name first second cases hcases
    rw [List.forall_mem_map]
    exact (reads_labelled h).list.withDefault (List.forall_mem_nil _) (Nat.le_refl _) hcases
  cases tag <;> simp only [readFields, Checked.seq_eq_ok, Checked.map_eq_ok] at hread
  case text | sectionRef =>
    obtain ⟨_, _, rfl⟩ := hread
    exact ⟨trivial, nofun⟩
  case «variable» =>
    obtain ⟨_, _, ⟨_, _, ⟨_, _, rfl⟩, _, rfl⟩, _, rfl⟩ := hread
    exact ⟨trivial, nofun⟩
  case composite =>
    obtain ⟨parts, hparts, rfl⟩ := hread
    exact ⟨trivial, hlist hparts⟩
  case conditional =>
    obtain ⟨_, no, ⟨_, yes, ⟨_, _, rfl⟩, hyes, rfl⟩, hno, rfl⟩ := hread
    exact ⟨trivial, List.forall_mem_cons.mpr ⟨h.required (Nat.le_refl _) hyes, hoptional hno⟩⟩
  case list =>
    obtain ⟨_, template, ⟨_, _, ⟨_, _, rfl⟩, _, rfl⟩, htemplate, rfl⟩ := hread
    exact ⟨trivial, hoptional htemplate⟩
  case context =>
    obtain ⟨_, fallback, ⟨_, _, rfl⟩, hfallback, rfl⟩ := hread
    exact ⟨trivial, hoptional hfallback⟩
  case plural =>
    obtain ⟨_, _, rfl⟩ := Checked.map_eq_ok.mp hread
    exact ⟨trivial, nofun⟩
  case article =>
    obtain ⟨_, _, ⟨_, _, ⟨_, word, ⟨_, _, rfl⟩, hword, rfl⟩, _, rfl⟩, _, rfl⟩ := hread
    exact ⟨trivial, hoptional hword⟩
  case countSwitch | switch =>
    obtain ⟨_, otherwise, ⟨_, cases, ⟨_, _, rfl⟩, hof, rfl⟩, hotherwise, rfl⟩ := hread
    exact ⟨trivial, List.forall_mem_append.mpr ⟨hcases hof, hoptional hotherwise⟩⟩
  case pickOne =>
    obtain ⟨_, _, ⟨candidates, hcandidates, rfl⟩, _, rfl⟩ := hread
    exact ⟨trivial, hlist hcandidates⟩
  case pickMany =>
    obtain ⟨_, _, ⟨_, _, ⟨_, count, ⟨candidates, hcandidates, rfl⟩, hcount, rfl⟩, _, rfl⟩,
      _, rfl⟩ := hread
    refine ⟨?_, hlist hcandidates⟩
    cases count with
    | exactly n => trivial
    | between low high =>
        exact reads_count.required (Nat.le_refl _) hcount low high rfl
  case randomValue =>
    obtain ⟨_, _, ⟨_, _, ⟨_, _, ⟨_, _, rfl⟩, _, rfl⟩, _, rfl⟩, _, rfl⟩ := hread
    exact ⟨trivial, nofun⟩
  case weightedPick =>
    obtain ⟨options, hoptions, rfl⟩ := hread
    exact ⟨trivial, hcases hoptions⟩
  case shuffle =>
    obtain ⟨_, template, ⟨_, _, ⟨_, _, ⟨_, _, rfl⟩, _, rfl⟩, _, rfl⟩, htemplate, rfl⟩ := hread
    exact ⟨trivial, hoptional htemplate⟩

/-- A text that may be missing and is there. -/
theorem lookup_of_optional_string {name text : String}
    (h : Schema.optional entries name string = .ok (some text)) :
    entries.lookup name = some (.str text) := by
  unfold Schema.optional Schema.withDefault withDefaultAs entry? Entries.get? at h
  cases hlookup : entries.lookup name with
  | none =>
      simp only [hlookup, entry?] at h
      cases h
  | some v =>
      simp only [hlookup, Checked.below_eq_ok] at h
      cases v with
      | str s =>
          cases h
          rfl
      | _ => cases h

/-- An object that is no node of a known kind is read as a legible node without nodes below
it. -/
theorem legible_of_readUnknown
    (hunknown : ContentTag.ofValue? (Entries.getD entries "type") = none) {content : Content}
    (hread : asMember "unknown" readUnknown (.object entries) = .ok content) :
    content.Everywhere Legible := by
  obtain ⟨tag, htag, rfl⟩ := Checked.map_eq_ok.mp (Checked.below_eq_ok.mp hread)
  refine .node ⟨?_, fun field hfield => ?_⟩ nofun
  · rintro name rfl
    rwa [Entries.getD, lookup_of_optional_string htag] at hunknown
  · simpa using (List.mem_filter.mp hfield).2

end Fields

theorem everywhere_legible_of_readWithin {depth : Nat} {v : Value} {content : Content}
    (hdepth : v.depth < depth) (h : readWithin depth v = .ok content) :
    content.Everywhere Legible := by
  induction depth generalizing v content with
  | zero => exact absurd hdepth (Nat.not_lt_zero _)
  | succ depth ih =>
      cases v with
      | object entries =>
          simp only [readWithin, readWith, Value.entries?] at h
          split at h
          · -- Whatever the fields hold is less deep than the node.
            have hreads : Reads (Value.depthOfEntries entries) (readWithin depth)
                (Everywhere Legible) :=
              fun v' content' hless hread =>
                ih (Nat.lt_of_le_of_lt hless (Nat.lt_of_succ_lt_succ hdepth)) hread
            obtain ⟨hown, hbelow⟩ := readFields_children hreads (Checked.below_eq_ok.mp h)
            exact .node hown hbelow
          · rename_i hunknown
            exact legible_of_readUnknown hunknown h
      | _ => cases h

/-- **Trees that were read are legible.** -/
theorem everywhere_legible_of_read {v : Value} {content : Content} (h : read v = .ok content) :
    content.Everywhere Legible :=
  everywhere_legible_of_readWithin (Nat.lt_succ_self _) h

end PromptTree.Content
