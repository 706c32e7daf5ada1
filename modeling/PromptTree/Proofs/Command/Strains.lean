import PromptTree.Proofs.Command.Actions
import PromptTree.Proofs.Content.Shown
import PromptTree.Proofs.Json.Writable

/-!
# What may be too much for a command

How deep the documents may be that a command reads depends on how much room there is where it is
run; and a text with half of a surrogate pair in it cannot be written to an output.  Where a
command reads JSON texts without either, what is said about it does not depend on its surroundings
beyond what they are taken to be.

`Command.Reads` says which texts a command reads as JSON, and `Command.Strains` that one of them
may be too much.

## Main Definitions

* `Command.Reads` — the JSON texts of a command.
* `Command.Overstrains` — a JSON text may be too much.
* `Command.Strains` — a text of a command may be.
-/

namespace PromptTree.Command

/-- **A command reads a text as JSON**: its variables, its package, its rules or its document. -/
inductive Reads (files : Directory) : Command → String → Prop where
  | vars {options : RenderOptions} {argument : String} (hvars : options.vars = some argument)
      (hfile : fileOf? argument = none) : Reads files (.render options) argument
  | varsFile {options : RenderOptions} {argument file text : String}
      (hvars : options.vars = some argument) (hfile : fileOf? argument = some file)
      (htext : files.readText (.ofString file) = .ok text) : Reads files (.render options) text
  | package {options : RenderOptions} {text : String}
      (htext : files.readText (.ofString options.package) = .ok text) :
      Reads files (.render options) text
  | rules {set : Option String} {file text : String} {items : List String}
      (htext : files.readText (.ofString file) = .ok text) :
      Reads files (.preview set (some file) items) text
  | document {file text : String} (htext : files.readText (.ofString file) = .ok text) :
      Reads files (.validate file) text

/-- **A JSON text may be too much for a command**: more brackets are open in it than there is room
for, its document is too deep to be followed, or an escape in it spells half of a surrogate
pair. -/
inductive Overstrains [limits : NestingLimits] (text : String) : Prop where
  | brackets {follower : String} (h : Json.Exceeds (.depth follower) text.toList)
  | document {v : Value} (hread : Json.parse text = .ok v)
      (h : limits.nodes ≤ v.depth ∨ limits.values ≤ v.depth)
  | half (h : Json.hasLoneHalf text = true)

/-- A JSON text of a command may be too much for it. -/
def Strains [NestingLimits] (s : Surroundings) (command : Command) : Prop :=
  ∃ text, Reads s.files command text ∧ Overstrains text

/-! ## Documents -/

theorem depth_treeOf_le (document : Value) : (treeOf document).depth ≤ document.depth := by
  unfold treeOf
  split
  · split
    · exact Nat.le_refl _
    · rename_i entries _
      unfold Entries.get?
      cases hlookup : entries.lookup "content" with
      | none => exact Nat.le_refl _
      | some content => exact Nat.le_succ_of_le (Schema.depth_le_of_lookup hlookup)
  · exact Nat.le_refl _

theorem isWritable_treeOf {document : Value} (h : document.isWritable = true) :
    (treeOf document).isWritable = true := by
  unfold treeOf
  split
  · split
    · exact h
    · rename_i entries _
      unfold Entries.get?
      cases hlookup : entries.lookup "content" with
      | none => exact h
      | some content => exact Value.isWritable_of_lookup h hlookup
  · exact h

section Documents

variable [limits : NestingLimits] {files : Directory} {file : String} {document : Value}

/-- A document in a file is that of the text of the file. -/
theorem exists_text_of_readJson (h : files.readJson (.ofString file) = .ok document) :
    ∃ text, files.readText (.ofString file) = .ok text ∧ Json.parse text = .ok document := by
  obtain ⟨text, htext, hread⟩ := bind_eq_ok_iff.mp h
  refine ⟨text, htext, ?_⟩
  unfold readJsonText at hread
  split at hread
  · cases hread
    assumption
  · cases hread
  · cases hread
  · cases hread

/-- There is room to check a document that is not too much. -/
theorem depth_treeOf_lt {s : Surroundings}
    (hread : s.files.readJson (.ofString file) = .ok document)
    (h : ¬Strains s (.validate file)) : (treeOf document).depth < limits.nodes := by
  obtain ⟨text, htext, hparse⟩ := exists_text_of_readJson hread
  by_contra hdeep
  have hnodes := Nat.le_trans (Nat.not_lt.mp hdeep) (depth_treeOf_le document)
  exact h ⟨text, .document htext, .document hparse (.inl hnodes)⟩

/-- Of a document that is not too much, as much room as it takes finds the same. -/
theorem checkWithin_treeOf {s : Surroundings}
    (hread : s.files.readJson (.ofString file) = .ok document)
    (h : ¬Strains s (.validate file)) :
    checkWithin limits.nodes (treeOf document) = checkContent (treeOf document) :=
  checkWithin_congr (depth_treeOf_lt hread h) (Nat.lt_succ_self _)

end Documents

end PromptTree.Command
