import PromptTree.Proofs.Files.Documents
import PromptTree.Store.Load

/-!
# Loading packages

A package file is told to be missing, to be no JSON text or to be no package by an error of
one kind.  The loading of a package gives a store or such an error exactly for the files that
can be read without a failure (`Directory.loadPackage_returns_iff`): it hands on the failures of
reading the file, and has none of its own.

Files that are nested deeper than there is room for are left open: whether such a file is read
depends on how much room there is beyond what is certain.
-/

namespace PromptTree.Directory

section Loading

variable [NestingLimits] {files : Directory} {file : String}

/-- The loading of a package stops with an error of its kind, or with a failure of reading the
file. -/
theorem kind_or_failed_of_loadPackage {stop : Stop} (h : files.loadPackage file = .error stop) :
    (∃ e, stop = .refused e ∧ e.kind = .packageLoad) ∨
      ∃ failure, stop = .failed failure ∧
        files.readJson (.ofString file) = .error (.failed failure) := by
  unfold loadPackage at h
  dsimp only at h
  split at h
  · cases h
    exact .inl ⟨_, rfl, rfl⟩
  · cases h
    exact .inl ⟨_, rfl, rfl⟩
  · rename_i failure hread
    cases h
    exact .inr ⟨failure, rfl, hread⟩
  · split at h
    · cases h
    · cases h
      exact .inl ⟨_, rfl, rfl⟩

theorem loadPackage_of_failed {failure : Failure}
    (h : files.readJson (.ofString file) = .error (.failed failure)) :
    files.loadPackage file = .error (.failed failure) := by
  simp only [loadPackage, h]

theorem loadPackage_eq_failed_iff {failure : Failure} :
    files.loadPackage file = .error (.failed failure) ↔ files.Spoils file failure := by
  rw [← readJson_eq_failed_iff]
  refine ⟨fun h => ?_, loadPackage_of_failed⟩
  obtain ⟨e, heq, -⟩ | ⟨other, heq, hread⟩ := kind_or_failed_of_loadPackage h
  · cases heq
  · cases heq
    exact hread

/-- **The loading of a package returns but for files that spoil the run.**

* If the file is not nested too deep, it gives a store or the error of packages exactly if the
  path has no null character and the file, if there is one, is a text without an integer of more
  digits than are read.
* It fails with the failures of reading such a file, and with no others but that of a file that
  is nested too deep. -/
theorem loadPackage_returns_iff (files : Directory) (file : String) :
    (¬files.Overnests file →
      (((∃ store, files.loadPackage file = .ok store) ∨
        ∃ e, files.loadPackage file = .error (.refused e) ∧ e.kind = .packageLoad) ↔
      files.Legible file)) ∧
    (∀ failure, (∀ follower, failure ≠ .nestedTooDeeply follower) →
      (files.loadPackage file = .error (.failed failure) ↔ files.Spoils file failure)) ∧
    ∀ follower, files.loadPackage file = .error (.failed (.nestedTooDeeply follower)) →
      files.Overnests file := by
  refine ⟨fun hflat => ⟨fun hreturns => ?_, fun hlegible => ?_⟩, ?_, ?_⟩
  · by_contra hbad
    obtain ⟨failure, hspoils⟩ := exists_spoils_iff.mpr (.inl hbad)
    rw [loadPackage_eq_failed_iff.mpr hspoils] at hreturns
    obtain ⟨store, hstore⟩ | ⟨e, he, -⟩ := hreturns
    · cases hstore
    · cases he
  · cases hload : files.loadPackage file with
    | ok store => exact .inl ⟨store, rfl⟩
    | error stop =>
        obtain ⟨e, rfl, he⟩ | ⟨failure, rfl, -⟩ := kind_or_failed_of_loadPackage hload
        · exact .inr ⟨e, rfl, he⟩
        · obtain hbad | hdeep := exists_spoils_iff.mp ⟨failure, loadPackage_eq_failed_iff.mp hload⟩
          · exact absurd hlegible hbad
          · exact absurd hdeep hflat
  · exact fun failure _ => loadPackage_eq_failed_iff
  · exact fun follower hload => ⟨follower, loadPackage_eq_failed_iff.mp hload⟩

end Loading

/-- Not every file gives a store or the error of packages: one that is no text fails. -/
theorem loadPackage_fails :
    let files : Directory := [(["p.json"], .file [0xFF])]
    files.loadPackage "p.json" = .error (.failed (.undecodable ⟨0, [0xFF], .start⟩)) ∧
      ¬∀ (files : Directory) (file : String), (∃ store, files.loadPackage file = .ok store) ∨
        ∃ e, files.loadPackage file = .error (.refused e) ∧ e.kind = .packageLoad := by
  intro files
  have hfails : files.loadPackage "p.json" =
      .error (.failed (.undecodable ⟨0, [0xFF], .start⟩)) := rfl
  refine ⟨hfails, fun hall => ?_⟩
  have hreturns := hall files "p.json"
  rw [hfails] at hreturns
  obtain ⟨store, hstore⟩ | ⟨e, he, -⟩ := hreturns
  · cases hstore
  · cases he

end PromptTree.Directory
