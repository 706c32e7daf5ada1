import PromptTree.Files.Reader
import PromptTree.Proofs.Json.Limits
import PromptTree.Proofs.Text.Decoding
import PromptTree.Proofs.Text.Marks

/-!
# Documents in files

What a file must not hold to be read as a document without a failure of the run.  A file that
is not there and a text that is no JSON are no failures: they are faults that the reader
reports.  The failures are four (`Directory.Spoils`): a null character in the path, bytes
that are no text, an integer of more digits than are read, and lists and objects nested deeper
than there is room for.

## Main Definitions

* `Directory.Spoils` — the failures of reading the file of a path.
* `Directory.Legible` — files without them, but for their nesting.
* `Directory.Overnests` — files that are nested too deep.

## Design Notes

A path is a text, and a file name that is no text has none.
-/

namespace PromptTree

/-! ## Characters of paths -/

namespace Text

variable {c separator : Char}

theorem exists_mem_splitChars_iff {cs : List Char} (h : c ≠ separator) :
    (∃ piece ∈ splitChars separator cs, c ∈ piece) ↔ c ∈ cs := by
  induction cs with
  | nil => simp [splitChars]
  | cons first rest ih =>
      unfold splitChars
      split
      · rename_i heq
        rw [List.exists_mem_cons_iff, ih, heq]
        simp [h]
      · split
        · rename_i piece pieces hsplit
          rw [hsplit, List.exists_mem_cons_iff] at ih
          rw [List.exists_mem_cons_iff, List.mem_cons, List.mem_cons, or_assoc, ih]
        · rename_i hsplit
          rw [hsplit] at ih
          have hrest : c ∉ rest := by simpa using ih
          simp [hrest]

theorem mem_join_iff {separator : String} {texts : List String} (h : c ∉ separator.toList) :
    c ∈ (join separator texts).toList ↔ ∃ text ∈ texts, c ∈ text.toList := by
  induction texts with
  | nil => simp [join]
  | cons first rest ih =>
      cases rest with
      | nil => simp [join]
      | cons second others =>
          rw [join, String.toList_append, String.toList_append, List.mem_append, List.mem_append,
            or_iff_right h, ih]
          · exact (List.exists_mem_cons_iff (fun text : String => c ∈ text.toList) _ _).symm
          · exact List.cons_ne_nil second others

end Text

namespace Path

variable {c : Char} {s : String}

theorem notMem_root (hslash : c ≠ '/') : c ∉ (Path.ofString s).root.toList := by
  have hroot : ∀ cs, c ∉ (rootOf cs).toList := by
    intro cs
    unfold rootOf
    split
    all_goals simp [hslash]
  exact hroot s.toList

theorem exists_mem_names_iff (hslash : c ≠ '/') (hpoint : c ≠ '.') :
    (∃ name ∈ (Path.ofString s).names, c ∈ name.toList) ↔ c ∈ s.toList := by
  rw [← Text.exists_mem_splitChars_iff hslash]
  simp only [ofString, Text.splitAt, List.mem_filter, List.mem_map]
  constructor
  · rintro ⟨_, ⟨⟨piece, hpiece, rfl⟩, -⟩, hc⟩
    rw [String.toList_ofList] at hc
    exact ⟨piece, hpiece, hc⟩
  · rintro ⟨piece, hpiece, hc⟩
    refine ⟨String.ofList piece, ⟨⟨piece, hpiece, rfl⟩, ?_⟩, by rwa [String.toList_ofList]⟩
    -- the names that are left out have no other character than a point
    have hne : ∀ name : String, c ∉ name.toList → String.ofList piece ≠ name := by
      rintro _ hname rfl
      rw [String.toList_ofList] at hname
      exact hname hc
    simp [hne "" (by simp), hne "." (by simp [hpoint])]

/-- The text of a path has the characters of the text that it was read from, slashes and points
apart. -/
theorem mem_text_ofString_iff (hslash : c ≠ '/') (hpoint : c ≠ '.') :
    c ∈ (Path.ofString s).text.toList ↔ c ∈ s.toList := by
  rw [← exists_mem_names_iff (s := s) hslash hpoint]
  unfold text
  split
  · rename_i hempty
    obtain ⟨-, hnames⟩ := Bool.and_eq_true_iff.mp hempty
    rw [List.isEmpty_iff.mp hnames]
    simp [hpoint]
  · rw [String.toList_append, List.mem_append, or_iff_right (notMem_root hslash),
      Text.mem_join_iff (by simp [hslash])]

end Path

/-! ## Failures -/

section Limits

variable [NestingLimits]

theorem readJsonText_eq_failed_iff {text : String} {failure : Failure} :
    readJsonText text = .error (.failed failure) ↔
      ∃ limit : Json.Limit, failure = limit.failure ∧ Json.Exceeds limit text.toList := by
  simp only [← Json.parseChars_eq_error_iff]
  unfold readJsonText Json.parse
  split
  · rename_i v hv
    rw [hv]
    exact iff_of_false nofun nofun
  · rename_i n hn
    rw [hn]
    constructor
    · rintro ⟨⟩
      exact ⟨.digits n, rfl, rfl⟩
    · rintro ⟨limit, rfl, hlimit⟩
      cases limit with
      | digits _ =>
          cases hlimit
          rfl
      | depth _ => cases hlimit
  · rename_i follower hfollower
    rw [hfollower]
    constructor
    · rintro ⟨⟩
      exact ⟨.depth follower, rfl, rfl⟩
    · rintro ⟨limit, rfl, hlimit⟩
      cases limit with
      | digits _ => cases hlimit
      | depth _ =>
          cases hlimit
          rfl
  · rename_i fault hlong hdeep hfault
    rw [hfault]
    refine iff_of_false nofun ?_
    rintro ⟨limit, -, hlimit⟩
    cases limit with
    | digits n => exact hlong n (Except.error.inj hlimit)
    | depth follower => exact hdeep follower (Except.error.inj hlimit)

end Limits

namespace Directory

/-- The null character, which no path may hold. -/
def nul : Char :=
  Char.ofNat 0

theorem contains_nul_iff {file : String} :
    (Path.ofString file).text.toList.contains (Char.ofNat 0) = true ↔ nul ∈ file.toList := by
  rw [List.contains_iff_mem]
  exact Path.mem_text_ofString_iff (by decide) (by decide)

variable [NestingLimits]

/-- **The failures of reading a file as a document**, given the text of its path. -/
inductive Spoils (files : Directory) (file : String) : Failure → Prop where
  | nullInPath (h : nul ∈ file.toList) : Spoils files file .nullInPath
  | undecodable {bytes : List UInt8} {fault : Text.Utf8.Fault} (h : nul ∉ file.toList)
      (hbytes : files.bytes (.ofString file) = .ok bytes)
      (hfault : Text.Utf8.decode bytes = .error fault) : Spoils files file (.undecodable fault)
  | limit {chars : List Char} {limit : Json.Limit} (h : nul ∉ file.toList)
      (hbytes : files.bytes (.ofString file) = .ok (Text.Utf8.encode chars))
      (hlimit : Json.Exceeds limit (Text.Utf8.plainNewlines chars)) :
      Spoils files file limit.failure

/-- **A file that is read without a failure**, if there is room for it: its path has no null
character, and if there is such a file, then it is a text in which no integer is too long. -/
def Legible (files : Directory) (file : String) : Prop :=
  nul ∉ file.toList ∧ ∀ bytes, files.bytes (.ofString file) = .ok bytes →
    ∃ chars, bytes = Text.Utf8.encode chars ∧
      ∀ n, ¬Json.Exceeds (.digits n) (Text.Utf8.plainNewlines chars)

/-- **A file with a list or an object for which there is no room.** -/
def Overnests (files : Directory) (file : String) : Prop :=
  ∃ follower, files.Spoils file (.nestedTooDeeply follower)

variable {files : Directory} {file : String} {failure : Failure}

/-- The files that spoil a run are those that are not legible, and those that are nested too
deep. -/
theorem exists_spoils_iff :
    (∃ failure, files.Spoils file failure) ↔ ¬files.Legible file ∨ files.Overnests file := by
  constructor
  · rintro ⟨failure, h⟩
    cases h with
    | nullInPath h => exact .inl fun hlegible => hlegible.1 h
    | undecodable h hbytes hfault =>
        refine .inl fun hlegible => ?_
        obtain ⟨chars, hchars, -⟩ := hlegible.2 _ hbytes
        exact Text.Utf8.exists_decode_eq_error_iff.mp ⟨_, hfault⟩ ⟨chars, hchars⟩
    | @limit chars limit h hbytes hlimit =>
        cases limit with
        | digits n =>
            refine .inl fun hlegible => ?_
            obtain ⟨others, heq, hothers⟩ := hlegible.2 _ hbytes
            rw [← Text.Utf8.decode_eq_ok_iff, Text.Utf8.decode_eq_ok_iff.mpr rfl] at heq
            cases heq
            exact hothers n hlimit
        | depth follower => exact .inr ⟨follower, .limit h hbytes hlimit⟩
  · rintro (h | ⟨follower, hspoils⟩)
    swap
    · exact ⟨_, hspoils⟩
    by_cases hnul : nul ∈ file.toList
    · exact ⟨_, .nullInPath hnul⟩
    have hbad : ∃ bytes, files.bytes (.ofString file) = .ok bytes ∧
        ∀ chars, bytes = Text.Utf8.encode chars →
          ∃ n, Json.Exceeds (.digits n) (Text.Utf8.plainNewlines chars) := by
      by_contra hgood
      refine h ⟨hnul, fun bytes hbytes => ?_⟩
      by_contra hno
      refine hgood ⟨bytes, hbytes, fun chars hchars => ?_⟩
      by_contra hlong
      exact hno ⟨chars, hchars, not_exists.mp hlong⟩
    obtain ⟨bytes, hbytes, hbad⟩ := hbad
    cases hdecode : Text.Utf8.decode bytes with
    | error fault => exact ⟨_, .undecodable hnul hbytes hdecode⟩
    | ok chars =>
        obtain rfl := Text.Utf8.decode_eq_ok_iff.mp hdecode
        obtain ⟨n, hlong⟩ := hbad chars rfl
        exact ⟨_, .limit hnul hbytes hlong⟩

/-! ## The reader -/

theorem readJson_of_nul (h : nul ∈ file.toList) :
    files.readJson (.ofString file) = .error (.failed .nullInPath) := by
  rw [readJson, readText, if_pos (contains_nul_iff.mpr h)]
  rfl

section Bytes

variable {bytes : List UInt8} (h : nul ∉ file.toList)

include h

theorem readJson_of_missing {fault : FileFault}
    (hbytes : files.bytes (.ofString file) = .error fault) :
    files.readJson (.ofString file) = .error (.missing fault (.ofString file)) := by
  rw [readJson, readText, if_neg (mt contains_nul_iff.mp h), hbytes]
  rfl

theorem readJson_of_fault {fault : Text.Utf8.Fault}
    (hbytes : files.bytes (.ofString file) = .ok bytes)
    (hfault : Text.Utf8.decode bytes = .error fault) :
    files.readJson (.ofString file) = .error (.failed (.undecodable fault)) := by
  simp only [readJson, readText, if_neg (mt contains_nul_iff.mp h), hbytes, hfault]
  rfl

theorem readJson_of_text {chars : List Char}
    (hbytes : files.bytes (.ofString file) = .ok (Text.Utf8.encode chars)) :
    files.readJson (.ofString file) =
      readJsonText (String.ofList (Text.Utf8.plainNewlines chars)) := by
  simp only [readJson, readText, if_neg (mt contains_nul_iff.mp h), hbytes,
    Text.Utf8.decode_eq_ok_iff.mpr rfl]
  rfl

end Bytes

/-- **The reading of a document fails for these reasons and for no others.** -/
theorem readJson_eq_failed_iff :
    files.readJson (.ofString file) = .error (.failed failure) ↔ files.Spoils file failure := by
  constructor
  · intro h
    by_cases hnul : nul ∈ file.toList
    · rw [readJson_of_nul hnul] at h
      cases h
      exact .nullInPath hnul
    cases hbytes : files.bytes (.ofString file) with
    | error fault =>
        rw [readJson_of_missing hnul hbytes] at h
        cases h
    | ok bytes =>
        cases hdecode : Text.Utf8.decode bytes with
        | error fault =>
            rw [readJson_of_fault hnul hbytes hdecode] at h
            cases h
            exact .undecodable hnul hbytes hdecode
        | ok chars =>
            obtain rfl := Text.Utf8.decode_eq_ok_iff.mp hdecode
            rw [readJson_of_text hnul hbytes, readJsonText_eq_failed_iff,
              String.toList_ofList] at h
            obtain ⟨limit, rfl, hlimit⟩ := h
            exact .limit hnul hbytes hlimit
  · intro h
    cases h with
    | nullInPath hnul => exact readJson_of_nul hnul
    | undecodable hnul hbytes hfault => exact readJson_of_fault hnul hbytes hfault
    | limit hnul hbytes hlimit =>
        rw [readJson_of_text hnul hbytes, readJsonText_eq_failed_iff, String.toList_ofList]
        exact ⟨_, rfl, hlimit⟩

end Directory

end PromptTree
