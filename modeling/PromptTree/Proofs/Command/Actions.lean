import PromptTree.Command.Run
import PromptTree.Proofs.Engine.Previews
import PromptTree.Proofs.Store.Loading

/-!
# How actions go

A command comes to what its action comes to, errors being told in the report
(`run_of_configures`), unless the surroundings have no settings (`run_of_misconfigures`).  An
action goes one step after the other, and each step may end it: the relations `RenderGoes`,
`PreviewGoes` and `ValidateGoes` say where an action ended and with what, for every case there
is.

What stops an action while it reads a file or an argument is a failure of that reading; what
else is wrong with it is told.

## Main Definitions

* `Surroundings.Configures`, `Surroundings.Misconfigures` — the settings of surroundings, and
  why there are none.
* `Command.ArgumentSpoils` — the failures of reading an argument.
* `Command.RenderGoes`, `Command.PreviewGoes`, `Command.ValidateGoes` — how actions go.
-/

namespace PromptTree

/-! ## Settings -/

namespace Surroundings

variable {s : Surroundings} {settings : Settings}

/-- The settings are those of the surroundings, and name a level of messages. -/
def Configures (s : Surroundings) (settings : Settings) : Prop :=
  Settings.load s.files s.environment = .ok settings ∧
    (Log.levelNumbers.lookup (Text.upper settings.logLevel)).isSome

/-- Why surroundings stop every command: there are no settings, or the level of messages is
none. -/
inductive Misconfigures (s : Surroundings) : Stop → Prop where
  | settings {stop : Stop} (h : Settings.load s.files s.environment = .error stop) :
      s.Misconfigures stop
  | level {settings : Settings} (h : Settings.load s.files s.environment = .ok settings)
      (hlevel : Log.levelNumbers.lookup (Text.upper settings.logLevel) = none) :
      s.Misconfigures (.failed (.unknownLevel (Text.upper settings.logLevel)))

theorem Configures.not_misconfigures (h : s.Configures settings) {stop : Stop} :
    ¬s.Misconfigures stop := by
  obtain ⟨hload, hlevel⟩ := h
  intro hstop
  cases hstop with
  | settings hother => cases hload.symm.trans hother
  | level hother hnone =>
      cases hload.symm.trans hother
      rw [hnone] at hlevel
      cases hlevel

theorem configures_or_misconfigures (s : Surroundings) :
    (∃ settings, s.Configures settings) ∨ ∃ stop, s.Misconfigures stop := by
  cases hload : Settings.load s.files s.environment with
  | error stop => exact .inr ⟨stop, .settings hload⟩
  | ok settings =>
      cases hlevel : Log.levelNumbers.lookup (Text.upper settings.logLevel) with
      | none => exact .inr ⟨_, .level hload hlevel⟩
      | some level => exact .inl ⟨settings, hload, by rw [hlevel]; rfl⟩

end Surroundings

namespace Command

/-! ## Commands -/

theorem make_of_lookup {name : String} {json : Bool} {level : Int}
    (h : Log.levelNumbers.lookup (Text.upper name) = some level) :
    Log.Configuration.make name json = .ok ⟨level, json⟩ := by
  simp only [Log.Configuration.make, Log.threshold, h]
  rfl

theorem make_of_lookup_eq_none {name : String} {json : Bool}
    (h : Log.levelNumbers.lookup (Text.upper name) = none) :
    Log.Configuration.make name json = .error (.unknownLevel (Text.upper name)) := by
  simp only [Log.Configuration.make, Log.threshold, h]
  rfl

section Settings

variable [NestingLimits] {s : Surroundings} {settings : Settings} {command : Command}

/-- With settings, a command comes to what its action comes to; messages are told. -/
theorem run_of_configures (h : s.Configures settings) (command : Command) :
    command.run s =
      match command.action s settings with
      | .ok report => .ok report
      | .error (.told message) => .ok { status := 1, errors := asLine ("error: " ++ message) }
      | .error (.stopped stop) => .error stop := by
  obtain ⟨hload, hlevel⟩ := h
  obtain ⟨level, hlevel⟩ := Option.isSome_iff_exists.mp hlevel
  simp only [run, hload, bind, Except.bind, make_of_lookup hlevel, Except.mapError]
  rfl

theorem run_of_misconfigures {stop : Stop} (h : s.Misconfigures stop) (command : Command) :
    command.run s = .error stop := by
  cases h with
  | settings hload => simp only [run, hload, bind, Except.bind]
  | level hload hlevel =>
      simp only [run, hload, bind, Except.bind, make_of_lookup_eq_none hlevel, Except.mapError]

end Settings

/-! ## Reading -/

/-- The failures of an argument that is JSON or names a file of it. -/
inductive ArgumentSpoils [NestingLimits] (files : Directory) (argument : String) :
    Failure → Prop where
  | file {file : String} {failure : Failure} (hfile : fileOf? argument = some file)
      (h : files.Spoils file failure) : ArgumentSpoils files argument failure
  | text {limit : Json.Limit} (hfile : fileOf? argument = none)
      (h : Json.Exceeds limit argument.toList) : ArgumentSpoils files argument limit.failure

section Reading

theorem mapError_ofUnreadable_eq_stopped_iff {α : Type} {x : Except Unreadable α} {stop : Stop} :
    x.mapError Trouble.ofUnreadable = .error (Trouble.stopped stop) ↔
      ∃ failure, stop = .failed failure ∧ x = .error (.failed failure) := by
  cases x with
  | ok a => exact iff_of_false nofun nofun
  | error fault =>
      cases fault with
      | missing fault path => exact iff_of_false nofun nofun
      | malformed fault => exact iff_of_false nofun nofun
      | failed failure =>
          constructor
          · rintro ⟨⟩
            exact ⟨failure, rfl, rfl⟩
          · rintro ⟨_, rfl, ⟨⟩⟩
            rfl

variable [NestingLimits] {files : Directory} {stop : Stop}

theorem readFile_eq_stopped_iff {file : String} :
    (files.readJson (.ofString file)).mapError Trouble.ofUnreadable =
        .error (Trouble.stopped stop) ↔
      ∃ failure, stop = .failed failure ∧ files.Spoils file failure := by
  simp only [mapError_ofUnreadable_eq_stopped_iff, Directory.readJson_eq_failed_iff]

theorem readArgument_eq_stopped_iff {argument : String} :
    readArgument files argument = .error (.stopped stop) ↔
      ∃ failure, stop = .failed failure ∧ ArgumentSpoils files argument failure := by
  rw [readArgument, mapError_ofUnreadable_eq_stopped_iff]
  refine exists_congr fun failure => and_congr_right fun _ => ?_
  cases hfile : fileOf? argument with
  | some file =>
      simp only [Directory.readJson_eq_failed_iff]
      constructor
      · exact .file hfile
      · intro h
        cases h with
        | file hother h =>
            cases hfile.symm.trans hother
            exact h
        | text hnone => cases hfile.symm.trans hnone
  | none =>
      simp only [readJsonText_eq_failed_iff]
      constructor
      · rintro ⟨limit, rfl, h⟩
        exact .text hfile h
      · intro h
        cases h with
        | file hother => cases hfile.symm.trans hother
        | text _ h => exact ⟨_, rfl, h⟩

theorem readVariables_eq_stopped_iff {vars : Option String} :
    readVariables files vars = .error (.stopped stop) ↔
      ∃ argument failure, vars = some argument ∧ argument ≠ "" ∧ stop = .failed failure ∧
        ArgumentSpoils files argument failure := by
  cases vars with
  | none => exact iff_of_false nofun nofun
  | some argument =>
      simp only [readVariables]
      by_cases hempty : argument = ""
      · subst hempty
        refine iff_of_false nofun ?_
        rintro ⟨_, _, ⟨⟩, hne, -⟩
        exact hne rfl
      · rw [if_neg (by rwa [String.isEmpty_iff]), readArgument_eq_stopped_iff]
        constructor
        · rintro ⟨failure, rfl, h⟩
          exact ⟨argument, failure, rfl, hempty, rfl, h⟩
        · rintro ⟨_, failure, ⟨⟩, -, rfl, h⟩
          exact ⟨failure, rfl, h⟩

theorem loadPackage_mapError_eq_stopped_iff {file : String} :
    (files.loadPackage file).mapError Trouble.ofStop = .error (Trouble.stopped stop) ↔
      ∃ failure, stop = .failed failure ∧ files.Spoils file failure := by
  cases hload : files.loadPackage file with
  | ok store =>
      refine iff_of_false nofun ?_
      rintro ⟨failure, rfl, h⟩
      cases hload.symm.trans (Directory.loadPackage_eq_failed_iff.mpr h)
  | error other =>
      obtain ⟨e, rfl, -⟩ | ⟨failure, rfl, -⟩ := Directory.kind_or_failed_of_loadPackage hload
      · refine iff_of_false nofun ?_
        rintro ⟨failure, rfl, h⟩
        cases hload.symm.trans (Directory.loadPackage_eq_failed_iff.mpr h)
      · constructor
        · rintro ⟨⟩
          exact ⟨failure, rfl, Directory.loadPackage_eq_failed_iff.mp hload⟩
        · rintro ⟨_, rfl, h⟩
          cases hload.symm.trans (Directory.loadPackage_eq_failed_iff.mpr h)
          rfl

end Reading

/-! ## Rendering -/

/-- A count is an option of a rendering if it is at least one. -/
theorem readOptions_count (n : Int) :
    Request.readOptions (.object [("count", .int n)]) =
      if n < 1 then .faulty [⟨[.field "count"], .tooSmall 1, .int n⟩] else .ok (n, none) := by
  have hcount : Schema.withDefault [("count", Value.int n)] "count" 1 (Schema.atLeast 1) =
      (Schema.atLeast 1 (.int n)).below (.field "count") := rfl
  have hrandomize : Schema.optional [("count", Value.int n)] "randomize" Request.readRandomize =
      .ok none := rfl
  -- the options are read field by field, the count first
  change Prod.mk <$> Schema.withDefault [("count", Value.int n)] "count" 1 (Schema.atLeast 1) <*>
    Schema.optional [("count", Value.int n)] "randomize" Request.readRandomize = _
  rw [hcount, hrandomize]
  by_cases h : n < 1
  · have hfault : Schema.atLeast 1 (.int n) = .fail (.tooSmall 1) (.int n) := if_pos h
    rw [hfault, if_pos h]
    rfl
  · have hok : Schema.atLeast 1 (.int n) = .ok n := if_neg h
    rw [hok, if_neg h]
    rfl

/-- The result of a rendering with variables, from a store. -/
def resultOf (s : Surroundings) (settings : Settings) (options : RenderOptions) (vars : Entries)
    (store : Store) : Result :=
  Engine.render { resolver := store.resolver, settings, entropy := s.entropy }
    { templateId := options.entry, bindings := { vars }, count := options.count
      randomize := options.seed.map fun seed => { seed := some seed } }

/-- **How a rendering goes**: as far as its variables, its package or its count, or to the end. -/
inductive RenderGoes [NestingLimits] (s : Surroundings) (settings : Settings)
    (options : RenderOptions) : Action → Prop where
  | vars {trouble : Trouble} (h : readVariables s.files options.vars = .error trouble) :
      RenderGoes s settings options (.error trouble)
  | noObject {v : Value} (h : readVariables s.files options.vars = .ok v)
      (hv : ∀ vars, v ≠ .object vars) :
      RenderGoes s settings options
        (.ok { status := 2, errors := asLine "--vars must be a JSON object" })
  | package {vars : Entries} {trouble : Trouble}
      (hvars : readVariables s.files options.vars = .ok (.object vars))
      (h : (s.files.loadPackage options.package).mapError Trouble.ofStop = .error trouble) :
      RenderGoes s settings options (.error trouble)
  | count {vars : Entries} {store : Store}
      (hvars : readVariables s.files options.vars = .ok (.object vars))
      (hstore : s.files.loadPackage options.package = .ok store) (h : options.count < 1) :
      RenderGoes s settings options
        (.error (.stopped (.faulty [⟨[.field "count"], .tooSmall 1, .int options.count⟩])))
  | rendered {vars : Entries} {store : Store}
      (hvars : readVariables s.files options.vars = .ok (.object vars))
      (hstore : s.files.loadPackage options.package = .ok store) (h : 1 ≤ options.count) :
      RenderGoes s settings options
        (.ok (reportOf options.json s.timing (resultOf s settings options vars store)))

theorem renderGoes [NestingLimits] (s : Surroundings) (settings : Settings)
    (options : RenderOptions) :
    RenderGoes s settings options (renderAction s settings options) := by
  unfold renderAction
  cases hvars : readVariables s.files options.vars with
  | error trouble => exact .vars hvars
  | ok v =>
      by_cases hobject : ∃ vars, v = .object vars
      · obtain ⟨vars, rfl⟩ := hobject
        cases hstore : s.files.loadPackage options.package with
        | error stop => exact .package hvars (by rw [hstore]; rfl)
        | ok store =>
            simp only [bind, Except.bind, Except.mapError, readOptions_count]
            by_cases hcount : options.count < 1
            · rw [if_pos hcount]
              exact .count hvars hstore hcount
            · rw [if_neg hcount]
              exact .rendered hvars hstore (Int.not_lt.mp hcount)
      · have hno : ∀ vars, v ≠ .object vars := not_exists.mp hobject
        cases v with
        | object vars => exact absurd rfl (hno vars)
        | _ => exact .noObject hvars hno

/-! ## Previews -/

/-- Texts that are joined are never at fault: only the rules can be. -/
theorem refused_of_previewSeparator {rules : Value} {items : List String} {stop : Stop}
    (h : previewSeparator rules (Value.ofStrings items) = .error stop) :
    ∃ e, stop = .refused e := by
  simp only [previewSeparator, Engine.sampleTexts_ofStrings, bind, Except.bind,
    Except.mapError] at h
  cases hrules : coerceRules rules with
  | ok rules =>
      rw [hrules] at h
      cases h
  | error e =>
      rw [hrules] at h
      cases h
      exact ⟨e, rfl⟩

section Previews

variable [NestingLimits]

theorem previewRules_of_name {files : Directory} {name : String} {rules : Option String}
    (h : name ≠ "") : previewRules files (some name) rules = .ok (.str name) := by
  have hname : name.isEmpty = false := by simpa using h
  unfold previewRules
  rw [Option.filter_some, hname]
  rfl

theorem previewRules_of_file {files : Directory} {file : String} :
    previewRules files none (some file) =
      (files.readJson (.ofString file)).mapError Trouble.ofUnreadable :=
  rfl

/-- **How a preview goes**: its rules cannot be read, they are none, or it joins the items. -/
inductive PreviewGoes (s : Surroundings) (set rules : Option String) : Action → Prop where
  | rules {trouble : Trouble} (h : previewRules s.files set rules = .error trouble) :
      PreviewGoes s set rules (.error trouble)
  | refused {v : Value} (h : previewRules s.files set rules = .ok v) (e : PromptError) :
      PreviewGoes s set rules (.error (.told e.text))
  | joined {v : Value} (h : previewRules s.files set rules = .ok v) (text : String) :
      PreviewGoes s set rules (.ok { status := 0, output := asLine text })

theorem previewGoes (s : Surroundings) (set rules : Option String) (items : List String) :
    PreviewGoes s set rules (previewAction s set rules items) := by
  unfold previewAction
  cases hrules : previewRules s.files set rules with
  | error trouble => exact .rules hrules
  | ok v =>
      simp only [bind, Except.bind]
      cases hjoin : previewSeparator v (Value.ofStrings items) with
      | ok text => exact .joined hrules text
      | error stop =>
          obtain ⟨e, rfl⟩ := refused_of_previewSeparator hjoin
          exact .refused hrules e

end Previews

/-! ## Validations -/

section Validations

variable [limits : NestingLimits]

/-- **How a validation goes**: the document cannot be read, its check fails, or there are
problems or none. -/
inductive ValidateGoes (s : Surroundings) (file : String) : Action → Prop where
  | document {trouble : Trouble}
      (h : (s.files.readJson (.ofString file)).mapError Trouble.ofUnreadable = .error trouble) :
      ValidateGoes s file (.error trouble)
  | fails {document : Value} {failure : Failure}
      (hread : s.files.readJson (.ofString file) = .ok document)
      (h : checkWithin limits.nodes (treeOf document) = .error failure) :
      ValidateGoes s file (.error (.stopped (.failed failure)))
  | flawless {document : Value} (hread : s.files.readJson (.ofString file) = .ok document)
      (h : checkWithin limits.nodes (treeOf document) = .ok []) :
      ValidateGoes s file (.ok { status := 0, output := asLine "OK" })
  | flawed {document : Value} {problems : List Problem}
      (hread : s.files.readJson (.ofString file) = .ok document)
      (h : checkWithin limits.nodes (treeOf document) = .ok problems) (hne : problems ≠ []) :
      ValidateGoes s file (.ok { status := 1, output := asLines (problems.map problemLine) })

theorem validateGoes (s : Surroundings) (file : String) :
    ValidateGoes s file (validateAction s file) := by
  unfold validateAction
  cases hread : s.files.readJson (.ofString file) with
  | error fault => exact .document (by rw [hread]; rfl)
  | ok document =>
      simp only [bind, Except.bind, Except.mapError]
      cases hcheck : checkWithin limits.nodes (treeOf document) with
      | error failure => exact .fails hread hcheck
      | ok problems =>
          cases problems with
          | nil => exact .flawless hread hcheck
          | cons problem rest => exact .flawed hread hcheck (List.cons_ne_nil _ _)

end Validations

end Command

end PromptTree
