import PromptTree.Proofs.Command.Alternatives
import PromptTree.Proofs.Command.Strains

/-!
# How commands end

A command of a command line that is accepted ends in an exit status, and a status of zero says
that it did what it was told; but there are escapes (`Command.run_ends_iff`).  A rendering
whose count is below one, a preview whose separator set has a blank name and a document with a
count that cannot be looked up stop without a report, and so does whatever cannot be read
without a failure of the run.

These are the escapes of commands that are not too much for a run (`Command.Strains`).  How the
others end is left open, but they stop for nothing else.

## Main Definitions

* `Command.Escapes` — why a command stops without a report.
* `Command.Renders` — the result of a rendering that is made.
-/

namespace PromptTree.Command

/-! ## Escapes -/

/-- **Why a command stops without a report**, the surroundings apart. -/
inductive Escapes [NestingLimits] (s : Surroundings) : Command → Stop → Prop where
  | vars {options : RenderOptions} {argument : String} {failure : Failure}
      (hvars : options.vars = some argument) (hne : argument ≠ "")
      (h : ArgumentSpoils s.files argument failure) : Escapes s (.render options) (.failed failure)
  | package {options : RenderOptions} {vars : Entries} {failure : Failure}
      (hvars : readVariables s.files options.vars = .ok (.object vars))
      (h : s.files.Spoils options.package failure) : Escapes s (.render options) (.failed failure)
  | count {options : RenderOptions} {vars : Entries} {store : Store}
      (hvars : readVariables s.files options.vars = .ok (.object vars))
      (hstore : s.files.loadPackage options.package = .ok store) (h : options.count < 1) :
      Escapes s (.render options)
        (.faulty [⟨[.field "count"], .tooSmall 1, .int options.count⟩])
  | blankSet {items : List String} : Escapes s (.preview (some "") none items) (.failed .noRules)
  | rules {file : String} {items : List String} {failure : Failure}
      (h : s.files.Spoils file failure) :
      Escapes s (.preview none (some file) items) (.failed failure)
  | document {file : String} {failure : Failure} (h : s.files.Spoils file failure) :
      Escapes s (.validate file) (.failed failure)
  | caseCount {file kind : String} {document node count : Value}
      (hread : s.files.readJson (.ofString file) = .ok document)
      (hnode : Reaches (treeOf document) node) (hcount : CountOf node count)
      (hkind : unhashable? count = some kind) :
      Escapes s (.validate file) (.failed (.unhashable kind))

/-- The result of a rendering that is made. -/
def Renders [NestingLimits] (s : Surroundings) (options : RenderOptions) (result : Result) : Prop :=
  ∃ settings vars store, Settings.load s.files s.environment = .ok settings ∧
    readVariables s.files options.vars = .ok (.object vars) ∧
    s.files.loadPackage options.package = .ok store ∧ 1 ≤ options.count ∧
    result = resultOf s settings options vars store

section Escapes

variable [NestingLimits] {s : Surroundings} {settings : Settings} {stop : Stop}

theorem escapes_of_renderAction {options : RenderOptions}
    (h : renderAction s settings options = .error (.stopped stop)) :
    Escapes s (.render options) stop := by
  have hgoes := renderGoes s settings options
  rw [h] at hgoes
  cases hgoes with
  | vars hvars =>
      obtain ⟨argument, failure, hargument, hne, rfl, hspoils⟩ :=
        readVariables_eq_stopped_iff.mp hvars
      exact .vars hargument hne hspoils
  | package hvars hpackage =>
      obtain ⟨failure, rfl, hspoils⟩ := loadPackage_mapError_eq_stopped_iff.mp hpackage
      exact .package hvars hspoils
  | count hvars hstore hcount => exact .count hvars hstore hcount

theorem escapes_of_previewAction {set rules : Option String} {items : List String}
    (hone : (∃ name, set = some name ∧ rules = none) ∨ ∃ file, set = none ∧ rules = some file)
    (h : previewAction s set rules items = .error (.stopped stop)) :
    Escapes s (.preview set rules items) stop := by
  have hgoes := previewGoes s set rules items
  rw [h] at hgoes
  cases hgoes with
  | rules hrules =>
      obtain ⟨name, rfl, rfl⟩ | ⟨file, rfl, rfl⟩ := hone
      · by_cases hempty : name = ""
        · subst hempty
          cases hrules
          exact .blankSet
        · rw [previewRules_of_name hempty] at hrules
          cases hrules
      · obtain ⟨failure, rfl, hspoils⟩ := readFile_eq_stopped_iff.mp hrules
        exact .rules hspoils

theorem escapes_of_validateAction {file : String}
    (h : validateAction s file = .error (.stopped stop)) :
    Escapes s (.validate file) stop ∨ Strains s (.validate file) := by
  have hgoes := validateGoes s file
  rw [h] at hgoes
  cases hgoes with
  | document hread =>
      obtain ⟨failure, rfl, hspoils⟩ := readFile_eq_stopped_iff.mp hread
      exact .inl (.document hspoils)
  | fails hread hcheck =>
      obtain ⟨node, hnode, hfails⟩ | ⟨hdeep, -⟩ := fails_of_checkWithin_error hcheck
      · obtain ⟨count, kind, hcount, hkind, rfl⟩ | ⟨shown, hshows, hlong⟩ := fails_node.mp hfails
        · exact .inl (.caseCount hread hnode hcount hkind)
        · -- no integer of a document that was read is too long to be shown
          obtain ⟨text, -, hparse⟩ := exists_text_of_readJson hread
          have hwritable := isWritable_of_shows hnode hshows
            (isWritable_treeOf (Json.isWritable_of_parse hparse))
          rw [Value.writing_of_isWritable hwritable] at hlong
          cases hlong
      · by_contra hnone
        have hroom := depth_treeOf_lt hread (not_or.mp hnone).2
        omega

/-- A preview of a named separator set escapes only if the name is blank. -/
theorem eq_blank_of_escapes {name : String} {items : List String}
    (h : Escapes s (.preview (some name) none items) stop) : name = "" := by
  cases h
  rfl

/-- A preview of a named separator set reads no JSON. -/
theorem not_strains_named {name : String} {items : List String} :
    ¬Strains s (.preview (some name) none items) := by
  rintro ⟨text, hreads, -⟩
  cases hreads

/-- **A command that escapes does so in its action.** -/
theorem exists_stopped_of_escapes {command : Command} (h : Escapes s command stop)
    (hcalm : ¬Strains s command) :
    ∃ other, command.action s settings = .error (.stopped other) := by
  cases h with
  | @vars options argument failure hvars hne h =>
      have hread := readVariables_eq_stopped_iff.mpr ⟨argument, failure, hvars, hne, rfl, h⟩
      refine ⟨.failed failure, ?_⟩
      simp only [action, renderAction, hread, bind, Except.bind]
  | @package options vars failure hvars h =>
      have hload := loadPackage_mapError_eq_stopped_iff.mpr ⟨failure, rfl, h⟩
      refine ⟨.failed failure, ?_⟩
      simp only [action, renderAction, hvars, hload, bind, Except.bind]
  | @count options vars store hvars hstore h =>
      refine ⟨.faulty [⟨[.field "count"], .tooSmall 1, .int options.count⟩], ?_⟩
      simp only [action, renderAction, hvars, hstore, bind, Except.bind, Except.mapError,
        readOptions_count, if_pos h]
      rfl
  | blankSet => exact ⟨_, rfl⟩
  | @rules file items failure h =>
      have hread := readFile_eq_stopped_iff.mpr ⟨failure, rfl, h⟩
      refine ⟨.failed failure, ?_⟩
      simp only [action, previewAction, previewRules_of_file, hread, bind, Except.bind]
  | @document file failure h =>
      have hread := readFile_eq_stopped_iff.mpr ⟨failure, rfl, h⟩
      refine ⟨.failed failure, ?_⟩
      simp only [action, validateAction, hread, bind, Except.bind]
  | caseCount hread hnode hcount hkind =>
      have hfails := fails_node.mpr (.inl ⟨_, _, hcount, hkind, rfl⟩)
      -- the check stops at the first such count, which need not be this one
      obtain ⟨first, hcheck⟩ := exists_checkWithin_error hnode hfails (depth_treeOf_lt hread hcalm)
      refine ⟨.failed first, ?_⟩
      simp only [action, validateAction, hread, bind, Except.bind, Except.mapError, hcheck]
      rfl

end Escapes

/-! ## Exit statuses -/

section Statuses

theorem status_reportOf_eq_zero_iff {json : Bool} {timing : Timing} {result : Result} :
    (reportOf json timing result).status = 0 ↔ result.success = true := by
  unfold reportOf
  cases json
  all_goals
    cases result.success
    · exact iff_of_false nofun nofun
    · exact iff_of_true rfl rfl

theorem status_reportOf_le_one {json : Bool} {timing : Timing} {result : Result} :
    (reportOf json timing result).status ≤ 1 := by
  unfold reportOf
  cases json
  all_goals
    cases result.success
    · exact Nat.le_refl 1
    · exact Nat.zero_le 1

variable [NestingLimits] {s : Surroundings} {settings : Settings} {report : Report}

/-- A command that has a report ends with its action, or tells of a message with status one. -/
theorem action_of_run (hconfigures : s.Configures settings) {command : Command}
    (h : command.run s = .ok report) :
    command.action s settings = .ok report ∨
      report.status = 1 ∧ ∃ message, command.action s settings = .error (.told message) := by
  rw [run_of_configures hconfigures] at h
  split at h
  · rename_i haction
    cases h
    exact .inl haction
  · rename_i message haction
    cases h
    exact .inr ⟨rfl, message, haction⟩
  · cases h

/-- A rendering that is made is reported. -/
theorem renderAction_of_renders (hload : Settings.load s.files s.environment = .ok settings)
    {options : RenderOptions} {result : Result} (h : Renders s options result) :
    renderAction s settings options = .ok (reportOf options.json s.timing result) := by
  obtain ⟨other, vars, store, hother, hvars, hstore, hcount, rfl⟩ := h
  cases hload.symm.trans hother
  simp only [renderAction, hvars, hstore, bind, Except.bind, Except.mapError, readOptions_count,
    if_neg (Int.not_lt.mpr hcount)]
  rfl

/-- A report of a rendering is that of a result, or says that the variables are no object. -/
theorem renders_or_status_of_renderAction
    (hload : Settings.load s.files s.environment = .ok settings) {options : RenderOptions}
    (h : renderAction s settings options = .ok report) :
    (∃ result, Renders s options result ∧ report = reportOf options.json s.timing result) ∨
      report.status = 2 := by
  have hgoes := renderGoes s settings options
  rw [h] at hgoes
  cases hgoes with
  | noObject => exact .inr rfl
  | rendered hvars hstore hcount =>
      exact .inl ⟨_, ⟨settings, _, _, hload, hvars, hstore, hcount, rfl⟩, rfl⟩

theorem status_render_iff (hconfigures : s.Configures settings) {options : RenderOptions}
    (h : (Command.render options).run s = .ok report) :
    report.status = 0 ↔ ∃ result, Renders s options result ∧ result.success = true := by
  have hreport : ∀ result, Renders s options result →
      (Command.render options).action s settings = .ok (reportOf options.json s.timing result) :=
    fun _ hmade => renderAction_of_renders hconfigures.1 hmade
  obtain haction | ⟨hstatus, message, haction⟩ := action_of_run hconfigures h
  · constructor
    · intro hzero
      obtain ⟨result, hmade, rfl⟩ | hstatus :=
        renders_or_status_of_renderAction hconfigures.1 haction
      · exact ⟨result, hmade, status_reportOf_eq_zero_iff.mp hzero⟩
      · rw [hstatus] at hzero
        cases hzero
    · rintro ⟨result, hmade, hsuccess⟩
      cases haction.symm.trans (hreport result hmade)
      exact status_reportOf_eq_zero_iff.mpr hsuccess
  · refine iff_of_false (by rw [hstatus]; decide) ?_
    rintro ⟨result, hmade, -⟩
    cases haction.symm.trans (hreport result hmade)

theorem status_validate_iff (hconfigures : s.Configures settings) {file : String}
    (hcalm : ¬Strains s (.validate file)) (h : (Command.validate file).run s = .ok report) :
    report.status = 0 ↔ ∃ document, s.files.readJson (.ofString file) = .ok document ∧
      checkContent (treeOf document) = .ok [] := by
  obtain haction | ⟨hstatus, message, haction⟩ := action_of_run hconfigures h
  · have haction : validateAction s file = .ok report := haction
    have hgoes := validateGoes s file
    rw [haction] at hgoes
    cases hgoes with
    | flawless hread hcheck =>
        rw [checkWithin_treeOf hread hcalm] at hcheck
        exact iff_of_true rfl ⟨_, hread, hcheck⟩
    | flawed hread hcheck hne =>
        rw [checkWithin_treeOf hread hcalm] at hcheck
        refine iff_of_false nofun ?_
        rintro ⟨document, hread', hcheck'⟩
        cases hread.symm.trans hread'
        cases hcheck.symm.trans hcheck'
        exact hne rfl
  · refine iff_of_false (by rw [hstatus]; decide) ?_
    rintro ⟨document, hread, hcheck⟩
    have hreport : validateAction s file = .ok { status := 0, output := asLine "OK" } := by
      simp only [validateAction, hread, checkWithin_treeOf hread hcalm, hcheck, bind, Except.bind,
        Except.mapError]
      rfl
    cases haction.symm.trans hreport

theorem status_mem (hconfigures : s.Configures settings) {command : Command}
    (hserve : ∀ package host port, command ≠ .serve package host port)
    (h : command.run s = .ok report) : report.status ∈ [0, 1, 2] := by
  have hone : ∀ {status : Nat}, status ≤ 1 → status ∈ [0, 1, 2] := by
    intro status hle
    obtain rfl | rfl : status = 0 ∨ status = 1 := by omega
    · decide
    · decide
  obtain haction | ⟨hstatus, -⟩ := action_of_run hconfigures h
  · cases command with
    | render options =>
        obtain ⟨result, -, rfl⟩ | hstatus :=
          renders_or_status_of_renderAction hconfigures.1 haction
        · exact hone status_reportOf_le_one
        · rw [hstatus]
          decide
    | preview set rules items =>
        have haction : previewAction s set rules items = .ok report := haction
        have hgoes := previewGoes s set rules items
        rw [haction] at hgoes
        cases hgoes
        exact hone (Nat.zero_le 1)
    | validate file =>
        have haction : validateAction s file = .ok report := haction
        have hgoes := validateGoes s file
        rw [haction] at hgoes
        cases hgoes with
        | flawless => exact hone (Nat.zero_le 1)
        | flawed => exact hone (Nat.le_refl 1)
    | serve package host port => exact absurd rfl (hserve package host port)
  · exact hone (Nat.le_of_eq hstatus)

end Statuses

/-- **A command of an accepted command line ends in an exit status but for its escapes.**  However
much room there is, if a command is not too much for it:

* It has a report exactly if there are settings with a level of messages, and nothing lets it
  escape: no failure of reading its variables, its package, its rules or its document, no count
  below one, no blank name of a separator set, and no count of a case that cannot be looked up.
* The status of a report is 0, 1 or 2.  For a rendering it is 0 exactly if a rendering was made
  and its result is successful, for a validation exactly if a document was read that has no
  problems.

And whatever stops a command that may be too much is a reason of these, or comes from there being
too much. -/
theorem run_ends_iff [NestingLimits] {arguments : List String} {command : Command}
    (hparse : parse arguments = .ok command)
    (hserve : ∀ package host port, command ≠ .serve package host port) (s : Surroundings) :
    (¬Strains s command →
      ((∃ report, command.run s = .ok report) ↔
        (∃ settings, s.Configures settings) ∧ ∀ stop, ¬Escapes s command stop) ∧
      ∀ report, command.run s = .ok report →
        report.status ∈ [0, 1, 2] ∧
        (∀ options, command = .render options →
          (report.status = 0 ↔ ∃ result, Renders s options result ∧ result.success = true)) ∧
        ∀ file, command = .validate file →
          (report.status = 0 ↔ ∃ document, s.files.readJson (.ofString file) = .ok document ∧
            checkContent (treeOf document) = .ok [])) ∧
    ∀ stop, command.run s = .error stop →
      s.Misconfigures stop ∨ Escapes s command stop ∨ Strains s command := by
  have hescapes : ∀ settings stop, command.action s settings = .error (.stopped stop) →
      Escapes s command stop ∨ Strains s command := by
    intro settings stop haction
    cases command with
    | render options => exact .inl (escapes_of_renderAction haction)
    | preview set rules items =>
        exact .inl (escapes_of_previewAction (preview_alternatives hparse) haction)
    | validate file => exact escapes_of_validateAction haction
    | serve package host port => exact absurd rfl (hserve package host port)
  obtain ⟨settings, hconfigures⟩ | ⟨stop, hstop⟩ := s.configures_or_misconfigures
  · refine ⟨fun hcalm => ⟨⟨?_, ?_⟩, ?_⟩, ?_⟩
    · rintro ⟨report, hreport⟩
      refine ⟨⟨settings, hconfigures⟩, fun stop hescape => ?_⟩
      have hstopped : ∃ other, command.action s settings = .error (.stopped other) :=
        exists_stopped_of_escapes hescape hcalm
      obtain ⟨other, haction⟩ := hstopped
      rw [run_of_configures hconfigures, haction] at hreport
      cases hreport
    · rintro ⟨-, hnone⟩
      rw [run_of_configures hconfigures]
      split
      · exact ⟨_, rfl⟩
      · exact ⟨_, rfl⟩
      · rename_i stop haction
        exact absurd ((hescapes settings stop haction).resolve_right hcalm) (hnone stop)
    · intro report hreport
      refine ⟨status_mem hconfigures hserve hreport, ?_, ?_⟩
      · rintro options rfl
        exact status_render_iff hconfigures hreport
      · rintro file rfl
        exact status_validate_iff hconfigures hcalm hreport
    · intro stop hrun
      rw [run_of_configures hconfigures] at hrun
      split at hrun
      · cases hrun
      · cases hrun
      · rename_i haction
        cases hrun
        exact .inr (hescapes settings stop haction)
  · -- without settings, no action is begun
    have hrun := run_of_misconfigures hstop command
    refine ⟨fun _ => ⟨iff_of_false ?_ ?_, ?_⟩, ?_⟩
    · rintro ⟨report, hreport⟩
      cases hrun.symm.trans hreport
    · rintro ⟨⟨settings, hconfigures⟩, -⟩
      exact hconfigures.not_misconfigures hstop
    · intro report hreport
      cases hrun.symm.trans hreport
    · intro other hother
      cases hrun.symm.trans hother
      exact .inl hstop

/-- A preview of a separator set by its name has an exit status. -/
theorem run_ends_named :
    let s : Surroundings := { timing := ⟨"", .null⟩ }
    let command := Command.preview (some "oxford-comma") none ["tea", "milk"]
    parse ["preview-separator", "--set", "oxford-comma", "tea", "milk"] = .ok command ∧
      ∃ report, command.run s = .ok report ∧ report.status ∈ [0, 1, 2] := by
  intro s command
  have hparse : parse ["preview-separator", "--set", "oxford-comma", "tea", "milk"] =
      .ok command := rfl
  have hconfigures : s.Configures {} := ⟨rfl, by decide +kernel⟩
  have hnone : ∀ stop, ¬Escapes s command stop :=
    fun stop h => absurd (eq_blank_of_escapes h) (by decide)
  have hcalm : ¬Strains s command := not_strains_named
  obtain ⟨hreturns, hstatus⟩ := (run_ends_iff hparse nofun s).1 hcalm
  obtain ⟨report, hreport⟩ := hreturns.mpr ⟨⟨{}, hconfigures⟩, hnone⟩
  exact ⟨hparse, report, hreport, (hstatus report hreport).1⟩

/-- Not every accepted command line ends in an exit status: the name of a separator set may be
blank. -/
theorem run_escapes :
    let s : Surroundings := { timing := ⟨"", .null⟩ }
    let command := Command.preview (some "") none ["tea"]
    parse ["preview-separator", "--set", "", "tea"] = .ok command ∧
      command.run s = .error (.failed .noRules) ∧
      ¬∀ (arguments : List String) (command : Command) (s : Surroundings),
        parse arguments = .ok command →
          ∃ report, command.run s = .ok report ∧ report.status ∈ [0, 1, 2] := by
  intro s command
  have hparse : parse ["preview-separator", "--set", "", "tea"] = .ok command := rfl
  have hconfigures : s.Configures {} := ⟨rfl, by decide +kernel⟩
  have hrun : command.run s = .error (.failed .noRules) := by
    rw [run_of_configures hconfigures]
    rfl
  refine ⟨hparse, hrun, fun hall => ?_⟩
  obtain ⟨report, hreport, -⟩ := hall _ _ s hparse
  cases hrun.symm.trans hreport

end PromptTree.Command
