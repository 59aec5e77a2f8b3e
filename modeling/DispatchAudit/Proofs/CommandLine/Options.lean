import DispatchAudit.Proofs.Audit.Acceptance
import DispatchAudit.Proofs.CommandLine.Ending
import DispatchAudit.Proofs.Settings.Encoding

/-!
# What the options decide

A run can be taken apart into what it does and how that is told. What it does is its course; the
form of the report and the wish for notes have no part in it. The form decides the output alone,
and the wish for notes decides the errors alone, so neither can be seen anywhere else.

Strictness has a part in the course, but only at one place: it sets the rule of the settings that
are loaded. The rule that it sets is the weaker one, so what is valid without it stays valid.
-/

namespace DispatchAudit

open Audit Files

def LoadedSettings.withRule (loaded : LoadedSettings) (duplicateCheck : DuplicateRule) :
    LoadedSettings :=
  { loaded with settings := { loaded.settings with duplicateCheck } }

namespace CommandLine

/-- What a run does, with the settings as it uses them. -/
inductive Course where
  | printing
  | tooFewPaths
  | unloaded (failure : Failure)
  | failed (loaded : LoadedSettings) (failure : Failure)
  | judged (loaded : LoadedSettings) (findings : Findings)

namespace Course

def status : Course → ExitStatus
  | printing => .success
  | tooFewPaths => .failure
  | unloaded _ => .error
  | failed _ _ => .error
  | judged _ findings => .ofVerdict findings.verdict

def output (format : Format) (color : Bool) : Course → String
  | printing => Settings.standard.toText ++ "\n"
  | tooFewPaths => usageReport format
  | unloaded _ => ""
  | failed _ _ => ""
  | judged loaded findings => report format color loaded.settings findings

def errors (verbose color : Bool) : Course → String
  | printing => ""
  | tooFewPaths => ""
  | unloaded failure => failureLine failure
  | failed loaded failure => (if verbose then settingsNote loaded else "") ++ failureLine failure
  | judged loaded findings =>
    (if verbose then settingsNote loaded else "") ++ if verbose then summary color findings else ""

def ofAudit (workspace : Workspace) (sources : Sources) (loaded : LoadedSettings) : Course :=
  match audit workspace loaded.settings sources with
  | .error failure => failed loaded failure
  | .ok findings => judged loaded findings

end Course

section

variable (loaded? : Except Failure LoadedSettings) (workspace : Workspace) (color : Bool)
  (arguments : Arguments)

/-- The course of the run whose loading of settings ends as given. -/
def courseLoading : Course :=
  if arguments.printConfig then .printing
  else
    match Sources.ofPaths? arguments.scope arguments.paths with
    | none => .tooFewPaths
    | some sources =>
      match loaded? with
      | .error failure => .unloaded failure
      | .ok loaded =>
        .ofAudit workspace sources
          { loaded with settings := effectiveSettings arguments loaded.settings }

/-- The run whose loading of settings ends as given: its course, told. -/
def runLoading : Transcript :=
  let course := courseLoading loaded? workspace arguments
  ⟨course.status, course.output arguments.format color, course.errors arguments.verbose color⟩

end

/-- Whether an audit reads the same in two workspaces: the patterns of the implementations stand
for the same paths, and every source has the same text or the same fault. -/
structure SameSources (workspace other : Workspace) (sources : Sources) : Prop where
  expanded : expandPaths other sources.implementations =
    expandPaths workspace sources.implementations
  implementations : ∀ path ∈ expandedPaths workspace sources,
    readSource other path = readSource workspace path
  interface : readSource other sources.interface = readSource workspace sources.interface
  header : readSource? other sources.header = readSource? workspace sources.header

variable {workspace other : Workspace} {sources : Sources} {settings : Settings}
  {findings : Findings} {arguments : Arguments}
  {loaded? : Except Failure LoadedSettings}

/-! ### A run is its course, told -/

theorem runSources_eq (workspace : Workspace) (color : Bool) (arguments : Arguments)
    (sources : Sources) (hprint : arguments.printConfig = false)
    (hsources : Sources.ofPaths? arguments.scope arguments.paths = some sources) :
    runSources workspace color arguments sources =
      runLoading (loading workspace arguments) workspace color arguments := by
  have hcourse : courseLoading (loading workspace arguments) workspace arguments = _ :=
    if_neg (Bool.not_eq_true _ ▸ hprint)
  rw [runLoading, hcourse, hsources, runSources, loadSettings_eq_loading]
  cases loading workspace arguments with
  | error failure => rfl
  | ok loaded =>
      simp only [Course.ofAudit]
      cases audit workspace (effectiveSettings arguments loaded.settings) sources <;> rfl

theorem run_eq_runLoading (workspace : Workspace) (color : Bool) (arguments : Arguments) :
    run workspace color arguments =
      runLoading (loading workspace arguments) workspace color arguments := by
  cases hprint : arguments.printConfig with
  | true =>
      rw [run_of_printConfig workspace color hprint, runLoading, courseLoading, if_pos hprint]
      rfl
  | false =>
      cases hsources : Sources.ofPaths? arguments.scope arguments.paths with
      | none =>
          rw [run_of_few_paths workspace color hprint hsources, runLoading, courseLoading,
            if_neg (Bool.not_eq_true _ ▸ hprint), hsources]
          rfl
      | some sources =>
          rw [run_of_sources workspace color hprint hsources]
          exact runSources_eq workspace color arguments sources hprint hsources

/-! ### Strictness -/

/-- The course of a strict run is that of a run with other settings loaded. What a run notes on
the settings is only where they come from. -/
theorem runLoading_strict (loaded? : Except Failure LoadedSettings) (workspace : Workspace)
    (color : Bool) (arguments : Arguments) :
    runLoading loaded? workspace color { arguments with strict := true } =
      runLoading (loaded?.map (·.withRule .multiset)) workspace color
        { arguments with strict := false } := by
  have hcourse : courseLoading loaded? workspace { arguments with strict := true } =
      courseLoading (loaded?.map (·.withRule .multiset)) workspace
        { arguments with strict := false } := by
    cases loaded? <;> rfl
  rw [runLoading, runLoading, hcourse]

theorem check_multiset_of_valid (hcheck : check workspace settings sources = .ok findings)
    (hvalid : findings.verdict = .valid) :
    check workspace { settings with duplicateCheck := .multiset } sources = .ok findings := by
  obtain ⟨rule, implementations, interface, header, hrule, himplementations, hinterface, hheader,
    rfl⟩ := check_eq_ok_iff.mp hcheck
  obtain ⟨haccepts, hcovered⟩ := Verdict.of_eq_valid_iff.mp hvalid
  have hstrict := Verdict.of_eq_valid_iff.mpr
    ⟨DuplicateRule.multiset_accepts_of_accepts haccepts, hcovered⟩
  refine check_eq_ok_iff.mpr ⟨rule, implementations, interface, header, hrule, himplementations,
    hinterface, hheader, ?_⟩
  exact congrArg (Findings.mk sources _ _ _) (hstrict.trans hvalid.symm)

theorem audit_multiset_of_valid (haudit : audit workspace settings sources = .ok findings)
    (hvalid : findings.verdict = .valid) :
    audit workspace { settings with duplicateCheck := .multiset } sources = .ok findings := by
  obtain ⟨expanded, hexpanded, hcheck⟩ := audit_eq_ok_iff.mp haudit
  exact audit_eq_ok_iff.mpr ⟨expanded, hexpanded, check_multiset_of_valid hcheck hvalid⟩

/-- A report on a valid verdict does not depend on the settings. -/
theorem report_of_valid (format : Format) (color : Bool) (settings other : Settings)
    (hvalid : findings.verdict = .valid) :
    report format color settings findings = report format color other findings := by
  cases format with
  | text => simp only [report, textReport, hvalid, Verdict.headline?]
  | json => simp only [report, jsonReport, findingsValue, hvalid, Verdict.headline?]

theorem run_strict_of_success {color : Bool}
    (hcode : (run workspace color { arguments with strict := false }).status.code = 0) :
    run workspace color { arguments with strict := true } =
      run workspace color { arguments with strict := false } := by
  rcases run_cases workspace color { arguments with strict := false } with ⟨hprint, _⟩ |
    ⟨_, _, hstatus⟩ | ⟨hprint, sources, findings, hsources, hcompletes, hstatus⟩ |
    ⟨_, _, _, _, _, hstatus⟩
  · rw [run_of_printConfig workspace color hprint]
    exact run_of_printConfig workspace color hprint
  · rw [hstatus] at hcode
    cases hcode
  · rw [hstatus, code_ofVerdict_eq_zero_iff] at hcode
    obtain ⟨loaded, hloaded, haudit⟩ := completes_iff.mp hcompletes
    have hrun : run workspace color { arguments with strict := true } =
        runSources workspace color { arguments with strict := true } sources :=
      run_of_sources workspace color hprint hsources
    have hstrict : runSources workspace color { arguments with strict := true } sources = _ :=
      runSources_of_audit color hloaded (audit_multiset_of_valid haudit hcode)
    rw [hrun, hstrict, run_of_sources workspace color hprint hsources,
      runSources_of_audit color hloaded haudit]
    exact congrArg (Transcript.mk _ · _) (report_of_valid _ color _ _ hcode)
  · rw [hstatus] at hcode
    cases hcode

/-! ### The same sources elsewhere -/

theorem SameSources.audit_eq (hsame : SameSources workspace other sources)
    (settings : Settings) : audit other settings sources = audit workspace settings sources := by
  have himplementations := hsame.implementations
  rw [audit, audit, Sources.expand, Sources.expand, hsame.expanded]
  rw [expandedPaths] at himplementations
  cases hexpand : expandPaths workspace sources.implementations with
  | error failure => rfl
  | ok paths =>
      rw [hexpand] at himplementations
      have hread : readSources other paths = readSources workspace paths :=
        readSources_congr himplementations
      change check other settings { sources with implementations := paths } =
        check workspace settings { sources with implementations := paths }
      unfold check
      rw [hread, hsame.interface, hsame.header]

theorem runLoading_congr (color : Bool)
    (hsame : ∀ sources, Sources.ofPaths? arguments.scope arguments.paths = some sources →
      SameSources workspace other sources) :
    runLoading loaded? other color arguments = runLoading loaded? workspace color arguments := by
  have hcourse : courseLoading loaded? other arguments =
      courseLoading loaded? workspace arguments := by
    rw [courseLoading, courseLoading]
    cases hsources : Sources.ofPaths? arguments.scope arguments.paths with
    | none => rfl
    | some sources =>
        cases loaded? with
        | error failure => rfl
        | ok loaded => simp only [Course.ofAudit, (hsame sources hsources).audit_eq]
  rw [runLoading, runLoading, hcourse]

theorem loading_of_holds {path : FilePath} (hasked : arguments.config = some path)
    (hholds : workspace.Holds ⟨path, settings.toText⟩) (hfit : settings.fault? = none) :
    loading workspace arguments = .ok ⟨settings, some path⟩ := by
  have htext : Settings.ofText settings.toText = .ok settings :=
    Settings.ofText_of_spells settings.spells_toText settings.acceptable_writtenMembers
      settings.fieldsOf_writtenMembers
  have hread : workspace.readSettings path = .ok settings := by
    rw [Workspace.readSettings, hholds.read]
    simp only [htext, hfit]
  rw [loading, Workspace.loadSettings, hasked]
  exact congrArg (Except.map fun settings => LoadedSettings.mk settings (some path)) hread

/-- What each option leaves as it was. The wish for notes changes neither the status nor the
output, and the form of the report neither the status nor the errors. A strict run is the run
without strictness whose loaded settings compare how often each name occurs; so is the run in
any workspace with the same sources whose configuration says so. A run that succeeds without
strictness is the same run with it. -/
theorem options_independent (workspace : Workspace) (color : Bool) (arguments : Arguments) :
    (∀ verbose,
      (run workspace color { arguments with verbose }).status =
          (run workspace color arguments).status ∧
        (run workspace color { arguments with verbose }).output =
          (run workspace color arguments).output) ∧
    (∀ format,
      (run workspace color { arguments with format }).status =
          (run workspace color arguments).status ∧
        (run workspace color { arguments with format }).errors =
          (run workspace color arguments).errors) ∧
    (run workspace color { arguments with strict := false } =
        runLoading (loading workspace arguments) workspace color
          { arguments with strict := false } ∧
      run workspace color { arguments with strict := true } =
        runLoading ((loading workspace arguments).map (·.withRule .multiset)) workspace color
          { arguments with strict := false }) ∧
    (∀ other,
      loading other arguments = (loading workspace arguments).map (·.withRule .multiset) →
      (∀ sources, Sources.ofPaths? arguments.scope arguments.paths = some sources →
        SameSources workspace other sources) →
      run other color { arguments with strict := false } =
        run workspace color { arguments with strict := true }) ∧
    ((run workspace color { arguments with strict := false }).status.code = 0 →
      run workspace color { arguments with strict := true } =
        run workspace color { arguments with strict := false }) := by
  have hstrict : run workspace color { arguments with strict := true } =
      runLoading ((loading workspace arguments).map (·.withRule .multiset)) workspace color
        { arguments with strict := false } :=
    (run_eq_runLoading workspace color _).trans (runLoading_strict _ workspace color arguments)
  refine ⟨?_, ?_, ⟨run_eq_runLoading workspace color _, hstrict⟩, ?_, run_strict_of_success⟩
  · intro verbose
    rw [run_eq_runLoading, run_eq_runLoading workspace color arguments]
    exact ⟨rfl, rfl⟩
  · intro format
    rw [run_eq_runLoading, run_eq_runLoading workspace color arguments]
    exact ⟨rfl, rfl⟩
  · intro other hloading hsame
    have hother : loading other { arguments with strict := false } = _ := hloading
    rw [run_eq_runLoading, hother, hstrict]
    exact runLoading_congr color hsame

def repeatingFiles : List TextFile :=
  [⟨⟨"a.cpp"⟩, "NvAPI_Status __cdecl A()\nNvAPI_Status __cdecl A()\n"⟩,
    ⟨⟨"i.cpp"⟩, "/* Start NVAPI methods */\ntbl(A)\ntbl(A)\n/* End */\n"⟩]

def configurationFile (rule : DuplicateRule) : TextFile :=
  ⟨⟨"c.json"⟩, { Settings.standard with duplicateCheck := rule }.toText⟩

def repeatingWorkspace (rule : DuplicateRule) : Workspace :=
  Workspace.writeAll ⟨.emptyDirectory, []⟩ (configurationFile rule :: repeatingFiles)

def repeatingArguments : Arguments where
  paths := [⟨"a.cpp"⟩, ⟨"i.cpp"⟩]
  skipAvailability := true
  config := some ⟨"c.json"⟩
  strict := false
  format := .json
  printConfig := false
  verbose := true

theorem holds_repeating (rule : DuplicateRule) :
    ∀ file ∈ configurationFile rule :: repeatingFiles, (repeatingWorkspace rule).Holds file := by
  have hwrite : Workspace.CanWrite ⟨.emptyDirectory, []⟩
      (configurationFile rule :: repeatingFiles) := by
    cases rule <;> exact ⟨by decide, by decide, by decide⟩
  exact hwrite.holds

theorem loading_repeating (rule : DuplicateRule) :
    loading (repeatingWorkspace rule) repeatingArguments =
      .ok ⟨{ Settings.standard with duplicateCheck := rule }, some ⟨"c.json"⟩⟩ :=
  loading_of_holds rfl (holds_repeating rule _ List.mem_cons_self) Settings.standard_fault?

theorem readSource_repeating (rule : DuplicateRule) :
    ∀ file ∈ repeatingFiles, readSource (repeatingWorkspace rule) file.path = .ok file.text :=
  fun file hmem => readSource_of_holds (holds_repeating rule file (List.mem_cons_of_mem _ hmem))

theorem exists_completes_repeating (rule : DuplicateRule) :
    ∃ findings, Completes (repeatingWorkspace rule) repeatingArguments
        ⟨[⟨"a.cpp"⟩], ⟨"i.cpp"⟩, none⟩ findings ∧
      (findings.verdict = .valid ↔ rule = .multiset) := by
  obtain ⟨himplementation, hlater⟩ := List.forall_mem_cons.mp (readSource_repeating rule)
  obtain ⟨hinterface, _⟩ := List.forall_mem_cons.mp hlater
  have hrule : (effectiveSettings repeatingArguments
      { Settings.standard with duplicateCheck := rule }).rule? =
        some ⟨"NvAPI_Status", "__cdecl", by decide⟩ := rfl
  refine ⟨_, .mk (loading_repeating rule) rfl hrule (readSources_singleton himplementation)
    hinterface rfl, Verdict.of_eq_valid_iff.trans ?_⟩
  cases rule with
  | length =>
      refine iff_of_false (fun hvalid => ?_) nofun
      exact absurd (DuplicateRule.length_accepts_iff.mp hvalid.1).1 (by decide +kernel)
  | multiset =>
      refine iff_of_true ⟨DuplicateRule.multiset_accepts_iff.mpr ?_, nofun⟩ rfl
      decide +kernel

theorem sameSources_repeating (rule other : DuplicateRule) :
    SameSources (repeatingWorkspace rule) (repeatingWorkspace other)
      ⟨[⟨"a.cpp"⟩], ⟨"i.cpp"⟩, none⟩ := by
  have hsame : ∀ file ∈ repeatingFiles, readSource (repeatingWorkspace other) file.path =
      readSource (repeatingWorkspace rule) file.path := fun file hmem =>
    (readSource_repeating other file hmem).trans (readSource_repeating rule file hmem).symm
  obtain ⟨himplementation, hlater⟩ := List.forall_mem_cons.mp hsame
  have hexpand : ∀ rule, expandPaths (repeatingWorkspace rule) [⟨"a.cpp"⟩] = .ok [⟨"a.cpp"⟩] :=
    fun _ => rfl
  have hheader : ∀ rule, readSource? (repeatingWorkspace rule) none = .ok none := fun _ => rfl
  refine ⟨(hexpand other).trans (hexpand rule).symm, ?_, (List.forall_mem_cons.mp hlater).1,
    (hheader other).trans (hheader rule).symm⟩
  intro path hmem
  rw [expandedPaths, hexpand] at hmem
  obtain rfl : path = ⟨"a.cpp"⟩ := List.mem_singleton.mp hmem
  exact himplementation

theorem options_independent_repeating :
    loading (repeatingWorkspace .multiset) repeatingArguments =
        (loading (repeatingWorkspace .length) repeatingArguments).map (·.withRule .multiset) ∧
      SameSources (repeatingWorkspace .length) (repeatingWorkspace .multiset)
        ⟨[⟨"a.cpp"⟩], ⟨"i.cpp"⟩, none⟩ ∧
      (run (repeatingWorkspace .length) false repeatingArguments).status.code = 1 ∧
      (run (repeatingWorkspace .multiset) false repeatingArguments).status.code = 0 ∧
      run (repeatingWorkspace .multiset) false repeatingArguments =
        run (repeatingWorkspace .length) false { repeatingArguments with strict := true } ∧
      run (repeatingWorkspace .multiset) false { repeatingArguments with strict := true } =
        run (repeatingWorkspace .multiset) false repeatingArguments := by
  have hpaths : Sources.ofPaths? repeatingArguments.scope repeatingArguments.paths =
      some ⟨[⟨"a.cpp"⟩], ⟨"i.cpp"⟩, none⟩ := by decide
  have hloading : loading (repeatingWorkspace .multiset) repeatingArguments =
      (loading (repeatingWorkspace .length) repeatingArguments).map (·.withRule .multiset) := by
    rw [loading_repeating, loading_repeating]
    rfl
  have hsame := sameSources_repeating .length .multiset
  have hcode : (run (repeatingWorkspace .multiset) false repeatingArguments).status.code = 0 := by
    obtain ⟨findings, hcompletes, hvalid⟩ := exists_completes_repeating .multiset
    exact code_eq_zero_iff.mpr (.inr ⟨_, findings, hpaths, hcompletes, hvalid.mpr rfl⟩)
  have hcode' : (run (repeatingWorkspace .length) false repeatingArguments).status.code = 1 := by
    obtain ⟨findings, hcompletes, hvalid⟩ := exists_completes_repeating .length
    exact code_eq_one_iff.mpr ⟨rfl, .inr ⟨_, findings, hpaths, hcompletes,
      fun hother => nomatch hvalid.mp hother⟩⟩
  obtain ⟨_, _, _, hother, _⟩ :=
    options_independent (repeatingWorkspace .length) false repeatingArguments
  obtain ⟨_, _, _, _, hsuccess⟩ :=
    options_independent (repeatingWorkspace .multiset) false repeatingArguments
  refine ⟨hloading, hsame, hcode', hcode, ?_, hsuccess hcode⟩
  apply hother _ hloading
  intro sources hsources
  rw [hpaths] at hsources
  obtain rfl := Option.some.inj hsources
  exact hsame

end CommandLine

end DispatchAudit
