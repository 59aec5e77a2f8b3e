import DispatchAudit.CommandLine.Run
import DispatchAudit.Proofs.Audit.Reading

/-!
# How a run ends

A run over sources takes its steps one after another: it loads the settings, expands the paths of
the implementations, builds the declaration rule, and reads the implementations, the interface
source and the header. Each step fails or not by itself. The first one that fails, in this order,
is what the run reports, and then nothing else is printed; if none fails the verdict decides.
-/

namespace DispatchAudit.CommandLine

open Audit Files

inductive Step where
  | settings
  | expansion (path : FilePath)
  | rule
  | reading (path : FilePath)
deriving DecidableEq, Repr

section

variable (workspace : Workspace) (arguments : Arguments) (sources : Sources)

def loading : Except Failure LoadedSettings :=
  workspace.loadSettings arguments.config workspace.directoryPath

/-- The failure of the declaration rule of settings, if it cannot be built. -/
def ruleFailure? (settings : Settings) : Option Failure :=
  if settings.rule?.isSome then none
  else some (.heavyRule settings.returnType settings.callingConvention)

/-- The failure of a step by itself, if it fails. The rule is built from the settings, so it can
fail only if they are loaded. -/
def Step.failure? : Step → Option Failure
  | settings => errorOf? (loading workspace arguments)
  | expansion path => errorOf? (expandPath workspace path)
  | rule => (loading workspace arguments).toOption.bind fun loaded =>
      ruleFailure? (effectiveSettings arguments loaded.settings)
  | reading path => errorOf? (readSource workspace path)

def expandedPaths : List FilePath :=
  (expandPaths workspace sources.implementations).toOption.getD []

/-- The steps of a run over sources, in their order. -/
def stepsOver : List Step :=
  [.settings] ++ sources.implementations.map .expansion ++ [.rule] ++
    (expandedPaths workspace sources).map .reading ++ [.reading sources.interface] ++
    sources.header.toList.map .reading

def firstFailure? : Option Failure :=
  (stepsOver workspace sources).findSome? (Step.failure? workspace arguments)

/-- Whether every step of a run over sources succeeds, and what the audit finds then. -/
inductive Completes : Findings → Prop where
  | mk {loaded : LoadedSettings} {expanded : Sources} {rule : Source.DeclarationRule}
      {implementations : List String} {interface : String} {header : Option String}
      (hloaded : loading workspace arguments = .ok loaded)
      (hexpanded : sources.expand workspace = .ok expanded)
      (hrule : (effectiveSettings arguments loaded.settings).rule? = some rule)
      (himplementations : readSources workspace expanded.implementations = .ok implementations)
      (hinterface : readSource workspace expanded.interface = .ok interface)
      (hheader : readSource? workspace expanded.header = .ok header) :
      Completes (findingsIn expanded (effectiveSettings arguments loaded.settings) rule
        implementations interface header)

/-- The note on the settings that a run prints before it audits. -/
def startingNote : String :=
  match loading workspace arguments with
  | .error _ => ""
  | .ok loaded => if arguments.verbose then settingsNote loaded else ""

end

variable {workspace : Workspace} {arguments : Arguments} {sources expanded : Sources}
  {settings : Settings} {findings : Findings} {failure : Failure} {loaded : LoadedSettings}
  {color : Bool}

/-! ### The first failure -/

theorem errorOf?_expandPaths (workspace : Workspace) (paths : List FilePath) :
    errorOf? (expandPaths workspace paths) =
      paths.findSome? fun path => errorOf? (expandPath workspace path) := by
  induction paths with
  | nil => rfl
  | cons path rest ih =>
      rw [expandPaths, List.findSome?_cons, ← ih]
      cases expandPath workspace path with
      | error failure => rfl
      | ok paths => exact errorOf?_map _

theorem errorOf?_check (workspace : Workspace) (settings : Settings) (expanded : Sources) :
    errorOf? (check workspace settings expanded) = ((ruleFailure? settings).or
      ((errorOf? (readSources workspace expanded.implementations)).or
        ((errorOf? (readSource workspace expanded.interface)).or
          (errorOf? (readSource? workspace expanded.header))))) := by
  rw [ruleFailure?]
  cases hrule : settings.rule? with
  | none =>
      rw [check_of_no_rule hrule]
      rfl
  | some rule => exact errorOf?_check_of_rule hrule

theorem firstFailure?_eq : firstFailure? workspace arguments sources =
    ((errorOf? (loading workspace arguments)).or
      ((errorOf? (expandPaths workspace sources.implementations)).or
        ((Step.failure? workspace arguments .rule).or
          ((errorOf? (readSources workspace (expandedPaths workspace sources))).or
            ((errorOf? (readSource workspace sources.interface)).or
              (errorOf? (readSource? workspace sources.header))))))) := by
  rw [errorOf?_expandPaths, errorOf?_readSources, errorOf?_readSource?]
  simp only [firstFailure?, stepsOver, List.findSome?_append, List.findSome?_map,
    List.findSome?_singleton, Option.or_assoc]
  rfl

theorem firstFailure?_of_loaded (hloaded : loading workspace arguments = .ok loaded) :
    firstFailure? workspace arguments sources =
      errorOf? (audit workspace (effectiveSettings arguments loaded.settings) sources) := by
  rw [firstFailure?_eq, Step.failure?, expandedPaths, hloaded, audit, Sources.expand]
  cases hexpand : expandPaths workspace sources.implementations with
  | error failure => rfl
  | ok paths =>
      change _ = errorOf? (check workspace _ { sources with implementations := paths })
      rw [errorOf?_check]
      rfl

/-! ### Runs over sources -/

theorem audit_eq_ok_iff : audit workspace settings sources = .ok findings ↔
    ∃ expanded, sources.expand workspace = .ok expanded ∧
      check workspace settings expanded = .ok findings := by
  rw [audit]
  cases sources.expand workspace <;> simp

theorem completes_iff : Completes workspace arguments sources findings ↔
    ∃ loaded, loading workspace arguments = .ok loaded ∧
      audit workspace (effectiveSettings arguments loaded.settings) sources = .ok findings := by
  constructor
  · rintro ⟨hloaded, hexpanded, hrule, himplementations, hinterface, hheader⟩
    have hcheck := check_eq_ok_iff.mpr
      ⟨_, _, _, _, hrule, himplementations, hinterface, hheader, rfl⟩
    exact ⟨_, hloaded, audit_eq_ok_iff.mpr ⟨_, hexpanded, hcheck⟩⟩
  · rintro ⟨loaded, hloaded, haudit⟩
    obtain ⟨expanded, hexpanded, hcheck⟩ := audit_eq_ok_iff.mp haudit
    obtain ⟨rule, implementations, interface, header, hrule, himplementations, hinterface,
      hheader, rfl⟩ := check_eq_ok_iff.mp hcheck
    exact .mk hloaded hexpanded hrule himplementations hinterface hheader

theorem exists_completes_iff : (∃ findings, Completes workspace arguments sources findings) ↔
    firstFailure? workspace arguments sources = none := by
  simp only [completes_iff]
  cases hloaded : loading workspace arguments with
  | error found =>
      have hfirst : firstFailure? workspace arguments sources = some found := by
        rw [firstFailure?_eq, hloaded]
        rfl
      simp [hfirst]
  | ok loaded => simp [firstFailure?_of_loaded hloaded, errorOf?_eq_none_iff]

theorem loadSettings_eq_loading (workspace : Workspace) (arguments : Arguments) :
    workspace.loadSettings arguments.config workspace.directoryPath =
      loading workspace arguments := rfl

theorem runSources_of_failure (color : Bool)
    (hfailure : firstFailure? workspace arguments sources = some failure) :
    runSources workspace color arguments sources =
      .ofFailure (startingNote workspace arguments) failure := by
  rw [runSources, loadSettings_eq_loading, startingNote]
  cases hloaded : loading workspace arguments with
  | error found =>
      rw [firstFailure?_eq, hloaded] at hfailure
      rw [← Option.some.inj hfailure]
  | ok loaded =>
      rw [firstFailure?_of_loaded hloaded, errorOf?_eq_some_iff] at hfailure
      simp only [hfailure]

theorem runSources_of_audit (color : Bool) (hloaded : loading workspace arguments = .ok loaded)
    (haudit : audit workspace (effectiveSettings arguments loaded.settings) sources =
      .ok findings) :
    runSources workspace color arguments sources =
      { status := .ofVerdict findings.verdict
        output := report arguments.format color (effectiveSettings arguments loaded.settings)
          findings
        errors := (if arguments.verbose then settingsNote loaded else "") ++
          if arguments.verbose then summary color findings else "" } := by
  rw [runSources, loadSettings_eq_loading, hloaded]
  simp only [haudit]

theorem status_runSources (color : Bool)
    (hcompletes : Completes workspace arguments sources findings) :
    (runSources workspace color arguments sources).status = .ofVerdict findings.verdict := by
  obtain ⟨loaded, hloaded, haudit⟩ := completes_iff.mp hcompletes
  rw [runSources_of_audit color hloaded haudit]

theorem status_ofVerdict_cases (verdict : Verdict) :
    verdict = .valid ∧ ExitStatus.ofVerdict verdict = .success ∨
      verdict ≠ .valid ∧ ExitStatus.ofVerdict verdict = .failure := by
  cases verdict with
  | valid => exact .inl ⟨rfl, rfl⟩
  | dispatchMismatch | availabilityMismatch => exact .inr ⟨nofun, rfl⟩

theorem code_ofVerdict_eq_zero_iff {verdict : Verdict} :
    (ExitStatus.ofVerdict verdict).code = 0 ↔ verdict = .valid := by
  cases verdict <;> simp [ExitStatus.ofVerdict, Verdict.isValid, ExitStatus.code]

theorem runSources_cases (workspace : Workspace) (color : Bool) (arguments : Arguments)
    (sources : Sources) :
    (∃ findings, Completes workspace arguments sources findings ∧
        (runSources workspace color arguments sources).status = .ofVerdict findings.verdict) ∨
      ∃ failure, firstFailure? workspace arguments sources = some failure ∧
        runSources workspace color arguments sources =
          .ofFailure (startingNote workspace arguments) failure := by
  cases hfirst : firstFailure? workspace arguments sources with
  | none =>
      obtain ⟨findings, hcompletes⟩ := exists_completes_iff.mpr hfirst
      exact .inl ⟨findings, hcompletes, status_runSources color hcompletes⟩
  | some failure => exact .inr ⟨failure, rfl, runSources_of_failure color hfirst⟩

/-! ### Whole runs -/

theorem ofPaths?_eq_none_iff {scope : Scope} {paths : List FilePath} :
    Sources.ofPaths? scope paths = none ↔ paths.length < scope.minPaths := by
  unfold Sources.ofPaths? Sources.ofInterface?
  split
  · next hfew => simp [hfew]
  · next henough =>
      refine iff_of_false ?_ henough
      rw [Nat.not_lt] at henough
      cases scope with
      | full =>
          have hpaths : paths ≠ [] := List.ne_nil_of_length_pos (Nat.lt_of_lt_of_le (by decide) henough)
          have hmore : paths.dropLast ≠ [] := by
            apply List.ne_nil_of_length_pos
            rw [List.length_dropLast]
            exact Nat.sub_pos_of_lt (Nat.lt_of_lt_of_le (by decide) henough)
          simp [List.getLast?_eq_some_getLast hpaths, hmore]
      | withoutAvailability =>
          have hpaths : paths ≠ [] := List.ne_nil_of_length_pos (Nat.lt_of_lt_of_le (by decide) henough)
          simp [hpaths]

theorem isSome_header_of_ofPaths? {scope : Scope} {paths : List FilePath}
    (hsources : Sources.ofPaths? scope paths = some sources) :
    sources.header.isSome = true ↔ scope = .full := by
  unfold Sources.ofPaths? Sources.ofInterface? at hsources
  split at hsources
  · cases hsources
  · cases scope with
    | full =>
        obtain ⟨header, _, hrest⟩ := Option.bind_eq_some_iff.mp hsources
        obtain ⟨interface, _, rfl⟩ := Option.map_eq_some_iff.mp hrest
        exact iff_of_true rfl rfl
    | withoutAvailability =>
        obtain ⟨interface, _, rfl⟩ := Option.map_eq_some_iff.mp hsources
        exact iff_of_false nofun nofun

theorem run_of_printConfig (workspace : Workspace) (color : Bool)
    (hprint : arguments.printConfig = true) :
    run workspace color arguments = ⟨.success, Settings.standard.toText ++ "\n", ""⟩ :=
  if_pos hprint

theorem run_of_few_paths (workspace : Workspace) (color : Bool)
    (hprint : arguments.printConfig = false)
    (hfew : Sources.ofPaths? arguments.scope arguments.paths = none) :
    run workspace color arguments = ⟨.failure, usageReport arguments.format, ""⟩ := by
  rw [run, if_neg (Bool.not_eq_true _ ▸ hprint), hfew]

theorem run_of_sources (workspace : Workspace) (color : Bool)
    (hprint : arguments.printConfig = false)
    (hsources : Sources.ofPaths? arguments.scope arguments.paths = some sources) :
    run workspace color arguments = runSources workspace color arguments sources := by
  rw [run, if_neg (Bool.not_eq_true _ ▸ hprint), hsources]

theorem status_of_completes (color : Bool) (hprint : arguments.printConfig = false)
    (hsources : Sources.ofPaths? arguments.scope arguments.paths = some sources)
    (hcompletes : Completes workspace arguments sources findings) :
    (run workspace color arguments).status = .ofVerdict findings.verdict := by
  rw [run_of_sources workspace color hprint hsources, status_runSources color hcompletes]

theorem run_of_failure (color : Bool) (hprint : arguments.printConfig = false)
    (hsources : Sources.ofPaths? arguments.scope arguments.paths = some sources)
    (hfailure : firstFailure? workspace arguments sources = some failure) :
    run workspace color arguments = .ofFailure (startingNote workspace arguments) failure := by
  rw [run_of_sources workspace color hprint hsources, runSources_of_failure color hfailure]

/-- The ways in which a run can end, with its status. -/
theorem run_cases (workspace : Workspace) (color : Bool) (arguments : Arguments) :
    (arguments.printConfig = true ∧ (run workspace color arguments).status = .success) ∨
    (arguments.printConfig = false ∧ arguments.paths.length < arguments.scope.minPaths ∧
      (run workspace color arguments).status = .failure) ∨
    (arguments.printConfig = false ∧ ∃ sources findings,
      Sources.ofPaths? arguments.scope arguments.paths = some sources ∧
        Completes workspace arguments sources findings ∧
        (run workspace color arguments).status = .ofVerdict findings.verdict) ∨
    (arguments.printConfig = false ∧ ∃ sources failure,
      Sources.ofPaths? arguments.scope arguments.paths = some sources ∧
        firstFailure? workspace arguments sources = some failure ∧
        (run workspace color arguments).status = .error) := by
  cases hprint : arguments.printConfig with
  | true => exact .inl ⟨rfl, by rw [run_of_printConfig workspace color hprint]⟩
  | false =>
      refine .inr ?_
      cases hsources : Sources.ofPaths? arguments.scope arguments.paths with
      | none =>
          refine .inl ⟨rfl, ofPaths?_eq_none_iff.mp hsources, ?_⟩
          rw [run_of_few_paths workspace color hprint hsources]
      | some sources =>
          rw [run_of_sources workspace color hprint hsources]
          rcases runSources_cases workspace color arguments sources with
            ⟨findings, hcompletes, hstatus⟩ | ⟨failure, hfailure, hrun⟩
          · exact .inr (.inl ⟨rfl, sources, findings, rfl, hcompletes, hstatus⟩)
          · exact .inr (.inr ⟨rfl, sources, failure, rfl, hfailure, by rw [hrun]; rfl⟩)

theorem code_eq_zero_iff : (run workspace color arguments).status.code = 0 ↔
    arguments.printConfig = true ∨
      ∃ sources findings, Sources.ofPaths? arguments.scope arguments.paths = some sources ∧
        Completes workspace arguments sources findings ∧ findings.verdict = .valid := by
  constructor
  · intro hcode
    rcases run_cases workspace color arguments with ⟨hprint, _⟩ | ⟨_, _, hstatus⟩ |
      ⟨_, sources, findings, hsources, hcompletes, hstatus⟩ | ⟨_, _, _, _, _, hstatus⟩
    · exact .inl hprint
    · rw [hstatus] at hcode
      cases hcode
    · rw [hstatus, code_ofVerdict_eq_zero_iff] at hcode
      exact .inr ⟨sources, findings, hsources, hcompletes, hcode⟩
    · rw [hstatus] at hcode
      cases hcode
  · intro hends
    cases hprint : arguments.printConfig with
    | true =>
        rw [run_of_printConfig workspace color hprint]
        rfl
    | false =>
        rw [hprint] at hends
        rcases hends with hprint | ⟨sources, findings, hsources, hcompletes, hvalid⟩
        · cases hprint
        · rw [status_of_completes color hprint hsources hcompletes, hvalid]
          rfl

theorem code_eq_one_iff : (run workspace color arguments).status.code = 1 ↔
    arguments.printConfig = false ∧ (arguments.paths.length < arguments.scope.minPaths ∨
      ∃ sources findings, Sources.ofPaths? arguments.scope arguments.paths = some sources ∧
        Completes workspace arguments sources findings ∧ findings.verdict ≠ .valid) := by
  constructor
  · intro hcode
    rcases run_cases workspace color arguments with ⟨_, hstatus⟩ | ⟨hprint, hfew, _⟩ |
      ⟨hprint, sources, findings, hsources, hcompletes, hstatus⟩ | ⟨_, _, _, _, _, hstatus⟩
    · rw [hstatus] at hcode
      cases hcode
    · exact ⟨hprint, .inl hfew⟩
    · rcases status_ofVerdict_cases findings.verdict with ⟨_, hsuccess⟩ | ⟨hother, _⟩
      · rw [hstatus, hsuccess] at hcode
        cases hcode
      · exact ⟨hprint, .inr ⟨sources, findings, hsources, hcompletes, hother⟩⟩
    · rw [hstatus] at hcode
      cases hcode
  · rintro ⟨hprint, hfew | ⟨sources, findings, hsources, hcompletes, hother⟩⟩
    · rw [run_of_few_paths workspace color hprint (ofPaths?_eq_none_iff.mpr hfew)]
      rfl
    · rw [status_of_completes color hprint hsources hcompletes]
      rcases status_ofVerdict_cases findings.verdict with ⟨hvalid, _⟩ | ⟨_, hfailure⟩
      · exact absurd hvalid hother
      · rw [hfailure]
        rfl

theorem code_eq_two_iff : (run workspace color arguments).status.code = 2 ↔
    arguments.printConfig = false ∧
      ∃ sources failure, Sources.ofPaths? arguments.scope arguments.paths = some sources ∧
        firstFailure? workspace arguments sources = some failure := by
  constructor
  · intro hcode
    rcases run_cases workspace color arguments with ⟨_, hstatus⟩ | ⟨_, _, hstatus⟩ |
      ⟨_, _, findings, _, _, hstatus⟩ | ⟨hprint, sources, failure, hsources, hfailure, _⟩
    · rw [hstatus] at hcode
      cases hcode
    · rw [hstatus] at hcode
      cases hcode
    · rcases status_ofVerdict_cases findings.verdict with ⟨_, hverdict⟩ | ⟨_, hverdict⟩
      · rw [hstatus, hverdict] at hcode
        cases hcode
      · rw [hstatus, hverdict] at hcode
        cases hcode
    · exact ⟨hprint, sources, failure, hsources, hfailure⟩
  · rintro ⟨hprint, sources, failure, hsources, hfailure⟩
    rw [run_of_failure color hprint hsources hfailure]
    rfl

theorem run_eq_of_no_audit (hnone : arguments.printConfig = true ∨
      arguments.paths.length < arguments.scope.minPaths)
    (other : Workspace) (otherColor : Bool) (config : Option FilePath) :
    run other otherColor { arguments with config } = run workspace color arguments := by
  cases hprint : arguments.printConfig with
  | true =>
      rw [run_of_printConfig workspace color hprint]
      exact run_of_printConfig other otherColor rfl
  | false =>
      rw [hprint] at hnone
      rcases hnone with hprint' | hfew
      · cases hprint'
      · have hpaths := ofPaths?_eq_none_iff.mpr hfew
        rw [run_of_few_paths workspace color hprint hpaths]
        exact run_of_few_paths other otherColor rfl hpaths

/-- How a run ends. It ends with zero if the configuration is printed, or if every step succeeds
and the verdict is valid; with one if there are too few paths, or if every step succeeds and the
verdict is another; and with two if a step fails. -/
theorem run_classified (workspace : Workspace) (color : Bool) (arguments : Arguments) :
    ((run workspace color arguments).status.code = 0 ↔ arguments.printConfig = true ∨
      ∃ sources findings, Sources.ofPaths? arguments.scope arguments.paths = some sources ∧
        Completes workspace arguments sources findings ∧ findings.verdict = .valid) ∧
    ((run workspace color arguments).status.code = 1 ↔ arguments.printConfig = false ∧
      (arguments.paths.length < arguments.scope.minPaths ∨
        ∃ sources findings, Sources.ofPaths? arguments.scope arguments.paths = some sources ∧
          Completes workspace arguments sources findings ∧ findings.verdict ≠ .valid)) ∧
    ((run workspace color arguments).status.code = 2 ↔ arguments.printConfig = false ∧
      ∃ sources failure, Sources.ofPaths? arguments.scope arguments.paths = some sources ∧
        firstFailure? workspace arguments sources = some failure) ∧
    (arguments.printConfig = true ∨ arguments.paths.length < arguments.scope.minPaths →
      ∀ (other : Workspace) (otherColor : Bool) (config : Option FilePath),
        run other otherColor { arguments with config } = run workspace color arguments) ∧
    ∀ sources failure, arguments.printConfig = false →
      Sources.ofPaths? arguments.scope arguments.paths = some sources →
      firstFailure? workspace arguments sources = some failure →
      (run workspace color arguments).output = "" ∧
        (run workspace color arguments).errors = startingNote workspace arguments ++
          ("Error: " ++ String.intercalate ": " failure.causes ++ "\n") := by
  refine ⟨code_eq_zero_iff, code_eq_one_iff, code_eq_two_iff, run_eq_of_no_audit, ?_⟩
  intro sources failure hprint hsources hfailure
  rw [run_of_failure color hprint hsources hfailure]
  exact ⟨rfl, rfl⟩

def sampleWorkspace : Workspace :=
  ⟨.directory [(".git", .directory []), ("a.cpp", .file ByteArray.empty)], []⟩

/-- Arguments whose second implementation, interface source and header are all missing. -/
def sampleArguments : Arguments where
  paths := [⟨"a.cpp"⟩, ⟨"b.cpp"⟩, ⟨"c.cpp"⟩, ⟨"c.h"⟩]
  skipAvailability := false
  config := none
  strict := false
  format := .json
  printConfig := false
  verbose := true

theorem loading_sample :
    loading sampleWorkspace sampleArguments = .ok ⟨.standard, none⟩ := by
  have hnone : sampleWorkspace.findSettings sampleWorkspace.directoryPath = none := by
    rw [Workspace.findSettings, if_neg (by decide), if_pos (by decide)]
  rw [loading, Workspace.loadSettings, hnone]
  rfl

theorem run_sample_reports_first :
    (run sampleWorkspace true sampleArguments).status.code = 2 ∧
      (run sampleWorkspace true sampleArguments).output = "" ∧
      (run sampleWorkspace true sampleArguments).errors =
        settingsNote ⟨.standard, none⟩ ++ failureLine (.unreadableSource ⟨"b.cpp"⟩ .missing) := by
  let sources : Sources := ⟨[⟨"a.cpp"⟩, ⟨"b.cpp"⟩], ⟨"c.cpp"⟩, some ⟨"c.h"⟩⟩
  have hsources : Sources.ofPaths? sampleArguments.scope sampleArguments.paths = some sources := by
    decide
  have hfirst : firstFailure? sampleWorkspace sampleArguments sources =
      some (.unreadableSource ⟨"b.cpp"⟩ .missing) := by
    rw [firstFailure?_eq, Step.failure?, loading_sample]
    decide
  obtain ⟨_, _, hcode, _, hprinted⟩ := run_classified sampleWorkspace true sampleArguments
  obtain ⟨houtput, herrors⟩ := hprinted sources _ rfl hsources hfirst
  refine ⟨hcode.mpr ⟨rfl, sources, _, hsources, hfirst⟩, houtput, ?_⟩
  rw [herrors, startingNote, loading_sample]
  rfl

end DispatchAudit.CommandLine
