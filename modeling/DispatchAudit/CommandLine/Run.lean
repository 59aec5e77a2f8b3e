import DispatchAudit.CommandLine.Report
import DispatchAudit.Settings.Encode
import DispatchAudit.Settings.Load

/-!
# Runs

A run turns arguments and a workspace into what is printed and an exit status. The status is zero
for a valid verdict, one for any other verdict and for too few paths, and two for a failure. A
failure prints nothing but its message, after the note on the configuration if that was reached.

A workspace has a working directory, so a run never fails for want of one, and what it prints is
always taken. Paths and arguments are text, and no entry of a workspace is a link.
-/

namespace DispatchAudit.CommandLine

open Audit Files

inductive ExitStatus where
  | success
  | failure
  | error
deriving DecidableEq, Repr, Inhabited

def ExitStatus.code : ExitStatus → Nat
  | success => 0
  | failure => 1
  | error => 2

def ExitStatus.ofVerdict (verdict : Verdict) : ExitStatus :=
  if verdict.isValid then success else failure

/-- What a run prints and how it ends. -/
structure Transcript where
  status : ExitStatus
  output : String
  errors : String
deriving DecidableEq, Repr, Inhabited

/-- The run that an interruption takes the place of. -/
def Transcript.ofInterruption (environment : Option String) : Interruption → Transcript
  | .help => ⟨.success, helpText environment, ""⟩
  | .version => ⟨.success, versionText, ""⟩
  | .fault fault => ⟨.error, "", "error: " ++ fault.message ++ "\n"⟩

def settingsNote (loaded : LoadedSettings) : String :=
  match loaded.path? with
  | some path => "Note: Using configuration from " ++ path.text ++ "\n"
  | none => "Note: No " ++ settingsName ++ " found, using default configuration\n"

/-- The settings of a run, where strictness overrides the configuration. -/
def effectiveSettings (arguments : Arguments) (settings : Settings) : Settings :=
  if arguments.strict then { settings with duplicateCheck := .multiset } else settings

def failureLine (failure : Failure) : String := "Error: " ++ failure.message ++ "\n"

/-- The run that fails after printing the given notes. -/
def Transcript.ofFailure (notes : String) (failure : Failure) : Transcript :=
  ⟨.error, "", notes ++ failureLine failure⟩

/-- What an audit of sources finds once their patterns are expanded. -/
def audit (workspace : Workspace) (settings : Settings) (sources : Sources) :
    Except Failure Findings :=
  match sources.expand workspace with
  | .error failure => .error failure
  | .ok expanded => check workspace settings expanded

/-- The run over sources. -/
def runSources (workspace : Workspace) (color : Bool) (arguments : Arguments)
    (sources : Sources) : Transcript :=
  match workspace.loadSettings arguments.config workspace.directoryPath with
  | .error failure => .ofFailure "" failure
  | .ok loaded =>
    let notes := if arguments.verbose then settingsNote loaded else ""
    let settings := effectiveSettings arguments loaded.settings
    match audit workspace settings sources with
    | .error failure => .ofFailure notes failure
    | .ok findings =>
      { status := .ofVerdict findings.verdict
        output := report arguments.format color settings findings
        errors := notes ++ if arguments.verbose then summary color findings else "" }

def run (workspace : Workspace) (color : Bool) (arguments : Arguments) : Transcript :=
  if arguments.printConfig then ⟨.success, Settings.standard.toText ++ "\n", ""⟩
  else
    match Sources.ofPaths? arguments.scope arguments.paths with
    | none => ⟨.failure, usageReport arguments.format, ""⟩
    | some sources => runSources workspace color arguments sources

end DispatchAudit.CommandLine
