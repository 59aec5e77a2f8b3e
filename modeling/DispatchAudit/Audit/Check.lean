import DispatchAudit.Audit.Sources
import DispatchAudit.Source.TableRow

/-!
# Audits

An audit reads its sources in order, each to its end before the next one is opened, and gives a
verdict on the names found in them. A rule that is too heavy is a failure before anything is
read, and after that the first source that cannot be read is one.
-/

namespace DispatchAudit.Audit

open Files Source

structure Findings where
  sources : Sources
  declared : Roster
  dispatched : Roster
  available : Option Roster
  verdict : Verdict
deriving DecidableEq, Repr

def readSource (workspace : Workspace) (path : FilePath) : Except Failure String :=
  (workspace.read path).mapError (Failure.unreadableSource path)

/-- The texts of sources. The first that cannot be read is the failure. -/
def readSources (workspace : Workspace) : List FilePath → Except Failure (List String)
  | [] => .ok []
  | path :: rest =>
    match readSource workspace path with
    | .error failure => .error failure
    | .ok text => (readSources workspace rest).map (text :: ·)

def readSource? (workspace : Workspace) : Option FilePath → Except Failure (Option String)
  | none => .ok none
  | some path => (readSource workspace path).map some

/-- What an audit finds in the texts of its sources. -/
def findingsIn (sources : Sources) (settings : Settings) (rule : DeclarationRule)
    (implementations : List String) (interface : String) (header : Option String) : Findings :=
  let declared := Roster.concat (implementations.map rule.declared)
  let dispatched := settings.markers.dispatched interface
  let available := header.map Source.available
  { sources, declared, dispatched, available
    verdict := .of settings.duplicateCheck declared dispatched available }

/-- What an audit finds in its sources. -/
def check (workspace : Workspace) (settings : Settings) (sources : Sources) :
    Except Failure Findings :=
  match settings.rule? with
  | none => .error (.heavyRule settings.returnType settings.callingConvention)
  | some rule => do
    let implementations ← readSources workspace sources.implementations
    let interface ← readSource workspace sources.interface
    let header ← readSource? workspace sources.header
    return findingsIn sources settings rule implementations interface header

end DispatchAudit.Audit
