import DispatchAudit.Failure

/-!
# The sources of an audit

Sources are given as one list of paths whose order says what they are: the implementations, then
the interface source and last the interface header. An audit without availability has no header.
-/

namespace DispatchAudit.Audit

open Files

/-- What an audit compares. -/
inductive Scope where
  /-- Declarations, dispatch entries and the interface table. -/
  | full
  /-- Declarations and dispatch entries. -/
  | withoutAvailability
deriving DecidableEq, Repr, Inhabited

def Scope.minPaths : Scope → Nat
  | full => 3
  | withoutAvailability => 2

structure Sources where
  implementations : List FilePath
  interface : FilePath
  header : Option FilePath
deriving DecidableEq, Repr

namespace Sources

/-- The sources whose implementations are the given paths but the last, which is the interface
source. -/
def ofInterface? (paths : List FilePath) (header : Option FilePath) : Option Sources :=
  paths.getLast?.map fun interface => ⟨paths.dropLast, interface, header⟩

/-- The sources that a list of paths gives, unless there are too few. -/
def ofPaths? (scope : Scope) (paths : List FilePath) : Option Sources :=
  if paths.length < scope.minPaths then none
  else match scope with
    | .full => paths.getLast?.bind fun header => ofInterface? paths.dropLast (some header)
    | .withoutAvailability => ofInterface? paths none

end Sources

def expansionFailure (path : FilePath) : ExpansionFault → Failure
  | .badPattern fault => .badPattern path fault
  | .unlisted directory => .unlistedDirectory path directory
  | .noMatch => .noMatch path

/-- The paths that one implementation path stands for. -/
def expandPath (workspace : Workspace) (path : FilePath) : Except Failure (List FilePath) :=
  (workspace.expand path).mapError (expansionFailure path)

/-- The paths that implementation paths stand for, one after another. The first that cannot be
expanded is the failure. -/
def expandPaths (workspace : Workspace) : List FilePath → Except Failure (List FilePath)
  | [] => .ok []
  | path :: rest =>
    match expandPath workspace path with
    | .error failure => .error failure
    | .ok paths => (expandPaths workspace rest).map (paths ++ ·)

/-- The sources with the implementations that their patterns stand for. -/
def Sources.expand (workspace : Workspace) (sources : Sources) : Except Failure Sources :=
  (expandPaths workspace sources.implementations).map fun implementations =>
    { sources with implementations }

end DispatchAudit.Audit
