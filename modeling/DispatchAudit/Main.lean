import DispatchAudit.CommandLine.Run

/-!
# The program

A run needs a workspace, so the program first copies the part of the file system that the run can
look at: the configurations and repositories from the working directory upwards, what the paths
name, and the names around a pattern as far as it reaches. The texts of the files that a pattern
finds are copied last.
-/

namespace DispatchAudit.CommandLine

open Audit Files

/-- The part of the file system below some names, down to a depth if there is one. -/
structure Extent where
  names : List String
  depth? : Option Nat

def literalName? : PatternComponent → Option String
  | .literal name => some name
  | _ => none

def climbs : PatternComponent → Bool
  | .literal name => name == ".."
  | component => component.beginsWithDot

/-- The extent that a pattern can look at. It begins as far above the literal components in front
as the others can climb. -/
def Extent.ofPattern (workspace : Workspace) (pattern : Pattern) : Extent :=
  let lead := pattern.components.takeWhile fun component => (literalName? component).isSome
  let others := pattern.components.drop lead.length
  let slash := if pattern.absolute then "/" else ""
  let place : FilePath := ⟨slash ++ String.intercalate "/" (lead.filterMap literalName?)⟩
  let names := workspace.namesOf place
  { names := names.take (names.length - others.countP climbs)
    depth? := if others.contains .directories then none
      else some (others.length + others.countP climbs) }

def Extent.ofPaths (workspace : Workspace) (paths : List FilePath) : List Extent :=
  (paths.filter fun path => Pattern.isWild path.text.toList).filterMap fun path =>
    (Pattern.ofText path.text.toList).toOption.map (ofPattern workspace)

/-- The paths that lead to a path, itself last. -/
def steps (path : FilePath) : List FilePath :=
  (List.range (path.pieces.length + 1)).map fun count =>
    ⟨String.ofList (joinPieces (path.pieces.take count))⟩

def ancestors (workspace : Workspace) : List FilePath :=
  (List.range (workspace.directory.length + 1)).map fun count =>
    FilePath.ofNames (workspace.directory.take count)

/-- The workspace with a copy of the entry at some names, if there is one. -/
def copyEntry (workspace : Workspace) (names : List String) : IO Workspace := do
  let place := (← IO.currentDir) / (FilePath.ofNames names).text
  if ← place.isDir then
    return { workspace with root := workspace.root.makeDirectory names }
  else if ← place.pathExists then
    return { workspace with root := workspace.root.writeFile names (← IO.FS.readBinFile place) }
  else return workspace

def copyPaths (workspace : Workspace) (paths : List FilePath) : IO Workspace :=
  (paths.flatMap steps).foldlM (fun copied path => copyEntry copied (copied.namesOf path)) workspace

/-- The workspace with the names in an extent, where every file is empty. -/
partial def copyNames (workspace : Workspace) (extent : Extent) : IO Workspace := do
  let place := (← IO.currentDir) / (FilePath.ofNames extent.names).text
  if extent.depth? == some 0 || !(← place.isDir) then return workspace
  let mut copied := { workspace with root := workspace.root.makeDirectory extent.names }
  for entry in ← place.readDir do
    let names := extent.names ++ [entry.fileName]
    if ← entry.path.isDir then
      let present := { copied with root := copied.root.makeDirectory names }
      copied ← copyNames present ⟨names, extent.depth?.map (· - 1)⟩
    else
      copied := { copied with root := copied.root.writeFile names ByteArray.empty }
  return copied

/-- The workspace that a run with the given arguments needs. -/
def copyWorkspace (arguments : Arguments) : IO Workspace := do
  let here : FilePath := ⟨(← IO.currentDir).toString⟩
  let start : Workspace := ⟨.emptyDirectory, Workspace.namesOf ⟨.emptyDirectory, []⟩ here⟩
  let named ← (Extent.ofPaths start arguments.paths).foldlM copyNames start
  let marks := (ancestors start).flatMap fun directory =>
    [directory.join settingsName, directory.join repositoryName]
  let given ← copyPaths named (marks ++ arguments.config.toList ++ arguments.paths)
  match (Sources.ofPaths? arguments.scope arguments.paths).map (Sources.expand given) with
  | some (.ok sources) => copyPaths given sources.implementations
  | _ => return given

/-- The transcript of a command line. -/
def transcribe (arguments : List String) : IO Transcript := do
  let environment ← IO.getEnv environmentName
  match Arguments.ofList arguments environment with
  | .error interruption => return .ofInterruption environment interruption
  | .ok arguments =>
    let plain := (← IO.getEnv "NO_COLOR").isSome || !(← (← IO.getStdout).isTty)
    return run (← copyWorkspace arguments) (!plain) arguments

end DispatchAudit.CommandLine

/-- Prints the transcript of the command line and ends with its status. -/
def main (arguments : List String) : IO UInt32 := do
  let transcript ← DispatchAudit.CommandLine.transcribe arguments
  IO.print transcript.output
  IO.eprint transcript.errors
  return transcript.status.code.toUInt32
