import DispatchAudit.Failure

/-!
# Finding and loading settings

Settings come from the configuration that is asked for, or else from the nearest one: the search
goes from a directory upwards and ends at the first directory with a configuration or, failing
that, with a repository. A configuration that is found but cannot be used is a failure. Only when
none is found do the defaults apply.
-/

namespace DispatchAudit

open Files

def settingsName : String := ".validate-methods.json"

/-- The name of what marks the top of a repository. -/
def repositoryName : String := ".git"

/-- Settings and the path of the configuration that gave them, if one did. -/
structure LoadedSettings where
  settings : Settings
  path? : Option FilePath
deriving DecidableEq, Repr

namespace Files.Workspace

/-- The path of the nearest configuration from a directory upwards. The directories above are
those of the path's text, whether they are there or not. -/
def findSettings (workspace : Workspace) (directory : FilePath) : Option FilePath :=
  if workspace.has (directory.join settingsName) then some (directory.join settingsName)
  else if workspace.has (directory.join repositoryName) then none
  else
    match h : directory.parent? with
    | none => none
    | some parent =>
      have := FilePath.length_of_parent? h
      workspace.findSettings parent
termination_by directory.text.toList.length

/-- The settings that the configuration at a path gives, if they are fit for an audit. -/
def readSettings (workspace : Workspace) (path : FilePath) : Except Failure Settings :=
  match workspace.read path with
  | .error fault => .error (.unreadableSettings path fault)
  | .ok text =>
    match Settings.ofText text with
    | .error fault => .error (.malformedSettings path fault)
    | .ok settings =>
      match settings.fault? with
      | some fault => .error (.unfitSettings fault)
      | none => .ok settings

/-- The settings that the given configuration or else the nearest one gives. -/
def loadSettings (workspace : Workspace) (asked : Option FilePath) (directory : FilePath) :
    Except Failure LoadedSettings :=
  match asked <|> workspace.findSettings directory with
  | none => .ok ⟨.standard, none⟩
  | some path => (workspace.readSettings path).map fun settings => ⟨settings, some path⟩

end Files.Workspace

end DispatchAudit
