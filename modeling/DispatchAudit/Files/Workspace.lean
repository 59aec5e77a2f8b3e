import DispatchAudit.Files.Entry
import DispatchAudit.Files.FilePath

/-!
# Workspaces

A workspace is the whole file tree together with the directory that relative paths start from.
Looking up a path walks its pieces from the left, and the first piece that cannot be entered
decides what is wrong with the path. Without links a piece of two dots leads back to where the
walk came from.
-/

namespace DispatchAudit.Files

inductive FileFault where
  | missing
  | notDirectory
  | isDirectory
  | nameTooLong
  | notText
  | nulInPath
deriving DecidableEq, Repr, Inhabited

def FileFault.message : FileFault → String
  | missing => "No such file or directory (os error 2)"
  | notDirectory => "Not a directory (os error 20)"
  | isDirectory => "Is a directory (os error 21)"
  | nameTooLong => "File name too long (os error 36)"
  | notText => "stream did not contain valid UTF-8"
  | nulInPath => "file name contained an unexpected NUL byte"

def nameLimit : Nat := 255

/-- The number of bytes from which on a path is too long. -/
def pathLimit : Nat := 4096

def FilePath.isTooLong (path : FilePath) : Bool := Nat.ble pathLimit path.text.utf8ByteSize

/-- The entry that the pieces of a path lead to. The ancestors of the present entry are listed
from its parent upwards, and the root is its own parent. -/
def descend : List Entry → Entry → List (List Char) → Except FileFault Entry
  | _, entry, [] => .ok entry
  | _, .file _, _ :: _ => .error .notDirectory
  | above, .directory entries, piece :: rest =>
    if isIdle piece then descend above (.directory entries) rest
    else if piece = ['.', '.'] then
      match above with
      | [] => descend [] (.directory entries) rest
      | parent :: ancestors => descend ancestors parent rest
    else
      let name := String.ofList piece
      if nameLimit < name.utf8ByteSize then .error .nameTooLong
      else match entries.lookup name with
        | none => .error .missing
        | some entry => descend (.directory entries :: above) entry rest

/-- A file tree and the names that lead from its root to the working directory. -/
structure Workspace where
  root : Entry
  directory : List String
deriving Inhabited

namespace Workspace

def directoryPath (workspace : Workspace) : FilePath := .ofNames workspace.directory

def find (workspace : Workspace) (path : FilePath) : Except FileFault Entry :=
  if path.text.toList.contains '\x00' then .error .nulInPath
  else if path.text.isEmpty then .error .missing
  else if path.isTooLong then .error .nameTooLong
  else if path.isAbsolute then descend [] workspace.root path.pieces
  else descend [] workspace.root (workspace.directory.map String.toList ++ path.pieces)

def has (workspace : Workspace) (path : FilePath) : Bool := (workspace.find path).isOk

def read (workspace : Workspace) (path : FilePath) : Except FileFault String := do
  match ← workspace.find path with
  | .directory _ => throw .isDirectory
  | .file content =>
    match String.fromUTF8? content with
    | some text => return text
    | none => throw .notText

/-- The names that lead to the path from the root. -/
def namesOf (workspace : Workspace) (path : FilePath) : List String :=
  path.parts.foldl
    (fun names part => match part with
      | .root => []
      | .here => names
      | .up => names.dropLast
      | .name text => names ++ [text])
    workspace.directory

def enter (workspace : Workspace) (path : FilePath) : Workspace :=
  { workspace with directory := workspace.namesOf path }

end Workspace

end DispatchAudit.Files
