import DispatchAudit.Files.Pattern
import DispatchAudit.Files.Workspace

/-!
# Expansion of patterns

A pattern stands for the paths in a workspace whose components match it. The walk goes through
the components from the left and keeps the paths reached so far, each spelled as it was reached.
A literal component is looked up without listing its directory. Any number of directories means
every entry strictly below the directory at hand. A wild component also reaches the directory
itself and its parent, as a dot and as two dots, if it begins with a dot and matches them.

Paths are found in the order in which they are listed below, and then sorted. The same path is
found once for each way in which it matches.
-/

namespace DispatchAudit.Files

/-- A path that a walk has reached, with its entries if it is a directory. -/
structure Spot where
  path : FilePath
  entries? : Option (List (String × Entry))

/-- A directory whose entries cannot be listed because its path is too long. -/
structure Unlisted where
  path : FilePath
deriving DecidableEq, Repr, Inhabited

/-- One find of a walk: a spot with the name it was listed under, or a directory that could not
be listed. -/
abbrev Find := Except Unlisted (String × Spot)

/-- The path of an entry of a directory, which for the working directory is the entry's name. -/
def FilePath.child (directory : FilePath) (name : String) : FilePath :=
  if directory.sameParts ⟨"."⟩ then ⟨name⟩ else directory.join name

namespace Walk

mutual

/-- What an entry of a directory finds: the entry, then everything below it. -/
def fromEntry (directory : FilePath) (name : String) : Entry → List Find
  | .file _ => [.ok (name, ⟨directory.child name, none⟩)]
  | .directory entries =>
    let path := directory.child name
    .ok (name, ⟨path, some entries⟩) ::
      if path.isTooLong then [.error ⟨path⟩] else fromEntries path entries

def fromEntries (directory : FilePath) : List (String × Entry) → List Find
  | [] => []
  | (name, entry) :: rest => fromEntry directory name entry ++ fromEntries directory rest

end

def below (spot : Spot) : List Find :=
  match spot.entries? with
  | none => []
  | some entries =>
    if spot.path.isTooLong then [.error ⟨spot.path⟩] else fromEntries spot.path entries

def listed (spot : Spot) : List Find :=
  match spot.entries? with
  | none => []
  | some entries =>
    if spot.path.isTooLong then [.error ⟨spot.path⟩]
    else entries.map fun (name, entry) => .ok (name, ⟨spot.path.child name, entry.entries?⟩)

def spotAt (workspace : Workspace) (path : FilePath) : Spot :=
  ⟨path, (workspace.find path).toOption.bind Entry.entries?⟩

/-- Whether a name leads to the directory itself or to its parent. -/
def isSpecial (name : String) : Bool := name == "." || name == ".."

/-- The spot that a literal component leads to, if it is there. -/
def literal? (workspace : Workspace) (spot : Spot) (name : String) : Option Spot :=
  let path := spot.path.child name
  if isSpecial name then if spot.entries?.isSome then some (spotAt workspace path) else none
  else if workspace.has path then some (spotAt workspace path) else none

/-- The spots that a wild component reaches as two dots and as a dot. -/
def specials (workspace : Workspace) (component : PatternComponent) (spot : Spot) : List Spot :=
  if spot.entries?.isSome && !spot.path.isTooLong && component.beginsWithDot then
    ([".." , "."].filter component.accepts).map fun name =>
      spotAt workspace (spot.path.join name)
  else []

/-- What the components find from a spot on. -/
def finds (workspace : Workspace) : List PatternComponent → Spot → List (Except Unlisted Spot)
  | [], spot => [.ok spot]
  | .literal name :: rest, spot =>
    (literal? workspace spot name).toList.flatMap (finds workspace rest)
  | .wild items :: rest, spot =>
    (specials workspace (.wild items) spot).flatMap (finds workspace rest) ++
    (listed spot).flatMap fun find =>
      match find with
      | .error unlisted => [.error unlisted]
      | .ok (name, next) =>
        if !matchName items name.toList then []
        else if rest.isEmpty || next.entries?.isSome then finds workspace rest next
        else []
  | [.directories], spot =>
    (below spot).flatMap fun find =>
      match find with
      | .error unlisted => [.error unlisted]
      | .ok (_, next) => if next.entries?.isSome then [.ok next] else []
  | .directories :: .directories :: rest, spot => finds workspace (.directories :: rest) spot
  | .directories :: component :: rest, spot =>
    (below spot).flatMap fun find =>
      match find with
      | .error unlisted => [.error unlisted]
      | .ok (name, next) =>
        if !component.accepts name then []
        else if rest.isEmpty || next.entries?.isSome then finds workspace rest next
        else []

end Walk

inductive ExpansionFault where
  | badPattern (fault : PatternFault)
  | unlisted (directory : FilePath)
  | noMatch
deriving DecidableEq, Repr

namespace Workspace

/-- The paths that a pattern finds, in the order in which the walk finds them. -/
def findAll (workspace : Workspace) (pattern : Pattern) : Except Unlisted (List FilePath) := do
  let start : FilePath := ⟨if pattern.absolute then "/" else "."⟩
  let spots ← (Walk.finds workspace pattern.components (Walk.spotAt workspace start)).mapM id
  let wanted := spots.filter fun spot => !pattern.onlyDirectories || spot.entries?.isSome
  return wanted.map Spot.path

/-- The paths that a path stands for: itself if it is there or no pattern, and otherwise the
paths that match it, sorted. -/
def expand (workspace : Workspace) (path : FilePath) : Except ExpansionFault (List FilePath) :=
  if !Pattern.isWild path.text.toList || workspace.has path then .ok [path]
  else
    match Pattern.ofText path.text.toList with
    | .error fault => .error (.badPattern fault)
    | .ok pattern =>
      match workspace.findAll pattern with
      | .error unlisted => .error (.unlisted unlisted.path)
      | .ok [] => .error .noMatch
      | .ok paths => .ok (paths.mergeSort FilePath.le)

end Workspace

end DispatchAudit.Files
