/-!
# File trees

A file tree is a file with its bytes or a directory with its named entries. Entries of a
directory are kept in ascending order of their names, and no name occurs twice.
-/

namespace DispatchAudit.Files

inductive Entry where
  | file (content : ByteArray)
  | directory (entries : List (String × Entry))

namespace Entry

def emptyDirectory : Entry := directory []

instance : Inhabited Entry := ⟨emptyDirectory⟩

def entries? : Entry → Option (List (String × Entry))
  | file _ => none
  | directory entries => some entries

def isDirectory (entry : Entry) : Bool := entry.entries?.isSome

/-- The entries with one more, or with one replaced. -/
def put (name : String) (entry : Entry) : List (String × Entry) → List (String × Entry)
  | [] => [(name, entry)]
  | (other, kept) :: rest =>
    if name = other then (name, entry) :: rest
    else if name < other then (name, entry) :: (other, kept) :: rest
    else (other, kept) :: put name entry rest

/-- The tree with the entry below it at the given names changed, and every directory on the way
made where it is missing. -/
def update (change : Option Entry → Entry) : List String → Option Entry → Entry
  | [], entry => change entry
  | name :: rest, entry =>
    let entries := (entry.bind entries?).getD []
    directory (put name (update change rest (entries.lookup name)) entries)

def writeFile (tree : Entry) (names : List String) (content : ByteArray) : Entry :=
  update (fun _ => file content) names (some tree)

/-- The tree with a directory at the given names, which is left alone if it is there. -/
def makeDirectory (tree : Entry) (names : List String) : Entry :=
  update (fun present => (present.filter isDirectory).getD emptyDirectory) names (some tree)

def remove : List String → Entry → Entry
  | [], tree => tree
  | _, file content => file content
  | [name], directory entries => directory (entries.filter fun entry => entry.1 != name)
  | name :: rest, directory entries =>
    match entries.lookup name with
    | none => directory entries
    | some entry => directory (put name (remove rest entry) entries)

end Entry

end DispatchAudit.Files
