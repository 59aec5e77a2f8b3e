import DispatchAudit.Source.Declaration

/-!
# Dispatch entries

The interface source dispatches methods between two marker lines. A marker line holds the marker
and otherwise only blanks. An entry is a line that begins, apart from blanks, with a word that is
applied to one name. The region can be entered again after it was left, and a region that is
never left ends with the source.
-/

namespace DispatchAudit.Source

open Text

/-- The texts of the two lines that delimit a dispatch region. -/
structure Markers where
  opening : String
  closing : String
deriving DecidableEq, Repr, Inhabited

/-- The name that the line dispatches, if it is an entry. -/
def entryName? (line : List Char) : Option String := do
  let text := dropBlanks line
  let _ ← name? text
  let inner ← ['('].isPrefixOf? (afterWord text)
  let name ← name? inner
  let _ ← [')'].isPrefixOf? (afterWord inner)
  return name

/-- What the scan of an interface source knows: whether it is inside a region, and the names
found so far, the last one first. -/
structure RegionScan where
  active : Bool
  found : List String
deriving DecidableEq, Repr, Inhabited

/-- The scan after one more line. Inside a region the closing marker wins over an entry. -/
def RegionScan.step (markers : Markers) (scan : RegionScan) (line : List Char) : RegionScan :=
  if scan.active then
    if trim line = markers.closing.toList then { scan with active := false }
    else match entryName? line with
      | some name => { scan with found := name :: scan.found }
      | none => scan
  else if trim line = markers.opening.toList then { scan with active := true }
  else scan

def Markers.dispatched (markers : Markers) (source : String) : Roster :=
  .ofList ((lines source.toList).foldl (RegionScan.step markers) ⟨false, []⟩).found.reverse

end DispatchAudit.Source
