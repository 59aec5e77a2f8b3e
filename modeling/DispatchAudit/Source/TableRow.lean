import DispatchAudit.Source.Declaration

/-!
# Interface table rows

The interface header lists the available methods as rows of a table. A row stands alone on its
line, in one exact shape: only the blanks in front of it are free.
-/

namespace DispatchAudit.Source

open Text

/-- What a row holds in front of its name. -/
def rowOpening : List Char := ['\x7b', ' ', '"']

/-- What a row holds between its name and its identifier. -/
def rowMiddle : List Char := ['"', ',', ' ']

/-- What a row holds after its identifier. -/
def rowClosing : List Char := [' ', '\x7d', ',']

/-- The name that the line makes available, if it is a row. -/
def rowName? (line : List Char) : Option String := do
  let text ← rowOpening.isPrefixOf? (dropBlanks line)
  let name ← name? text
  let identifier ← rowMiddle.isPrefixOf? (afterWord text)
  let _ ← name? identifier
  if afterWord identifier = rowClosing then some name else none

def available (source : String) : Roster :=
  .ofList ((lines source.toList).filterMap rowName?)

end DispatchAudit.Source
