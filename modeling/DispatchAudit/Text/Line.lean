/-!
# The lines of a source

A line ends at a line feed. One carriage return directly before that line feed belongs to the
line's end, a second one and one at the end of the text belong to the line. What follows the
last line feed is a line only if it is not empty.
-/

namespace DispatchAudit.Text

/-- The line without the carriage return that belongs to its end. -/
def withoutReturn (line : List Char) : List Char :=
  if line.getLast? = some '\r' then line.dropLast else line

/-- The lines of a text whose pieces between line feeds are given. -/
def linesOfPieces (pieces : List (List Char)) : List (List Char) :=
  pieces.dropLast.map withoutReturn ++ (pieces.getLast?.toList).filter fun piece => !piece.isEmpty

def lines (text : List Char) : List (List Char) := linesOfPieces (text.splitOn '\n')

theorem withoutReturn_append_return (line : List Char) :
    withoutReturn (line ++ ['\r']) = line := by
  simp [withoutReturn]

theorem lines_nil : lines [] = [] := rfl

end DispatchAudit.Text
