import DispatchAudit.Audit.Check
import DispatchAudit.Audit.Diagnosis
import DispatchAudit.CommandLine.Arguments
import DispatchAudit.CommandLine.Usage
import DispatchAudit.Json.Value

/-!
# Reports

The findings of an audit as a text for people, as a JSON text for programs, and as a summary of
what was read. The two reports tell the same headline and the same notes. Only the text and the
summary are ever coloured.
-/

namespace DispatchAudit.CommandLine

open Audit Json

inductive Style where
  | blue
  | green
  | red
  | bold
  | boldCyan
deriving DecidableEq, Repr, Inhabited

/-- The number of a style in a terminal's code. -/
def Style.code : Style → String
  | blue => "34"
  | green => "32"
  | red => "31"
  | bold => "1"
  | boldCyan => "1;36"

/-- A word in a style, if colour is wanted. -/
def Style.paint (style : Style) (color : Bool) (word : String) : String :=
  if color then "\x1b[" ++ style.code ++ "m" ++ word ++ "\x1b[0m" else word

def noteLine (color : Bool) (note : String) : String :=
  "  " ++ Style.blue.paint color "=" ++ " " ++ Style.bold.paint color "note:" ++ " " ++ note ++ "\n"

/-- The report for people, which is empty for a valid verdict. -/
def textReport (color : Bool) (settings : Settings) (findings : Findings) : String :=
  match findings.verdict.headline? settings with
  | none => ""
  | some headline =>
    headline ++ "\n" ++ String.join (findings.verdict.notes.map (noteLine color))

def tallyValue (tally : Tally) : Value :=
  .object [("name", .string tally.name), ("count", .number tally.count)]

def dispatchValue (mismatch : DispatchMismatch) : Value :=
  .object [
    ("expectedCount", .number mismatch.declaredCount),
    ("foundCount", .number mismatch.dispatchedCount),
    ("notDispatched", .strings mismatch.notDispatched),
    ("notImplemented", .strings mismatch.notDeclared),
    ("duplicateDeclarations", .array (mismatch.repeatedDeclarations.map tallyValue)),
    ("duplicateDispatchEntries", .array (mismatch.repeatedEntries.map tallyValue))]

def availabilityValue (mismatch : AvailabilityMismatch) : Value :=
  .object [("unavailable", .strings mismatch.unavailable)]

def dispatchPart? : Verdict → Option Value
  | .dispatchMismatch mismatch => some (dispatchValue mismatch)
  | _ => none

def availabilityPart? : Verdict → Option Value
  | .availabilityMismatch mismatch => some (availabilityValue mismatch)
  | _ => none

def rosterValue (roster : Roster) : Value := .strings roster.names

def findingsValue (settings : Settings) (findings : Findings) : Value :=
  .ofMembers [
    ("outcome", some (.string findings.verdict.word)),
    ("message", (findings.verdict.headline? settings).map .string),
    ("notes", some (.strings findings.verdict.notes)),
    ("expected", some (rosterValue findings.declared)),
    ("found", some (rosterValue findings.dispatched)),
    ("available", findings.available.map rosterValue),
    ("dispatchMismatch", dispatchPart? findings.verdict),
    ("availabilityMismatch", availabilityPart? findings.verdict)]

def jsonReport (settings : Settings) (findings : Findings) : String :=
  (findingsValue settings findings).pretty ++ "\n"

def report (format : Format) (color : Bool) (settings : Settings) (findings : Findings) :
    String :=
  match format with
  | .text => textReport color settings findings
  | .json => jsonReport settings findings

/-- The report of a run with too few paths. -/
def usageReport (format : Format) : String :=
  match format with
  | .text => tooFewPaths ++ "\n"
  | .json =>
    (Value.object [("outcome", .string "invalid-usage"), ("message", .string tooFewPaths)]).pretty
      ++ "\n"

def infoLine (color : Bool) (text : String) : String :=
  Style.boldCyan.paint color "info:" ++ " " ++ text ++ "\n"

def statusLine (color : Bool) (verdict : Verdict) : String :=
  if verdict.isValid then
    Style.green.paint color "✓" ++ " " ++ Style.green.paint color "Methods validated" ++ "\n"
  else
    Style.red.paint color "✘" ++ " " ++ Style.red.paint color "Method validation failed" ++ "\n"

/-- What the summary says about availability. -/
def availabilityInfo (findings : Findings) : String :=
  match findings.available, findings.sources.header with
  | some available, some header =>
    counted available.size "table entry" "table entries" ++ " in " ++ header.text
  | _, _ => "availability check skipped"

/-- The summary of what an audit read and of its verdict. -/
def summary (color : Bool) (findings : Findings) : String :=
  infoLine color (counted findings.declared.size "implemented method" "implemented methods" ++
    " in " ++ counted findings.sources.implementations.length "file" "files") ++
  infoLine color (counted findings.dispatched.size "dispatch entry" "dispatch entries" ++
    " in " ++ findings.sources.interface.text) ++
  infoLine color (availabilityInfo findings) ++
  statusLine color findings.verdict

end DispatchAudit.CommandLine
