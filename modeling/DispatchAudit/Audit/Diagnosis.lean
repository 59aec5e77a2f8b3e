import DispatchAudit.Settings.Basic

/-!
# Diagnoses

A verdict other than valid has one headline, which depends on its kind and the settings only,
and notes that name the methods behind it.
-/

namespace DispatchAudit

def Tally.text (tally : Tally) : String :=
  tally.name ++ " (x" ++ toString tally.count ++ ")"

namespace Audit

def plural (count : Nat) (one many : String) : String := if count = 1 then one else many

def counted (count : Nat) (one many : String) : String :=
  toString count ++ " " ++ plural count one many

def enumerated (names : List String) : String := String.intercalate ", " names

/-- A note that begins with the given words and lists the given items, if there are any. -/
def listing (words : String) (items : List String) : List String :=
  if items.isEmpty then [] else [words ++ enumerated items]

/-- The notes on a dispatch mismatch: one for each list that is not empty, and the two counts
if they differ. -/
def DispatchMismatch.notes (mismatch : DispatchMismatch) : List String :=
  listing "implemented but not dispatched: " mismatch.notDispatched ++
  listing "dispatched but not implemented: " mismatch.notDeclared ++
  listing "declared more than once: " (mismatch.repeatedDeclarations.map Tally.text) ++
  listing "dispatched more than once: " (mismatch.repeatedEntries.map Tally.text) ++
  if mismatch.declaredCount = mismatch.dispatchedCount then []
  else
    [counted mismatch.declaredCount "implemented method" "implemented methods" ++ ", " ++
      counted mismatch.dispatchedCount "dispatch entry" "dispatch entries"]

def AvailabilityMismatch.notes (mismatch : AvailabilityMismatch) : List String :=
  ["dispatched but not in the interface table: " ++ enumerated mismatch.unavailable]

namespace Verdict

def headline? (settings : Settings) : Verdict → Option String
  | valid => none
  | dispatchMismatch _ => some <|
    "Method validation failed. Please make sure that all implemented NVAPI methods are listed " ++
      "in the `" ++ settings.dispatchFunction ++ "` function."
  | availabilityMismatch _ => some <|
    "Method validation failed. Please make sure that all implemented NVAPI methods correspond " ++
      "to available methods in the `" ++ settings.availabilityTable ++ "` struct."

def notes : Verdict → List String
  | valid => []
  | dispatchMismatch mismatch => mismatch.notes
  | availabilityMismatch mismatch => mismatch.notes

end Verdict

end Audit

end DispatchAudit
