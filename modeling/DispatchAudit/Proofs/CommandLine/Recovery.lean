import DispatchAudit.Proofs.CommandLine.Reports
import DispatchAudit.Proofs.Json.Decoding
import DispatchAudit.Proofs.Json.Placement

/-!
# What the report for programs is read as

A program that decodes the report has the findings again: the verdict with all its details, the
headline, the notes and the names in their order. The reader goes by keys, and takes nothing from
the text but the one document that it spells.
-/

namespace DispatchAudit.CommandLine

open Audit Json

variable {settings : Settings} {findings : Findings}

/-- What a report for programs tells of an audit. -/
structure Account where
  verdict : Verdict
  headline : Option String
  notes : List String
  declared : Roster
  dispatched : Roster
  available : Option Roster
deriving DecidableEq, Repr

def Account.of (settings : Settings) (findings : Findings) : Account where
  verdict := findings.verdict
  headline := findings.verdict.headline? settings
  notes := findings.verdict.notes
  declared := findings.declared
  dispatched := findings.dispatched
  available := findings.available

/-! ### Reading an account -/

def roster? (document : Document) : Option Roster :=
  (document.list? Document.text?).map Roster.mk

def tally? (document : Document) : Option Tally := do
  let name ← document.required? Document.text? "name"
  let count ← document.required? Document.natural? "count"
  return ⟨name, count⟩

def dispatchMismatch? (document : Document) : Option DispatchMismatch := do
  let declaredCount ← document.required? Document.natural? "expectedCount"
  let dispatchedCount ← document.required? Document.natural? "foundCount"
  let notDispatched ← document.required? (Document.list? Document.text?) "notDispatched"
  let notDeclared ← document.required? (Document.list? Document.text?) "notImplemented"
  let repeatedDeclarations ← document.required? (Document.list? tally?) "duplicateDeclarations"
  let repeatedEntries ← document.required? (Document.list? tally?) "duplicateDispatchEntries"
  return ⟨declaredCount, dispatchedCount, notDispatched, notDeclared, repeatedDeclarations,
    repeatedEntries⟩

def availabilityMismatch? (document : Document) : Option AvailabilityMismatch := do
  let unavailable ← document.required? (Document.list? Document.text?) "unavailable"
  return ⟨unavailable⟩

def dispatchDetails? : Verdict → Option DispatchMismatch
  | .dispatchMismatch mismatch => some mismatch
  | _ => none

def availabilityDetails? : Verdict → Option AvailabilityMismatch
  | .availabilityMismatch mismatch => some mismatch
  | _ => none

/-- The verdict with the details that are given, which may be those of one kind only. -/
def verdictOf? : Option DispatchMismatch → Option AvailabilityMismatch → Option Verdict
  | none, none => some .valid
  | some mismatch, none => some (.dispatchMismatch mismatch)
  | none, some mismatch => some (.availabilityMismatch mismatch)
  | some _, some _ => none

theorem verdictOf?_details (verdict : Verdict) :
    verdictOf? (dispatchDetails? verdict) (availabilityDetails? verdict) = some verdict := by
  cases verdict <;> rfl

/-- The verdict that an object tells, with the details that its kind has. -/
def verdict? (document : Document) : Option Verdict := do
  let kind ← document.required? Document.text? "outcome"
  let dispatch ← document.optional? dispatchMismatch? "dispatchMismatch"
  let availability ← document.optional? availabilityMismatch? "availabilityMismatch"
  let verdict ← verdictOf? dispatch availability
  if verdict.word = kind then some verdict else none

def account? (document : Document) : Option Account := do
  let verdict ← verdict? document
  let headline ← document.optional? Document.text? "message"
  let notes ← document.required? (Document.list? Document.text?) "notes"
  let declared ← document.required? roster? "expected"
  let dispatched ← document.required? roster? "found"
  let available ← document.optional? roster? "available"
  return ⟨verdict, headline, notes, declared, dispatched, available⟩

/-! ### Details are read again -/

theorem roster?_rosterValue (roster : Roster) :
    roster? (rosterValue roster).document = some roster := by
  rw [roster?, rosterValue, Value.document_strings, list?_strings, Option.map_some]

theorem tally?_tallyValue (tally : Tally) : tally? (tallyValue tally).document = some tally := by
  simp [tally?, tallyValue, Document.required?, Value.member?_document, List.lookup_cons]

theorem dispatchMismatch?_dispatchValue (mismatch : DispatchMismatch) :
    dispatchMismatch? (dispatchValue mismatch).document = some mismatch := by
  have htallies := Value.list?_document tally?_tallyValue
  simp [dispatchMismatch?, dispatchValue, Document.required?, Value.member?_document,
    List.lookup_cons, htallies]

theorem availabilityMismatch?_availabilityValue (mismatch : AvailabilityMismatch) :
    availabilityMismatch? (availabilityValue mismatch).document = some mismatch := by
  simp [availabilityMismatch?, availabilityValue, Document.required?, Value.member?_document]

/-! ### The account is read again -/

theorem gives_dispatchDetails_iff {given : Document} :
    Gives (jsonReport settings findings) "dispatchMismatch" given ↔
      ∃ mismatch, dispatchDetails? findings.verdict = some mismatch ∧
        (dispatchValue mismatch).document = given := by
  rw [gives_dispatchMismatch_iff]
  cases findings.verdict <;> simp [dispatchPart?, dispatchDetails?]

theorem gives_availabilityDetails_iff {given : Document} :
    Gives (jsonReport settings findings) "availabilityMismatch" given ↔
      ∃ mismatch, availabilityDetails? findings.verdict = some mismatch ∧
        (availabilityValue mismatch).document = given := by
  rw [gives_availabilityMismatch_iff]
  cases findings.verdict <;> simp [availabilityPart?, availabilityDetails?]

section

variable {members : List Member}
variable (hspells : SpellsObject members (jsonReport settings findings).toList)
  (hnodup : (members.map Prod.fst).Nodup)

include hspells hnodup

theorem verdict?_of_spells : verdict? (.object members) = some findings.verdict := by
  have hkind := required?_of_gives hspells hnodup (gives_outcome_iff.mpr rfl) (text?_string _)
  have hdispatch := optional?_of_gives_iff hspells hnodup (fun _ => gives_dispatchDetails_iff)
    dispatchMismatch?_dispatchValue
  have havailability := optional?_of_gives_iff hspells hnodup
    (fun _ => gives_availabilityDetails_iff) availabilityMismatch?_availabilityValue
  simp only [verdict?, hkind, hdispatch, havailability, Option.bind_eq_bind, Option.bind_some,
    verdictOf?_details, if_true]

theorem account?_of_spells : account? (.object members) = some (.of settings findings) := by
  have hverdict := verdict?_of_spells hspells hnodup
  have hheadline := optional?_of_gives_iff hspells hnodup (fun _ => gives_message_iff) text?_string
  have hnotes := required?_of_gives hspells hnodup (gives_notes_iff.mpr rfl) (list?_strings _)
  have hdeclared := required?_of_gives hspells hnodup (gives_expected_iff.mpr rfl)
    (roster?_rosterValue _)
  have hdispatched := required?_of_gives hspells hnodup (gives_found_iff.mpr rfl)
    (roster?_rosterValue _)
  have havailable := optional?_of_gives_iff hspells hnodup (fun _ => gives_available_iff)
    roster?_rosterValue
  simp only [account?, hverdict, hheadline, hnotes, hdeclared, hdispatched, havailable]
  rfl

end

/-! ### The whole report -/

theorem toList_jsonReport (settings : Settings) (findings : Findings) :
    (jsonReport settings findings).toList =
      (findingsValue settings findings).prettyAt 0 ++ ['\n'] := by
  rw [jsonReport, Value.pretty, String.toList_append, String.toList_ofList]
  rfl

theorem spells_jsonReport (settings : Settings) (findings : Findings) :
    Spells (.padded (findingsValue settings findings).document)
      (jsonReport settings findings).toList := by
  have hvalue := (findingsValue settings findings).spells_prettyAt 0
  have hpadded := Spells.padded .nil hvalue (Value.allSpace_newLine 0)
  rwa [toList_jsonReport]

/-- The report for programs is one object with a line feed behind it. Whoever reads it by the
grammar reads this object. None of its keys stands twice and no control character stands in its
strings. What is available is one of its members exactly if it was found, and the whole account
is read back from it, text by text and in order. -/
theorem jsonReport_recovered (settings : Settings) (findings : Findings) :
    ∃ text members, (jsonReport settings findings).toList = text ++ ['\n'] ∧
      Spells (.value (.object members)) text ∧
      (∀ document, Spells (.padded document) (jsonReport settings findings).toList →
        document = .object members) ∧
      (members.map Prod.fst).Nodup ∧
      ControlFree .outside (jsonReport settings findings).toList ∧
      ((∃ given, (Document.object members).member? "available" = some given) ↔
        findings.available.isSome) ∧
      account? (.object members) = some (.of settings findings) := by
  obtain ⟨members, hspells, hnodup⟩ := exists_spells_jsonReport settings findings
  have hself := (spells_jsonReport settings findings).padded_unique hspells
  have hvalue := (findingsValue settings findings).spells_prettyAt 0
  rw [hself] at hvalue
  refine ⟨_, members, toList_jsonReport settings findings, hvalue, ?_, hnodup, ?_, ?_, ?_⟩
  · exact fun document hdocument => hdocument.padded_unique hspells
  · exact (Spells.returns hspells).controlFree
  · simp only [member?_eq_some_iff_gives hspells hnodup, gives_available_iff,
      Option.isSome_iff_exists]
    simp
  · exact account?_of_spells hspells hnodup

/-- Settings that name the table with characters that must be escaped, and with one that has two
code units. -/
def escapedSettings : Settings :=
  { Settings.standard with availabilityTable := "\"\\\n\x1f😀" }

def escapedFindings : Findings where
  sources := ⟨[⟨"a.cpp"⟩], ⟨"i.cpp"⟩, some ⟨"i.h"⟩⟩
  declared := ⟨["A", "\x08"]⟩
  dispatched := ⟨["\x08", "A"]⟩
  available := some ⟨["A"]⟩
  verdict := .availabilityMismatch ⟨["\x08"]⟩

theorem jsonReport_recovered_escaped :
    let document := (findingsValue escapedSettings escapedFindings).document
    Spells (.padded document) (jsonReport escapedSettings escapedFindings).toList ∧
      (∃ given, document.member? "available" = some given) ∧
      account? document = some (.of escapedSettings escapedFindings) := by
  intro document
  obtain ⟨_, members, _, _, honly, _, _, havailable, haccount⟩ :=
    jsonReport_recovered escapedSettings escapedFindings
  have hwhole : Spells (.padded document) (jsonReport escapedSettings escapedFindings).toList :=
    spells_jsonReport escapedSettings escapedFindings
  rw [← honly document hwhole] at havailable haccount
  exact ⟨hwhole, havailable.mpr rfl, haccount⟩

end DispatchAudit.CommandLine
