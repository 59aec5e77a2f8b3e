import DispatchAudit.Proofs.Audit.Notes
import DispatchAudit.Proofs.CommandLine.Reports
import DispatchAudit.Proofs.Source.Extracted

/-!
# The report for people can be read back

The report for people is a headline and a line for each note. The headline holds texts from the
settings, which may be anything, line feeds included, but with the same settings there is one
headline for each kind of mismatch and they differ before these texts come. So the headline is
settled by the report, the lines behind it are the notes, since no note holds a line feed, and the
notes say what the details are.
-/

namespace DispatchAudit.CommandLine

open Audit Files Source Text

variable {settings : Settings} {findings findings' : Findings} {color : Bool}

def noteOpening (color : Bool) : String :=
  "  " ++ Style.blue.paint color "=" ++ " " ++ Style.bold.paint color "note:" ++ " "

def noteLines (color : Bool) (notes : List String) : List Char :=
  ended (notes.map fun note => (noteOpening color).toList ++ note.toList)

theorem toList_textReport {headline : String}
    (hheadline : findings.verdict.headline? settings = some headline) :
    (textReport color settings findings).toList =
      headline.toList ++ '\n' :: noteLines color findings.verdict.notes := by
  rw [textReport_of_headline hheadline, String.toList_append, String.toList_append,
    String.toList_join, List.flatMap_map]
  simp [noteLines, ended, List.flatMap_map, noteLine, noteOpening]

theorem noteLines_inj {notes notes' : List String} (hnotes : ∀ note ∈ notes, '\n' ∉ note.toList)
    (hnotes' : ∀ note ∈ notes', '\n' ∉ note.toList)
    (heq : noteLines color notes = noteLines color notes') : notes = notes' := by
  have hopening : '\n' ∉ (noteOpening color).toList := by
    cases color <;> decide
  have hfree : ∀ all : List String, (∀ note ∈ all, '\n' ∉ note.toList) →
      ∀ line ∈ all.map (fun note => (noteOpening color).toList ++ note.toList), '\n' ∉ line := by
    intro all hall line hline
    obtain ⟨note, hnote, rfl⟩ := List.mem_map.mp hline
    rw [List.mem_append]
    exact not_or.mpr ⟨hopening, hall note hnote⟩
  have hinjective : Function.Injective fun note : String =>
      (noteOpening color).toList ++ note.toList := by
    intro note note' hsame
    exact String.toList_inj.mp (List.append_cancel_left hsame)
  exact List.map_injective_iff.mpr hinjective
    (ended_inj (hfree notes hnotes) (hfree notes' hnotes') heq)

/-- Under one headline the report settles the notes. -/
theorem notes_eq_of_textReport_eq {headline : String} (hnames : findings.verdict.OnNames)
    (hnames' : findings'.verdict.OnNames)
    (hheadline : findings.verdict.headline? settings = some headline)
    (hheadline' : findings'.verdict.headline? settings = some headline)
    (heq : textReport color settings findings = textReport color settings findings') :
    findings.verdict.notes = findings'.verdict.notes := by
  have hchars := congrArg String.toList heq
  rw [toList_textReport hheadline, toList_textReport hheadline'] at hchars
  exact noteLines_inj hnames.feed_not_mem hnames'.feed_not_mem
    (List.cons.inj (List.append_cancel_left hchars)).2

/-- The headlines of the two kinds of mismatch differ before any text of the settings. -/
theorem textReport_ne_of_kinds {mismatch : DispatchMismatch} {mismatch' : AvailabilityMismatch}
    (hverdict : findings.verdict = .dispatchMismatch mismatch)
    (hverdict' : findings'.verdict = .availabilityMismatch mismatch') :
    textReport color settings findings ≠ textReport color settings findings' := by
  intro heq
  have hapart : Apart
      ("Method validation failed. Please make sure that all implemented NVAPI methods are " ++
        "listed ").toList
      ("Method validation failed. Please make sure that all implemented NVAPI methods " ++
        "correspond ").toList := by
    decide
  have hchars := congrArg String.toList heq
  rw [textReport, textReport, hverdict, hverdict'] at hchars
  simp only [Verdict.headline?, String.toList_append, List.append_assoc] at hchars
  exact hapart.append_ne hchars

theorem alike_of_textReport_eq (hnames : findings.verdict.OnNames)
    (hnames' : findings'.verdict.OnNames)
    (heq : textReport color settings findings = textReport color settings findings') :
    findings.verdict.Alike findings'.verdict := by
  have hvalid : findings.verdict = .valid ↔ findings'.verdict = .valid := by
    rw [← @textReport_eq_empty_iff settings _ color, heq, textReport_eq_empty_iff]
  cases hverdict : findings.verdict with
  | valid =>
      rw [hvalid.mp hverdict]
      exact .valid
  | dispatchMismatch mismatch =>
      cases hverdict' : findings'.verdict with
      | valid => cases hverdict.symm.trans (hvalid.mpr hverdict')
      | dispatchMismatch mismatch' =>
          have hnotes := notes_eq_of_textReport_eq hnames hnames' (by rw [hverdict]; rfl)
            (by rw [hverdict']; rfl) heq
          rw [hverdict] at hnames hnotes
          rw [hverdict'] at hnames' hnotes
          exact .dispatchMismatch (hnames.ofNames.alike_of_notes_eq hnames'.ofNames hnotes)
      | availabilityMismatch mismatch' =>
          exact absurd heq (textReport_ne_of_kinds hverdict hverdict')
  | availabilityMismatch mismatch =>
      cases hverdict' : findings'.verdict with
      | valid => cases hverdict.symm.trans (hvalid.mpr hverdict')
      | dispatchMismatch mismatch' =>
          exact absurd heq.symm (textReport_ne_of_kinds hverdict' hverdict)
      | availabilityMismatch mismatch' =>
          have hnotes := notes_eq_of_textReport_eq hnames hnames' (by rw [hverdict]; rfl)
            (by rw [hverdict']; rfl) heq
          rw [hverdict] at hnames hnotes
          rw [hverdict'] at hnames' hnotes
          exact .availabilityMismatch (hnames.unavailable_eq_of_notes_eq hnames' hnotes)

/-- Every audit reaches a verdict on rosters of names. -/
theorem onNames_of_check {workspace : Workspace} {sources : Sources}
    (hcheck : check workspace settings sources = .ok findings) : findings.verdict.OnNames := by
  obtain ⟨rule, texts, interface, header, _, _, _, _, rfl⟩ := check_eq_ok_iff.mp hcheck
  refine ⟨settings.duplicateCheck, Roster.concat (texts.map rule.declared),
    settings.markers.dispatched interface, header.map available, ?_, ?_, rfl⟩
  · intro name hname
    rw [Roster.names_concat, List.flatMap_map] at hname
    obtain ⟨text, _, hname⟩ := List.mem_flatMap.mp hname
    exact DeclarationRule.isName_of_mem_declared hname
  · intro name hname
    exact Markers.isName_of_mem_dispatched hname

/-- With the same settings two verdicts on rosters of names have the same report for people
exactly if they are alike: the report loses the totals where they agree, and nothing else. -/
theorem textReport_eq_iff_alike (hnames : findings.verdict.OnNames)
    (hnames' : findings'.verdict.OnNames) (color : Bool) (settings : Settings) :
    textReport color settings findings = textReport color settings findings' ↔
      findings.verdict.Alike findings'.verdict := by
  constructor
  · intro heq
    exact alike_of_textReport_eq hnames hnames' heq
  · intro halike
    rw [textReport, textReport, halike.headline?_eq settings, halike.notes_eq]

/-- What an audit under the rule of multisets finds if it compares declarations and entries only. -/
def multisetFindings (declared dispatched : Roster) : Findings where
  sources := ⟨[⟨"a.cpp"⟩], ⟨"i.cpp"⟩, none⟩
  declared := declared
  dispatched := dispatched
  available := none
  verdict := .of .multiset declared dispatched none

def threeEach : Findings := multisetFindings ⟨["A", "A", "B"]⟩ ⟨["A", "B", "B"]⟩

def fourEach : Findings := multisetFindings ⟨["C", "A", "A", "B"]⟩ ⟨["A", "B", "B", "C"]⟩

theorem textReport_of_equal_totals :
    threeEach.verdict.OnNames ∧ fourEach.verdict.OnNames ∧
      textReport true .standard threeEach = textReport true .standard fourEach ∧
      threeEach.verdict ≠ fourEach.verdict := by
  have hthree : threeEach.verdict =
      .dispatchMismatch (.between threeEach.declared threeEach.dispatched) :=
    Verdict.of_eq_dispatchMismatch_iff_between.mpr
      ⟨by rw [DuplicateRule.multiset_accepts_iff]; decide, rfl⟩
  have hfour : fourEach.verdict =
      .dispatchMismatch (.between fourEach.declared fourEach.dispatched) :=
    Verdict.of_eq_dispatchMismatch_iff_between.mpr
      ⟨by rw [DuplicateRule.multiset_accepts_iff]; decide, rfl⟩
  have hnames : threeEach.verdict.OnNames := ⟨_, _, _, _, by decide, by decide, rfl⟩
  have hnames' : fourEach.verdict.OnNames := ⟨_, _, _, _, by decide, by decide, rfl⟩
  refine ⟨hnames, hnames', (textReport_eq_iff_alike hnames hnames' true .standard).mpr ?_, ?_⟩
  · rw [hthree, hfour]
    exact .dispatchMismatch ⟨by decide, by decide, by decide, by decide, by decide⟩
  · rw [hthree, hfour]
    decide

end DispatchAudit.CommandLine
