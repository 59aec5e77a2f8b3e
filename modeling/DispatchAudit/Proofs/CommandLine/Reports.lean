import DispatchAudit.Proofs.Audit.Explanation
import DispatchAudit.Proofs.CommandLine.Ending
import DispatchAudit.Proofs.Json.Giving
import Mathlib.Data.List.TFAE

/-!
# Status and reports tell one story

The status and the two reports are made from the verdict by different functions. For any verdict
whatever they agree on whether it is valid, except that a mismatch without details would have no
notes; but a rule rejects only where the details name something, so no audit reaches such a
verdict. The report for programs is looked at as what its text gives for a key, not as the value
that the text was made from.
-/

namespace DispatchAudit.CommandLine

open Audit Files Json

variable {workspace : Workspace} {arguments : Arguments} {sources : Sources}
  {settings : Settings} {findings : Findings} {given : Document}

/-! ### What the report for programs gives -/

theorem gives_outcome_iff : Gives (jsonReport settings findings) "outcome" given ↔
    .string (units findings.verdict.word) = given := by
  rw [jsonReport, findingsValue, Value.gives_ofMembers_iff]
  simp

theorem gives_message_iff : Gives (jsonReport settings findings) "message" given ↔
    ∃ headline, findings.verdict.headline? settings = some headline ∧
      .string (units headline) = given := by
  rw [jsonReport, findingsValue, Value.gives_ofMembers_iff]
  simp

theorem gives_notes_iff : Gives (jsonReport settings findings) "notes" given ↔
    .array (findings.verdict.notes.map fun note => .string (units note)) = given := by
  rw [jsonReport, findingsValue, Value.gives_ofMembers_iff]
  simp

theorem gives_expected_iff : Gives (jsonReport settings findings) "expected" given ↔
    (rosterValue findings.declared).document = given := by
  rw [jsonReport, findingsValue, Value.gives_ofMembers_iff]
  simp

theorem gives_found_iff : Gives (jsonReport settings findings) "found" given ↔
    (rosterValue findings.dispatched).document = given := by
  rw [jsonReport, findingsValue, Value.gives_ofMembers_iff]
  simp

theorem gives_available_iff : Gives (jsonReport settings findings) "available" given ↔
    ∃ roster, findings.available = some roster ∧ (rosterValue roster).document = given := by
  rw [jsonReport, findingsValue, Value.gives_ofMembers_iff]
  simp

theorem gives_dispatchMismatch_iff :
    Gives (jsonReport settings findings) "dispatchMismatch" given ↔
      ∃ value, dispatchPart? findings.verdict = some value ∧ value.document = given := by
  rw [jsonReport, findingsValue, Value.gives_ofMembers_iff]
  simp

theorem gives_availabilityMismatch_iff :
    Gives (jsonReport settings findings) "availabilityMismatch" given ↔
      ∃ value, availabilityPart? findings.verdict = some value ∧ value.document = given := by
  rw [jsonReport, findingsValue, Value.gives_ofMembers_iff]
  simp

/-- The report for programs is one object, and no key stands twice in it. -/
theorem exists_spells_jsonReport (settings : Settings) (findings : Findings) :
    ∃ members, SpellsObject members (jsonReport settings findings).toList ∧
      (members.map Prod.fst).Nodup := by
  apply Value.exists_spells_ofMembers
  change ["outcome", "message", "notes", "expected", "found", "available", "dispatchMismatch",
    "availabilityMismatch"].Nodup
  decide

/-! ### What tells that a verdict is valid -/

theorem headline?_eq_none_iff {verdict : Verdict} :
    verdict.headline? settings = none ↔ verdict = .valid := by
  cases verdict <;> simp [Verdict.headline?]

theorem textReport_of_headline {color : Bool} {headline : String}
    (hheadline : findings.verdict.headline? settings = some headline) :
    textReport color settings findings =
      headline ++ "\n" ++ String.join (findings.verdict.notes.map (noteLine color)) := by
  rw [textReport, hheadline]

theorem textReport_eq_empty_iff {color : Bool} :
    textReport color settings findings = "" ↔ findings.verdict = .valid := by
  rw [← @headline?_eq_none_iff settings]
  cases hheadline : findings.verdict.headline? settings with
  | none => simp [textReport, hheadline]
  | some headline => simp [textReport_of_headline hheadline]

theorem gives_outcome_valid_iff :
    Gives (jsonReport settings findings) "outcome" (.string (units "valid")) ↔
      findings.verdict = .valid := by
  rw [gives_outcome_iff, Document.string.injEq, units_inj]
  cases findings.verdict <;> simp [Verdict.word]

theorem not_hasKey_message_iff :
    ¬ HasKey (jsonReport settings findings) "message" ↔ findings.verdict = .valid := by
  rw [← @headline?_eq_none_iff settings, Option.eq_none_iff_forall_ne_some]
  simp [HasKey, gives_message_iff]

theorem gives_no_notes_iff :
    Gives (jsonReport settings findings) "notes" (.array []) ↔ findings.verdict.notes = [] := by
  rw [gives_notes_iff, Document.array.injEq, List.map_eq_nil_iff]

theorem not_hasKey_mismatch_iff :
    (¬ HasKey (jsonReport settings findings) "dispatchMismatch" ∧
      ¬ HasKey (jsonReport settings findings) "availabilityMismatch") ↔
        findings.verdict = .valid := by
  simp only [HasKey, gives_dispatchMismatch_iff, gives_availabilityMismatch_iff]
  cases findings.verdict <;> simp [dispatchPart?, availabilityPart?]

/-! ### What the reports tell of a mismatch -/

theorem gives_mismatch_of_ne_valid (hother : findings.verdict ≠ .valid) :
    (Gives (jsonReport settings findings) "outcome" (.string (units "dispatch-mismatch")) ∧
      (∃ details, Gives (jsonReport settings findings) "dispatchMismatch" (.object details)) ∧
      ¬ HasKey (jsonReport settings findings) "availabilityMismatch") ∨
    (Gives (jsonReport settings findings) "outcome" (.string (units "availability-mismatch")) ∧
      ¬ HasKey (jsonReport settings findings) "dispatchMismatch" ∧
      ∃ details,
        Gives (jsonReport settings findings) "availabilityMismatch" (.object details)) := by
  simp only [HasKey, gives_outcome_iff, gives_dispatchMismatch_iff, gives_availabilityMismatch_iff]
  cases hverdict : findings.verdict with
  | valid => exact absurd hverdict hother
  | dispatchMismatch mismatch =>
      exact .inl ⟨rfl, ⟨_, dispatchValue mismatch, rfl, rfl⟩, by simp [availabilityPart?]⟩
  | availabilityMismatch mismatch =>
      exact .inr ⟨rfl, by simp [dispatchPart?], ⟨_, availabilityValue mismatch, rfl, rfl⟩⟩

theorem exists_told_of_ne_valid (color : Bool) (hother : findings.verdict ≠ .valid) :
    ∃ message, Gives (jsonReport settings findings) "message" (.string (units message)) ∧
      Gives (jsonReport settings findings) "notes"
        (.array (findings.verdict.notes.map fun note => .string (units note))) ∧
      textReport color settings findings =
        message ++ "\n" ++ String.join (findings.verdict.notes.map (noteLine color)) := by
  obtain ⟨message, hmessage⟩ : ∃ message, findings.verdict.headline? settings = some message :=
    Option.ne_none_iff_exists'.mp fun hnone => hother (headline?_eq_none_iff.mp hnone)
  exact ⟨message, gives_message_iff.mpr ⟨message, hmessage, rfl⟩, gives_notes_iff.mpr rfl,
    textReport_of_headline hmessage⟩

/-! ### Runs that reach a verdict -/

def printed (workspace : Workspace) (color : Bool) (arguments : Arguments) (format : Format) :
    String :=
  (run workspace color { arguments with format }).output

theorem exists_findings_of_verdict {color : Bool} (hprint : arguments.printConfig = false)
    (hpaths : arguments.scope.minPaths ≤ arguments.paths.length)
    (hstatus : (run workspace color arguments).status ≠ .error) :
    ∃ settings expanded findings, check workspace settings expanded = .ok findings ∧
      (expanded.header.isSome = true ↔ arguments.skipAvailability = false) ∧
      (run workspace color arguments).status = .ofVerdict findings.verdict ∧
      ∀ format, printed workspace color arguments format =
        report format color settings findings := by
  rcases run_cases workspace color arguments with ⟨hprint', _⟩ | ⟨_, hfew, _⟩ |
    ⟨_, sources, findings, hsources, hcompletes, hended⟩ | ⟨_, _, _, _, _, hfailed⟩
  · rw [hprint] at hprint'
    cases hprint'
  · exact absurd hfew (Nat.not_lt.mpr hpaths)
  · obtain ⟨loaded, hloaded, haudit⟩ := completes_iff.mp hcompletes
    obtain ⟨expanded, hexpanded, hcheck⟩ := audit_eq_ok_iff.mp haudit
    refine ⟨_, expanded, findings, hcheck, ?_, hended, ?_⟩
    · obtain ⟨implementations, _, rfl⟩ := map_eq_ok_iff.mp hexpanded
      rw [isSome_header_of_ofPaths? hsources, Arguments.scope]
      cases arguments.skipAvailability <;> simp
    · intro format
      have hrun : run workspace color { arguments with format } =
          runSources workspace color { arguments with format } sources :=
        run_of_sources workspace color hprint hsources
      have hreport : runSources workspace color { arguments with format } sources = _ :=
        runSources_of_audit color hloaded haudit
      rw [printed, hrun, hreport]
      rfl
  · exact absurd hfailed hstatus

theorem status_ne_error_of_completes {color : Bool} (hprint : arguments.printConfig = false)
    (hsources : Sources.ofPaths? arguments.scope arguments.paths = some sources)
    (hcompletes : Completes workspace arguments sources findings) :
    (run workspace color arguments).status ≠ .error := by
  rw [status_of_completes color hprint hsources hcompletes]
  rcases status_ofVerdict_cases findings.verdict with ⟨_, hended⟩ | ⟨_, hended⟩
  · rw [hended]
    exact nofun
  · rw [hended]
    exact nofun

/-- Of a run that reaches a verdict the status, the report for people and the report for programs
tell the same, in whatever form it reports. They agree on whether the verdict is valid; if not,
the kind is given once and fits the details, there are notes, and the report for people is the
message and the notes of the report for programs. What is available is given exactly if it was
asked for. -/
theorem reports_agree (hprint : arguments.printConfig = false)
    (hpaths : arguments.scope.minPaths ≤ arguments.paths.length) {color : Bool}
    (hstatus : (run workspace color arguments).status ≠ .error) :
    let code := (run workspace color arguments).status.code
    let text := printed workspace color arguments .text
    let json := printed workspace color arguments .json
    (∃ members, SpellsObject members json.toList ∧ (members.map Prod.fst).Nodup) ∧
    [code = 0,
      text = "",
      Gives json "outcome" (.string (units "valid")),
      ¬ HasKey json "message",
      Gives json "notes" (.array []),
      ¬ HasKey json "dispatchMismatch" ∧ ¬ HasKey json "availabilityMismatch"].TFAE ∧
    (code ≠ 0 →
      ((Gives json "outcome" (.string (units "dispatch-mismatch")) ∧
          (∃ details, Gives json "dispatchMismatch" (.object details)) ∧
          ¬ HasKey json "availabilityMismatch") ∨
        (Gives json "outcome" (.string (units "availability-mismatch")) ∧
          ¬ HasKey json "dispatchMismatch" ∧
          ∃ details, Gives json "availabilityMismatch" (.object details))) ∧
      ∃ message notes, notes ≠ [] ∧ Gives json "message" (.string (units message)) ∧
        Gives json "notes" (.array (notes.map fun note => .string (units note))) ∧
        text = message ++ "\n" ++ String.join (notes.map fun note =>
          "  " ++ Style.blue.paint color "=" ++ " " ++ Style.bold.paint color "note:" ++ " " ++
            note ++ "\n")) ∧
    (HasKey json "available" ↔ arguments.skipAvailability = false) := by
  intro code text json
  obtain ⟨settings, expanded, findings, hcheck, hheader, hended, hprinted⟩ :=
    exists_findings_of_verdict hprint hpaths hstatus
  have hcode : code = (ExitStatus.ofVerdict findings.verdict).code :=
    congrArg ExitStatus.code hended
  have htext : text = textReport color settings findings := hprinted .text
  have hjson : json = jsonReport settings findings := hprinted .json
  have hnotes : findings.verdict.notes = [] ↔ findings.verdict = .valid := by
    rw [verdict_of_check hcheck]
    exact Verdict.notes_of_eq_nil_iff
  rw [hcode, htext, hjson]
  refine ⟨exists_spells_jsonReport settings findings, ?_, ?_, ?_⟩
  · -- each of the facts says by itself that the verdict is valid
    apply List.tfae_of_forall (findings.verdict = .valid)
    simp only [List.forall_mem_cons]
    exact ⟨code_ofVerdict_eq_zero_iff, textReport_eq_empty_iff, gives_outcome_valid_iff,
      not_hasKey_message_iff, gives_no_notes_iff.trans hnotes, not_hasKey_mismatch_iff,
      List.forall_mem_nil _⟩
  · intro hfailed
    have hother := mt code_ofVerdict_eq_zero_iff.mpr hfailed
    obtain ⟨message, htold⟩ := exists_told_of_ne_valid color hother
    exact ⟨gives_mismatch_of_ne_valid hother, message, findings.verdict.notes, mt hnotes.mp hother,
      htold⟩
  · rw [← hheader, ← isSome_available_of_check hcheck, Option.isSome_iff_exists]
    simp [HasKey, gives_available_iff]

/-- An implementation, an interface source that repeats another name than the implementation
does, and a header. -/
def crossedFiles : List TextFile :=
  [⟨⟨"a.cpp"⟩, "NvAPI_Status __cdecl A()\nNvAPI_Status __cdecl A()\nNvAPI_Status __cdecl B()\n"⟩,
    ⟨⟨"i.cpp"⟩, "/* Start NVAPI methods */\ntbl(A)\ntbl(B)\ntbl(B)\n/* End */\n"⟩,
    ⟨⟨"i.h"⟩, "\x7b \"A\", 1 \x7d,\n\x7b \"B\", 2 \x7d,\n"⟩]

def crossedWorkspace : Workspace :=
  Workspace.writeAll ⟨.directory [(".git", .directory [])], []⟩ crossedFiles

def crossedArguments : Arguments where
  paths := crossedFiles.map TextFile.path
  skipAvailability := false
  config := none
  strict := true
  format := .json
  printConfig := false
  verbose := true

theorem loading_crossed :
    loading crossedWorkspace crossedArguments = .ok ⟨.standard, none⟩ := by
  have hnone : crossedWorkspace.findSettings crossedWorkspace.directoryPath = none := by
    rw [Workspace.findSettings, if_neg (by decide), if_pos (by decide)]
  rw [loading, Workspace.loadSettings, hnone]
  rfl

theorem exists_completes_crossed : ∃ findings, Completes crossedWorkspace crossedArguments
    ⟨[⟨"a.cpp"⟩], ⟨"i.cpp"⟩, some ⟨"i.h"⟩⟩ findings ∧ findings.verdict ≠ .valid := by
  have hwrite : Workspace.CanWrite ⟨.directory [(".git", .directory [])], []⟩ crossedFiles :=
    ⟨by decide, by decide, by decide⟩
  have hholds : ∀ file ∈ crossedFiles, crossedWorkspace.Holds file := hwrite.holds
  obtain ⟨himplementation, hlater⟩ := List.forall_mem_cons.mp hholds
  obtain ⟨hinterface, hlater⟩ := List.forall_mem_cons.mp hlater
  obtain ⟨hheader, _⟩ := List.forall_mem_cons.mp hlater
  have hread : readSource? crossedWorkspace (some ⟨"i.h"⟩) = .ok (some _) :=
    congrArg (Except.map some) (readSource_of_holds hheader)
  have hrule : (effectiveSettings crossedArguments .standard).rule? =
      some ⟨"NvAPI_Status", "__cdecl", by decide⟩ := rfl
  refine ⟨_, .mk loading_crossed rfl hrule
    (readSources_singleton (readSource_of_holds himplementation))
    (readSource_of_holds hinterface) hread, fun hvalid => ?_⟩
  obtain ⟨haccepts, _⟩ := Verdict.of_eq_valid_iff.mp hvalid
  exact absurd (DuplicateRule.multiset_accepts_iff.mp haccepts) (by decide +kernel)

theorem reports_agree_crossed :
    crossedArguments.printConfig = false ∧
    crossedArguments.scope.minPaths ≤ crossedArguments.paths.length ∧
    (run crossedWorkspace true crossedArguments).status ≠ .error ∧
    (run crossedWorkspace true crossedArguments).status.code ≠ 0 ∧
    ∃ message notes, notes ≠ [] ∧
      Gives (printed crossedWorkspace true crossedArguments .json) "notes"
        (.array (notes.map fun note => .string (units note))) ∧
      printed crossedWorkspace true crossedArguments .text =
        message ++ "\n" ++ String.join (notes.map fun note =>
          "  " ++ Style.blue.paint true "=" ++ " " ++ Style.bold.paint true "note:" ++ " " ++
            note ++ "\n") := by
  obtain ⟨findings, hcompletes, hother⟩ := exists_completes_crossed
  have hsources : Sources.ofPaths? crossedArguments.scope crossedArguments.paths =
      some ⟨[⟨"a.cpp"⟩], ⟨"i.cpp"⟩, some ⟨"i.h"⟩⟩ := by decide
  have hpaths : crossedArguments.scope.minPaths ≤ crossedArguments.paths.length := by decide
  have hstatus : (run crossedWorkspace true crossedArguments).status ≠ .error :=
    status_ne_error_of_completes rfl hsources hcompletes
  have hcode : (run crossedWorkspace true crossedArguments).status.code ≠ 0 := by
    rw [status_of_completes true rfl hsources hcompletes]
    exact mt code_ofVerdict_eq_zero_iff.mp hother
  obtain ⟨_, _, htold, _⟩ := reports_agree rfl hpaths hstatus
  obtain ⟨_, message, notes, hsome, _, hnotes, htext⟩ := htold hcode
  exact ⟨rfl, hpaths, hstatus, hcode, message, notes, hsome, hnotes, htext⟩

end DispatchAudit.CommandLine
