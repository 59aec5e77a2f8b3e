import DispatchAudit.Proofs.Source.Declarations
import DispatchAudit.Proofs.Source.Region

/-!
# Only names are extracted

Whatever the tokens and the markers are, what is found in a source is a name: some word characters
and nothing else. For dispatch entries this holds of every state of the scan, so it does not matter
where the region begins and ends.
-/

namespace DispatchAudit.Source

open Text

variable {rule : DeclarationRule} {markers : Markers} {scan : RegionScan} {source name : String}

theorem DeclarationRule.isName_of_mem_declared (hname : name ∈ (rule.declared source).names) :
    IsName name.toList := by
  obtain ⟨position, line, _, hdeclares⟩ := (rule.inLineOrder_declared source).mem_iff.mp hname
  obtain ⟨_, _, _, _, _, _, _, hname, _⟩ := hdeclares
  exact hname

theorem IsEntry.isName {line : List Char} (hentry : IsEntry line name) : IsName name.toList := by
  obtain ⟨_, _, _, _, _, hname, _⟩ := hentry
  exact hname

theorem RegionScan.isName_step (hnames : ∀ name ∈ scan.found, IsName name.toList)
    (line : List Char) : ∀ name ∈ (scan.step markers line).found, IsName name.toList := by
  by_cases hread : scan.active = true ∧ trim line ≠ markers.closing.toList
  · rw [found_step_of_read hread.1 hread.2]
    intro name hname
    rcases List.mem_append.mp hname with hnew | hold
    · exact (entryName?_eq_some_iff.mp (Option.mem_toList.mp hnew)).isName
    · exact hnames name hold
  · rw [found_step_of_not_read hread]
    exact hnames

theorem RegionScan.isName_run (textLines : List (List Char)) :
    ∀ name ∈ (textLines.foldl (RegionScan.step markers) ⟨false, []⟩).found,
      IsName name.toList := by
  induction textLines using List.reverseRecOn with
  | nil => exact fun name hname => absurd hname List.not_mem_nil
  | append_singleton before line ih =>
      rw [List.foldl_append]
      exact isName_step ih line

theorem Markers.isName_of_mem_dispatched (hname : name ∈ (markers.dispatched source).names) :
    IsName name.toList :=
  RegionScan.isName_run _ name (List.mem_reverse.mp hname)

end DispatchAudit.Source
