import DispatchAudit.Proofs.Source.Region
import DispatchAudit.Proofs.Text.Trimmed

/-!
# A region and what surrounds it

Here a scan is followed over stretches of lines. Up to an opening marker nothing happens outside a
region, from there on every line adds the name it is an entry for, and the closing marker ends
that. So a source with one region in it dispatches the entries of that region, as long as the
lines around it either leave the state of the scan alone or have no names to give.
-/

namespace DispatchAudit.Source

open Text

variable {markers : Markers} {textLines before entries after : List (List Char)}
  {line openingLine closingLine blanks word : List Char} {found : List String} {name : String}

/-! ### Entries among blanks -/

def applied (word name : List Char) : List Char := word ++ '(' :: name ++ [')']

theorem isSolid_applied (hword : IsName word) (name : List Char) :
    IsSolid (applied word name) := by
  obtain ⟨c, more, rfl⟩ := List.exists_cons_of_ne_nil hword.ne_nil
  refine ⟨List.cons_ne_nil _ _, ?_, ?_⟩
  · intro d hd
    cases hd
    exact isBlank_eq_false_of_isWord (hword.isWord c List.mem_cons_self)
  · intro d hd
    rw [applied, List.getLast?_concat] at hd
    cases hd
    decide

theorem isEntry_applied (hblank : AllBlank blanks) (hword : IsName word)
    (hname : IsName name.toList) (rest : List Char) :
    IsEntry (blanks ++ applied word name.toList ++ rest) name :=
  ⟨blanks, word, rest, hblank, hword, hname, by simp [applied]⟩

theorem isLine_applied (hblanks : '\n' ∉ blanks) (hword : IsName word)
    (hname : IsName name.toList) : IsLine (blanks ++ applied word name.toList) := by
  refine ⟨?_, ?_⟩
  · have hword' : '\n' ∉ word := hword.not_mem (by decide)
    have hname' : '\n' ∉ name.toList := hname.not_mem (by decide)
    simp [applied, hblanks, hword', hname']
  · rw [applied, ← List.append_assoc, List.getLast?_concat]
    decide

theorem IsEntry.trim (hentry : IsEntry line name) : IsEntry (trim line) name := by
  obtain ⟨blanks, word, rest, hblank, hword, hname, rfl⟩ := hentry
  have hline : blanks ++ word ++ '(' :: name.toList ++ ')' :: rest =
      blanks ++ (applied word name.toList ++ rest) := by simp [applied]
  rw [hline, trim_append_left hblank, (isSolid_applied hword _).trim_append]
  exact isEntry_applied .nil hword hname _

/-- The blanks around a line do not matter for its being an entry. -/
theorem isEntry_trim_iff : IsEntry (trim line) name ↔ IsEntry line name := by
  constructor
  · intro hentry
    obtain ⟨blanks, word, rest, hblank, hword, hname, htrim⟩ := hentry
    obtain ⟨front, back, hfront, _, hline⟩ := exists_blanks_around_trim line
    refine ⟨front ++ blanks, word, rest ++ back, hfront.append hblank, hword, hname, ?_⟩
    rw [hline, htrim]
    simp
  · exact IsEntry.trim

theorem entryName?_eq_none_iff : entryName? line = none ↔ ∀ name, ¬ IsEntry line name := by
  simp only [Option.eq_none_iff_forall_ne_some, ne_eq, entryName?_eq_some_iff]

/-! ### Stretches of lines -/

namespace RegionScan

theorem step_opening (hopening : trim line = markers.opening.toList) :
    step markers ⟨false, found⟩ line = ⟨true, found⟩ := by
  simp [step, hopening]

theorem step_outside (hopening : trim line ≠ markers.opening.toList) :
    step markers ⟨false, found⟩ line = ⟨false, found⟩ := by
  simp [step, hopening]

theorem step_closing (hclosing : trim line = markers.closing.toList) :
    step markers ⟨true, found⟩ line = ⟨false, found⟩ := by
  simp [step, hclosing]

theorem step_inside (hclosing : trim line ≠ markers.closing.toList) :
    step markers ⟨true, found⟩ line = ⟨true, (entryName? line).toList ++ found⟩ := by
  cases hentry : entryName? line <;> simp [step, hclosing, hentry]

theorem foldl_step_outside (houtside : ∀ line ∈ textLines, trim line ≠ markers.opening.toList) :
    textLines.foldl (step markers) ⟨false, found⟩ = ⟨false, found⟩ := by
  induction textLines with
  | nil => rfl
  | cons line later ih =>
      obtain ⟨hline, hlater⟩ := List.forall_mem_cons.mp houtside
      rw [List.foldl_cons, step_outside hline, ih hlater]

theorem foldl_step_inside (hinside : ∀ line ∈ textLines, trim line ≠ markers.closing.toList) :
    textLines.foldl (step markers) ⟨true, found⟩ =
      ⟨true, (textLines.filterMap entryName?).reverse ++ found⟩ := by
  induction textLines generalizing found with
  | nil => rfl
  | cons line later ih =>
      obtain ⟨hline, hlater⟩ := List.forall_mem_cons.mp hinside
      rw [List.foldl_cons, step_inside hline, ih hlater]
      cases hentry : entryName? line <;> simp [hentry]

theorem found_foldl_of_no_entry (hnone : ∀ line ∈ textLines, entryName? line = none)
    (scan : RegionScan) : (textLines.foldl (step markers) scan).found = scan.found := by
  induction textLines generalizing scan with
  | nil => rfl
  | cons line later ih =>
      obtain ⟨hline, hlater⟩ := List.forall_mem_cons.mp hnone
      rw [List.foldl_cons, ih hlater]
      by_cases hread : scan.active = true ∧ trim line ≠ markers.closing.toList
      · rw [found_step_of_read hread.1 hread.2, hline]
        rfl
      · exact found_step_of_not_read hread

end RegionScan

/-! ### One region -/

namespace Markers

/-- Whether lines give no names outside a region, either because they never enter one or because
they have none. -/
def Quiet (markers : Markers) (textLines : List (List Char)) : Prop :=
  (∀ line ∈ textLines, trim line ≠ markers.opening.toList) ∨
    ∀ line ∈ textLines, entryName? line = none

theorem Quiet.found_foldl (hquiet : markers.Quiet textLines) :
    (textLines.foldl (RegionScan.step markers) ⟨false, found⟩).found = found := by
  rcases hquiet with houtside | hnone
  · rw [RegionScan.foldl_step_outside houtside]
  · exact RegionScan.found_foldl_of_no_entry hnone _

/-- Whatever the lines above an opening marker did, the region is open below it and nothing has
been found. If they opened the region already, the marker itself must not be an entry. -/
theorem foldl_step_opening (hdistinct : markers.opening ≠ markers.closing)
    (hopening : trim openingLine = markers.opening.toList)
    (hbefore : (∀ line ∈ before, trim line ≠ markers.opening.toList) ∨
      ∀ line ∈ before ++ [openingLine], entryName? line = none) :
    (before ++ [openingLine]).foldl (RegionScan.step markers) ⟨false, []⟩ = ⟨true, []⟩ := by
  rw [List.foldl_append, List.foldl_cons, List.foldl_nil]
  rcases hbefore with houtside | hnone
  · rw [RegionScan.foldl_step_outside houtside, RegionScan.step_opening hopening]
  · obtain ⟨hbefore, hentry⟩ := List.forall_mem_append.mp hnone
    have hfound : (before.foldl (RegionScan.step markers) ⟨false, []⟩).found = [] :=
      RegionScan.found_foldl_of_no_entry hbefore _
    generalize before.foldl (RegionScan.step markers) ⟨false, []⟩ = scan at hfound
    obtain ⟨active, found⟩ := scan
    obtain rfl : found = [] := hfound
    cases active with
    | false => exact RegionScan.step_opening hopening
    | true =>
        have hclosing : trim openingLine ≠ markers.closing.toList := by
          rw [hopening]
          exact fun heq => hdistinct (String.ext heq)
        rw [RegionScan.step_inside hclosing, hentry openingLine (List.mem_singleton.mpr rfl)]
        rfl

theorem dispatched_region {source : String} (hdistinct : markers.opening ≠ markers.closing)
    (hlines : lines source.toList =
      before ++ [openingLine] ++ entries ++ [closingLine] ++ after)
    (hopening : trim openingLine = markers.opening.toList)
    (hclosing : trim closingLine = markers.closing.toList)
    (hbefore : (∀ line ∈ before, trim line ≠ markers.opening.toList) ∨
      ∀ line ∈ before ++ [openingLine], entryName? line = none)
    (hentries : ∀ line ∈ entries, trim line ≠ markers.closing.toList)
    (hafter : markers.Quiet after) :
    (markers.dispatched source).names = entries.filterMap entryName? := by
  have hregion : (before ++ [openingLine] ++ entries ++ [closingLine]).foldl
      (RegionScan.step markers) ⟨false, []⟩ =
        ⟨false, (entries.filterMap entryName?).reverse⟩ := by
    rw [List.foldl_append, List.foldl_append, foldl_step_opening hdistinct hopening hbefore,
      RegionScan.foldl_step_inside hentries, List.foldl_cons, List.foldl_nil,
      RegionScan.step_closing hclosing, List.append_nil]
  rw [dispatched, hlines, List.foldl_append, hregion, hafter.found_foldl]
  exact List.reverse_reverse _

end Markers

end DispatchAudit.Source
