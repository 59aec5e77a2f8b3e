import DispatchAudit.Source.Dispatch
import DispatchAudit.Proofs.Source.Names
import DispatchAudit.Proofs.Text.Lines

/-!
# Which lines dispatch a name

The scan of an interface source goes through the lines with one bit of memory. Which lines count
is described here without a scan, for each line on its own: the last marker line above it is an
opening one, the line is not a closing marker itself, and it has the shape of an entry. The bit
is exactly the first of these three, and it says the same after one more line.
-/

namespace DispatchAudit.Source

open Text

/-! ### Entries -/

/-- Whether the line is an entry for the name: blanks, a word, and the name in parentheses. -/
def IsEntry (line : List Char) (name : String) : Prop :=
  ∃ blanks word rest, AllBlank blanks ∧ IsName word ∧ IsName name.toList ∧
    line = blanks ++ word ++ '(' :: name.toList ++ ')' :: rest

theorem entryName?_eq_some_iff {line : List Char} {name : String} :
    entryName? line = some name ↔ IsEntry line name := by
  simp only [entryName?, Option.bind_eq_bind, Option.bind_eq_some_iff, Option.pure_def,
    Option.some.injEq, isPrefixOf?_eq_some_iff]
  constructor
  · intro hread
    obtain ⟨word, hword, inner, hinner, found, hfound, rest, hrest, rfl⟩ := hread
    obtain ⟨hisWord, hsplit⟩ := isName_of_name?_eq_some hword
    obtain ⟨hisName, hsplit'⟩ := isName_of_name?_eq_some hfound
    obtain ⟨blanks, hblank, hline⟩ := exists_blanks_append_dropBlanks line
    refine ⟨blanks, word.toList, rest, hblank, hisWord, hisName, ?_⟩
    rw [hline, hsplit, hinner, hsplit', hrest]
    simp
  · intro hentry
    obtain ⟨blanks, word, rest, hblank, hword, hname, rfl⟩ := hentry
    have hopen : EndsName ('(' :: name.toList ++ ')' :: rest) := .cons (by decide) _
    have hclose : EndsName (')' :: rest) := .cons (by decide) _
    have hdrop : dropBlanks (blanks ++ word ++ '(' :: name.toList ++ ')' :: rest) =
        word ++ ('(' :: name.toList ++ ')' :: rest) := by
      rw [List.append_assoc, List.append_assoc, dropBlanks_append hblank,
        dropBlanks_name_append hword]
    have hread : name? (word ++ ('(' :: name.toList ++ ')' :: rest)) =
        some (String.ofList word) := by
      have hword' : IsName (String.ofList word).toList := by rwa [String.toList_ofList]
      simpa using name?_append hword' hopen
    rw [hdrop]
    refine ⟨_, hread, name.toList ++ ')' :: rest, ?_, name, name?_append hname hclose, rest, ?_,
      rfl⟩
    · rw [afterWord_append hword hopen]
      rfl
    · rw [afterWord_append hname hclose]
      rfl

/-! ### Marker lines -/

namespace Markers

variable {markers : Markers} {before textLines : List (List Char)} {line : List Char}
  {position : Nat} {name : String}

/-- Whether the line is one of the two markers, apart from blanks around it. -/
def isMarkerLine (markers : Markers) (line : List Char) : Bool :=
  decide (trim line = markers.opening.toList ∨ trim line = markers.closing.toList)

/-- Whether there are marker lines and the last of them is an opening one. -/
def LeavesOpen (markers : Markers) (before : List (List Char)) : Prop :=
  ∃ last, (before.filter markers.isMarkerLine).getLast? = some last ∧
    trim last = markers.opening.toList

/-- Whether the line at the position dispatches the name. -/
def Dispatches (markers : Markers) (textLines : List (List Char)) (position : Nat)
    (name : String) : Prop :=
  ∃ line, textLines[position]? = some line ∧ markers.LeavesOpen (textLines.take position) ∧
    trim line ≠ markers.closing.toList ∧ IsEntry line name

theorem not_leavesOpen_nil : ¬ markers.LeavesOpen [] := by
  intro hopen
  obtain ⟨last, hlast, _⟩ := hopen
  cases hlast

/-- Only a marker line changes what is open. -/
theorem leavesOpen_append_singleton_iff :
    markers.LeavesOpen (before ++ [line]) ↔
      trim line = markers.opening.toList ∨
        trim line ≠ markers.closing.toList ∧ markers.LeavesOpen before := by
  by_cases hmarker : markers.isMarkerLine line = true
  · have hlast : ((before ++ [line]).filter markers.isMarkerLine).getLast? = some line := by
      rw [List.filter_append, List.filter_cons_of_pos hmarker]
      exact List.getLast?_concat
    rw [LeavesOpen, hlast]
    constructor
    · intro hopen
      obtain ⟨_, hsame, hopening⟩ := hopen
      cases hsame
      exact .inl hopening
    · intro hafter
      rcases hafter with hopening | ⟨hclosing, _⟩
      · exact ⟨line, rfl, hopening⟩
      · exact ⟨line, rfl, (of_decide_eq_true hmarker).resolve_right hclosing⟩
  · have hsame : (before ++ [line]).filter markers.isMarkerLine =
        before.filter markers.isMarkerLine := by
      rw [List.filter_append, List.filter_cons_of_neg hmarker]
      exact List.append_nil _
    have hneither : ¬ (trim line = markers.opening.toList ∨
        trim line = markers.closing.toList) := fun h => hmarker (decide_eq_true h)
    rw [LeavesOpen, hsame, ← LeavesOpen]
    constructor
    · intro hopen
      exact .inr ⟨fun hclosing => hneither (.inr hclosing), hopen⟩
    · intro hafter
      rcases hafter with hopening | ⟨_, hopen⟩
      · exact absurd (.inl hopening) hneither
      · exact hopen

theorem exists_opening_of_leavesOpen (hopen : markers.LeavesOpen before) :
    ∃ line ∈ before, trim line = markers.opening.toList := by
  obtain ⟨last, hlast, hopening⟩ := hopen
  exact ⟨last, (List.mem_filter.mp (List.mem_of_getLast? hlast)).1, hopening⟩

theorem leavesOpen_of_no_closing (hopening : line ∈ before)
    (hline : trim line = markers.opening.toList)
    (hclosing : ∀ other ∈ before, trim other ≠ markers.closing.toList) :
    markers.LeavesOpen before := by
  have hmarker : line ∈ before.filter markers.isMarkerLine :=
    List.mem_filter.mpr ⟨hopening, decide_eq_true (.inl hline)⟩
  have hlast := List.getLast?_eq_some_getLast (List.ne_nil_of_mem hmarker)
  have hkept := List.mem_filter.mp (List.mem_of_getLast? hlast)
  exact ⟨_, hlast, (of_decide_eq_true hkept.2).resolve_right (hclosing _ hkept.1)⟩

/-- What was open before a closing marker does not matter behind it. -/
theorem exists_opening_after_closing (hdistinct : markers.opening ≠ markers.closing)
    {later : List (List Char)} (hclosing : trim line = markers.closing.toList)
    (hopen : markers.LeavesOpen (before ++ line :: later)) :
    ∃ other ∈ later, trim other = markers.opening.toList := by
  -- lines are taken off the end, since it is the last marker line that decides
  induction later using List.reverseRecOn with
  | nil =>
      rcases leavesOpen_append_singleton_iff.mp hopen with hopening | ⟨hnot, _⟩
      · exact absurd (String.ext (hopening.symm.trans hclosing)) hdistinct
      · exact absurd hclosing hnot
  | append_singleton later other ih =>
      have hassoc : before ++ line :: (later ++ [other]) = before ++ line :: later ++ [other] := by
        simp
      rw [hassoc, leavesOpen_append_singleton_iff] at hopen
      rcases hopen with hopening | ⟨_, hopen⟩
      · exact ⟨other, List.mem_append_right _ (List.mem_singleton.mpr rfl), hopening⟩
      · obtain ⟨found, hfound, hopening⟩ := ih hopen
        exact ⟨found, List.mem_append_left _ hfound, hopening⟩

/-! ### One more line -/

theorem Dispatches.lt_length (hgives : markers.Dispatches textLines position name) :
    position < textLines.length := by
  obtain ⟨line, hline, _⟩ := hgives
  exact (List.getElem?_eq_some_iff.mp hline).1

/-- Lines never dispatch by what comes after them. -/
theorem dispatches_append_singleton_iff :
    markers.Dispatches (before ++ [line]) position name ↔
      markers.Dispatches before position name ∨
        position = before.length ∧ markers.LeavesOpen before ∧
          trim line ≠ markers.closing.toList ∧ IsEntry line name := by
  simp only [Dispatches, getElem?_append_singleton_eq_some_iff]
  constructor
  · intro hgives
    obtain ⟨found, hfound | ⟨rfl, rfl⟩, hopen, hentry⟩ := hgives
    · have hlt : position < before.length := (List.getElem?_eq_some_iff.mp hfound).1
      rw [List.take_append_of_le_length (Nat.le_of_lt hlt)] at hopen
      exact .inl ⟨found, hfound, hopen, hentry⟩
    · rw [List.take_left] at hopen
      exact .inr ⟨rfl, hopen, hentry⟩
  · intro hgives
    rcases hgives with ⟨found, hfound, hopen, hentry⟩ | ⟨rfl, hopen, hentry⟩
    · have hlt : position < before.length := (List.getElem?_eq_some_iff.mp hfound).1
      refine ⟨found, .inl hfound, ?_, hentry⟩
      rwa [List.take_append_of_le_length (Nat.le_of_lt hlt)]
    · refine ⟨line, .inr ⟨rfl, rfl⟩, ?_, hentry⟩
      rwa [List.take_left]

end Markers

/-! ### The scan -/

namespace RegionScan

variable {markers : Markers} {before : List (List Char)} {scan : RegionScan} {line : List Char}

theorem active_step_of_active (hactive : scan.active = true) :
    (scan.step markers line).active = true ↔ trim line ≠ markers.closing.toList := by
  rw [step, if_pos hactive]
  by_cases hclosing : trim line = markers.closing.toList
  · simp [hclosing]
  · rw [if_neg hclosing]
    cases entryName? line <;> simp [hactive, hclosing]

theorem active_step_of_inactive (hinactive : ¬ scan.active = true) :
    (scan.step markers line).active = true ↔ trim line = markers.opening.toList := by
  rw [step, if_neg hinactive]
  by_cases hopening : trim line = markers.opening.toList
  · simp [hopening]
  · simp [hopening, hinactive]

theorem found_step_of_read (hactive : scan.active = true)
    (hclosing : trim line ≠ markers.closing.toList) :
    (scan.step markers line).found = (entryName? line).toList ++ scan.found := by
  rw [step, if_pos hactive, if_neg hclosing]
  cases entryName? line <;> rfl

theorem found_step_of_not_read
    (hskip : ¬ (scan.active = true ∧ trim line ≠ markers.closing.toList)) :
    (scan.step markers line).found = scan.found := by
  by_cases hactive : scan.active = true
  · have hclosing : trim line = markers.closing.toList := by
      by_contra hne
      exact hskip ⟨hactive, hne⟩
    rw [step, if_pos hactive, if_pos hclosing]
  · rw [step, if_neg hactive]
    split <;> rfl

/-- What a scan knows behind the given lines: whether they leave the region open, and the names
that they dispatch. -/
structure Reached (markers : Markers) (before : List (List Char)) (scan : RegionScan) : Prop where
  active_iff : scan.active = true ↔ markers.LeavesOpen before
  found : InLineOrder (markers.Dispatches before) scan.found.reverse

theorem reached_start : Reached markers [] ⟨false, []⟩ where
  active_iff := by
    constructor
    · intro hactive
      cases hactive
    · intro hopen
      exact absurd hopen Markers.not_leavesOpen_nil
  found := by
    apply InLineOrder.nil
    intro position name hgives
    exact Nat.not_lt_zero _ hgives.lt_length

theorem Reached.active_step (hdistinct : markers.opening ≠ markers.closing)
    (hreached : Reached markers before scan) (line : List Char) :
    (scan.step markers line).active = true ↔ markers.LeavesOpen (before ++ [line]) := by
  rw [Markers.leavesOpen_append_singleton_iff]
  by_cases hopen : markers.LeavesOpen before
  · rw [active_step_of_active (hreached.active_iff.mpr hopen)]
    constructor
    · intro hclosing
      exact .inr ⟨hclosing, hopen⟩
    · intro hafter hclosing
      rcases hafter with hopening | ⟨hnot, _⟩
      · exact hdistinct (String.ext (hopening.symm.trans hclosing))
      · exact hnot hclosing
  · rw [active_step_of_inactive fun hactive => hopen (hreached.active_iff.mp hactive)]
    simp [hopen]

theorem Reached.found_step (hreached : Reached markers before scan) (line : List Char) :
    InLineOrder (markers.Dispatches (before ++ [line])) (scan.step markers line).found.reverse := by
  by_cases hread : scan.active = true ∧ trim line ≠ markers.closing.toList
  · have hopen : markers.LeavesOpen before := hreached.active_iff.mp hread.1
    rw [found_step_of_read hread.1 hread.2]
    cases hentry : entryName? line with
    | none =>
        apply hreached.found.congr
        intro position name
        rw [Markers.dispatches_append_singleton_iff, ← entryName?_eq_some_iff, hentry]
        simp
    | some last =>
        rw [Option.toList_some, List.singleton_append, List.reverse_cons]
        apply hreached.found.append_one fun _ _ hgives => hgives.lt_length
        intro position name
        rw [Markers.dispatches_append_singleton_iff, ← entryName?_eq_some_iff, hentry,
          Option.some.injEq]
        simp [hopen, hread.2, eq_comm]
  · rw [found_step_of_not_read hread]
    apply hreached.found.congr
    intro position name
    have hnothing : ¬ (markers.LeavesOpen before ∧ trim line ≠ markers.closing.toList) := by
      rw [← hreached.active_iff]
      exact hread
    rw [Markers.dispatches_append_singleton_iff]
    constructor
    · intro hgives
      rcases hgives with hgives | ⟨_, hopen, hclosing, _⟩
      · exact hgives
      · exact absurd ⟨hopen, hclosing⟩ hnothing
    · exact .inl

theorem Reached.step (hdistinct : markers.opening ≠ markers.closing)
    (hreached : Reached markers before scan) (line : List Char) :
    Reached markers (before ++ [line]) (scan.step markers line) :=
  ⟨hreached.active_step hdistinct line, hreached.found_step line⟩

theorem reached_run (hdistinct : markers.opening ≠ markers.closing)
    (textLines : List (List Char)) :
    Reached markers textLines (textLines.foldl (RegionScan.step markers) ⟨false, []⟩) := by
  induction textLines using List.reverseRecOn with
  | nil => exact reached_start
  | append_singleton before line ih =>
      rw [List.foldl_append]
      exact ih.step hdistinct line

end RegionScan

namespace Markers

variable {markers : Markers}

theorem inLineOrder_dispatched (hdistinct : markers.opening ≠ markers.closing)
    (source : String) :
    InLineOrder (markers.Dispatches (lines source.toList)) (markers.dispatched source).names :=
  (RegionScan.reached_run hdistinct (lines source.toList)).found

/-- Two different markers dispatch the names of exactly the lines that are entries, are not the
closing marker, and have an opening marker as the last marker line above them. So a line above
the first opening marker dispatches nothing, and neither does a line between a closing marker
and the next opening one. -/
theorem dispatched_iff_last_marker_opens (hdistinct : markers.opening ≠ markers.closing)
    (source : String) :
    (∀ textLines, Lined source.toList textLines ↔ textLines = lines source.toList) ∧
    (∀ names, InLineOrder (markers.Dispatches (lines source.toList)) names ↔
      names = (markers.dispatched source).names) ∧
    (∀ above rest name, lines source.toList = above ++ rest →
      (∀ line ∈ above, trim line ≠ markers.opening.toList) →
        ¬ markers.Dispatches (lines source.toList) above.length name) ∧
    (∀ above line between rest name, lines source.toList = above ++ line :: between ++ rest →
      trim line = markers.closing.toList →
      (∀ other ∈ between, trim other ≠ markers.opening.toList) →
        ¬ markers.Dispatches (lines source.toList) (above ++ line :: between).length name) := by
  refine ⟨fun _ => lined_iff, fun names => (inLineOrder_dispatched hdistinct source).iff_eq,
    ?_, ?_⟩
  · intro above rest name hlines hnone hgives
    obtain ⟨_, _, hopen, _⟩ := hgives
    rw [hlines, List.take_left] at hopen
    obtain ⟨line, hmem, hopening⟩ := exists_opening_of_leavesOpen hopen
    exact hnone line hmem hopening
  · intro above line between rest name hlines hclosing hnone hgives
    obtain ⟨_, _, hopen, _⟩ := hgives
    rw [hlines, List.take_left] at hopen
    obtain ⟨other, hmem, hopening⟩ := exists_opening_after_closing hdistinct hclosing hopen
    exact hnone other hmem hopening

theorem dispatched_reentered :
    "BEGIN(x)" ≠ "// END" ∧
      ∀ names, InLineOrder (Dispatches ⟨"BEGIN(x)", "// END"⟩
          (lines "f(A)\nBEGIN(x)\r\n\tf(B)\r\nBEGIN(x)\n // END \nf(C)\nBEGIN(x)\nf(B)".toList)) names ↔
        names = ["B", "x", "B"] := by
  refine ⟨by decide, ?_⟩
  intro names
  exact (@dispatched_iff_last_marker_opens ⟨"BEGIN(x)", "// END"⟩ (by decide)
    "f(A)\nBEGIN(x)\r\n\tf(B)\r\nBEGIN(x)\n // END \nf(C)\nBEGIN(x)\nf(B)").2.1 names

end Markers

end DispatchAudit.Source
