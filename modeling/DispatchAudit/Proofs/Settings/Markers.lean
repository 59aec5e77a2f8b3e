import DispatchAudit.Proofs.Settings.Fitness
import DispatchAudit.Proofs.Source.Delimited

/-!
# Fit markers

What the checks on markers guarantee, and what they leave open. A closing marker never gives a
name. An opening marker gives one exactly where it is met inside a region and has the shape of an
entry. And fit markers delimit a region exactly if neither holds a line feed: a text with a line
feed is no line, so an opening marker that has one opens nothing, and a closing marker that has
one closes nothing.
-/

namespace DispatchAudit.Settings

open Source Text

variable {settings : Settings} {textLines : List (List Char)} {line : List Char} {position : Nat}
  {name : String}

/-! ### Names on marker lines -/

theorem Fit.dispatches_marker_line_iff (hfit : settings.Fit)
    (hline : textLines[position]? = some line)
    (hmarker : settings.markers.isMarkerLine line = true) :
    settings.markers.Dispatches textLines position name ↔
      settings.markers.LeavesOpen (textLines.take position) ∧
        trim line = settings.startMarker.toList ∧
          IsEntry settings.startMarker.toList name := by
  constructor
  · intro hgives
    obtain ⟨found, hfound, hopen, hclosing, hentry⟩ := hgives
    obtain rfl : line = found := Option.some.inj (hline.symm.trans hfound)
    have hopening : trim line = settings.startMarker.toList :=
      (of_decide_eq_true hmarker).resolve_right hclosing
    rw [← isEntry_trim_iff, hopening] at hentry
    exact ⟨hopen, hopening, hentry⟩
  · intro hgives
    obtain ⟨hopen, hopening, hentry⟩ := hgives
    rw [← hopening, isEntry_trim_iff] at hentry
    refine ⟨line, hline, hopen, ?_, hentry⟩
    rw [hopening]
    exact hfit.toList_startMarker_ne

theorem Fit.lines_opening_twice (hfit : settings.Fit) (hfeed : '\n' ∉ settings.startMarker.toList) :
    lines (settings.startMarker ++ "\n" ++ settings.startMarker ++ "\n").toList =
      [settings.startMarker.toList, settings.startMarker.toList] := by
  have hline : IsLine settings.startMarker.toList :=
    isLine_marker hfit.startMarker List.not_mem_nil hfeed
  have htext : (settings.startMarker ++ "\n" ++ settings.startMarker ++ "\n").toList =
      ended [settings.startMarker.toList, settings.startMarker.toList] := by
    simp [ended]
  rw [htext, lines_ended]
  simp [hline]

/-- Every name of an interface source comes from a line of its own. Of the marker lines, closing
ones never give a name, and opening ones give one only inside a region and only if the marker is
an entry itself. So some source has a marker line that gives a name exactly if the opening marker
is a line of the shape of an entry. -/
theorem marker_line_gives_name_iff (hfit : settings.fault? = none) :
    (∀ source : String, InLineOrder (settings.markers.Dispatches (lines source.toList))
      (settings.markers.dispatched source).names) ∧
    (∀ (source : String) position line name, (lines source.toList)[position]? = some line →
      settings.markers.isMarkerLine line = true →
        (settings.markers.Dispatches (lines source.toList) position name ↔
          settings.markers.LeavesOpen ((lines source.toList).take position) ∧
            trim line = settings.startMarker.toList ∧
              IsEntry settings.startMarker.toList name)) ∧
    ((∃ (source : String) (position : Nat) (line : List Char) (name : String),
        (lines source.toList)[position]? = some line ∧ settings.markers.isMarkerLine line = true ∧
          settings.markers.Dispatches (lines source.toList) position name) ↔
      '\n' ∉ settings.startMarker.toList ∧ ∃ name, IsEntry settings.startMarker.toList name) := by
  have hfit := fault?_eq_none_iff.mp hfit
  refine ⟨@Markers.inLineOrder_dispatched settings.markers hfit.distinct,
    fun _ _ _ _ => hfit.dispatches_marker_line_iff, ?_⟩
  constructor
  · intro hsome
    obtain ⟨source, position, line, name, hline, hmarker, hgives⟩ := hsome
    obtain ⟨_, hopening, hentry⟩ := (hfit.dispatches_marker_line_iff hline hmarker).mp hgives
    refine ⟨?_, name, hentry⟩
    rw [← hopening]
    intro hfeed
    exact feed_not_mem_of_mem_lines (List.mem_of_getElem? hline) (mem_of_mem_trim hfeed)
  · intro hshape
    obtain ⟨hfeed, name, hentry⟩ := hshape
    have hlines := hfit.lines_opening_twice hfeed
    have htrim := trim_marker hfit.startMarker
    have hmarker : settings.markers.isMarkerLine settings.startMarker.toList = true :=
      decide_eq_true (.inl htrim)
    have hclosing : trim settings.startMarker.toList ≠ settings.endMarker.toList := by
      rw [htrim]
      exact hfit.toList_startMarker_ne
    refine ⟨_, 1, _, name, by rw [hlines]; rfl, hmarker, ?_⟩
    rw [hlines, hfit.dispatches_marker_line_iff rfl hmarker]
    refine ⟨?_, htrim, hentry⟩
    apply Markers.leavesOpen_of_no_closing (List.mem_singleton.mpr rfl) htrim
    intro other hother
    rw [List.mem_singleton.mp hother]
    exact hclosing

/-- Settings whose opening marker has the shape of an entry. -/
def entryMarked : Settings := { standard with startMarker := "BEGIN(methods)" }

theorem entryMarked_line_gives_name :
    entryMarked.fault? = none ∧
      ∃ (source : String) (position : Nat) (line : List Char) (name : String),
        (lines source.toList)[position]? = some line ∧
          entryMarked.markers.isMarkerLine line = true ∧
            entryMarked.markers.Dispatches (lines source.toList) position name := by
  have hfit : entryMarked.fault? = none := by decide
  have hentry : IsEntry entryMarked.startMarker.toList "methods" :=
    entryName?_eq_some_iff.mp (by decide)
  exact ⟨hfit, (marker_line_gives_name_iff hfit).2.2.mpr ⟨by decide, "methods", hentry⟩⟩

/-- All lines are markers here, and still there is a name. -/
theorem dispatched_marker_lines :
    entryMarked.fault? = none ∧
      (entryMarked.markers.dispatched "BEGIN(methods)\nBEGIN(methods)\n").names = ["methods"] ∧
      ∀ line ∈ lines "BEGIN(methods)\nBEGIN(methods)\n".toList,
        trim line = entryMarked.startMarker.toList := by
  decide

/-! ### Markers as delimiters -/

def tableEntry (name : String) : String := "tbl(" ++ name ++ ")"

/-- A source with one entry between the markers and one behind them. -/
def sampleRegion (settings : Settings) (inner outer : String) : String :=
  settings.startMarker ++ "\n" ++ tableEntry inner ++ "\n" ++ settings.endMarker ++ "\n" ++
    tableEntry outer ++ "\n"

theorem isName_tbl : IsName "tbl".toList := by decide

theorem toList_tableEntry (name : String) :
    (tableEntry name).toList = applied "tbl".toList name.toList := by
  simp [tableEntry, applied]

theorem isEntry_tableEntry (hname : IsName name.toList) :
    IsEntry (tableEntry name).toList name := by
  simpa [toList_tableEntry] using isEntry_applied .nil isName_tbl hname []

theorem trim_tableEntry (name : String) :
    trim (tableEntry name).toList = (tableEntry name).toList := by
  rw [toList_tableEntry]
  exact (isSolid_applied isName_tbl _).trim_eq_self

theorem trim_tableEntry_ne {marker : String} (hne : tableEntry name ≠ marker) :
    trim (tableEntry name).toList ≠ marker.toList := by
  rw [trim_tableEntry]
  exact fun heq => hne (String.ext heq)

theorem isLine_tableEntry (hname : IsName name.toList) : IsLine (tableEntry name).toList := by
  simpa [toList_tableEntry] using isLine_applied List.not_mem_nil isName_tbl hname

theorem Fit.dispatched_sampleRegion (hfit : settings.Fit)
    (hopening : '\n' ∉ settings.startMarker.toList) (hclosing : '\n' ∉ settings.endMarker.toList)
    {inner outer : String} (hinner : IsName inner.toList) (houter : IsName outer.toList)
    (hinside : tableEntry inner ≠ settings.endMarker)
    (houtside : tableEntry outer ≠ settings.startMarker) :
    (settings.markers.dispatched (sampleRegion settings inner outer)).names = [inner] := by
  have htext : (sampleRegion settings inner outer).toList =
      ended [settings.startMarker.toList, (tableEntry inner).toList, settings.endMarker.toList,
        (tableEntry outer).toList] := by
    simp [sampleRegion, ended]
  have hlines : lines (sampleRegion settings inner outer).toList =
      [] ++ [settings.startMarker.toList] ++ [(tableEntry inner).toList] ++
        [settings.endMarker.toList] ++ [(tableEntry outer).toList] := by
    have hstart : IsLine settings.startMarker.toList :=
      isLine_marker hfit.startMarker List.not_mem_nil hopening
    have hend : IsLine settings.endMarker.toList :=
      isLine_marker hfit.endMarker List.not_mem_nil hclosing
    rw [htext]
    apply lines_ended
    simp [hstart, hend, isLine_tableEntry hinner, isLine_tableEntry houter]
  rw [Markers.dispatched_region hfit.distinct hlines (trim_marker hfit.startMarker)
    (trim_marker hfit.endMarker)]
  · simp [entryName?_eq_some_iff.mpr (isEntry_tableEntry hinner)]
  · exact .inl fun _ hmem => absurd hmem List.not_mem_nil
  · intro line hline
    rw [List.mem_singleton.mp hline]
    exact trim_tableEntry_ne hinside
  · refine .inl fun line hline => ?_
    rw [List.mem_singleton.mp hline]
    exact trim_tableEntry_ne houtside

theorem trim_ne_of_feed_mem {source marker : List Char} (hfeed : '\n' ∈ marker) :
    ∀ line ∈ lines source, trim line ≠ marker := by
  intro line hline heq
  apply feed_not_mem_of_mem_lines hline
  apply mem_of_mem_trim
  rw [heq]
  exact hfeed

/-- An opening marker with a line feed opens nothing. -/
theorem dispatched_of_feed_in_opening (hopening : '\n' ∈ settings.startMarker.toList)
    (source : String) : (settings.markers.dispatched source).names = [] := by
  rw [Markers.dispatched, RegionScan.foldl_step_outside (trim_ne_of_feed_mem hopening)]
  rfl

/-- A closing marker with a line feed closes nothing, so the entry behind it is found as well. -/
theorem Fit.mem_dispatched_of_feed_in_closing (hfit : settings.Fit)
    (hopening : '\n' ∉ settings.startMarker.toList) (hclosing : '\n' ∈ settings.endMarker.toList)
    (inner : String) {outer : String} (houter : IsName outer.toList) :
    outer ∈ (settings.markers.dispatched (sampleRegion settings inner outer)).names := by
  have hstart : IsLine settings.startMarker.toList :=
    isLine_marker hfit.startMarker List.not_mem_nil hopening
  obtain ⟨middle, htext⟩ : ∃ middle, (sampleRegion settings inner outer).toList =
      settings.startMarker.toList ++ '\n' :: (middle ++ ['\n']) ++
        ended [(tableEntry outer).toList] := by
    refine ⟨(tableEntry inner).toList ++ '\n' :: settings.endMarker.toList, ?_⟩
    simp [sampleRegion, ended]
  have habove : lines (settings.startMarker.toList ++ '\n' :: (middle ++ ['\n'])) =
      settings.startMarker.toList :: lines (middle ++ ['\n']) := by
    rw [lines_append_feed hstart.feed_not_mem, withoutReturn_of_getLast?_ne hstart.last_ne_return]
  have hends : EndsLine (settings.startMarker.toList ++ '\n' :: (middle ++ ['\n'])) := by
    simpa using endsLine_append_feed (settings.startMarker.toList ++ '\n' :: middle)
  have hlines : lines (sampleRegion settings inner outer).toList =
      (settings.startMarker.toList :: lines (middle ++ ['\n'])) ++ [(tableEntry outer).toList] := by
    rw [htext, lines_append hends, habove, lines_ended]
    simp [isLine_tableEntry houter]
  have hunclosed : ∀ line ∈ lines (sampleRegion settings inner outer).toList,
      trim line ≠ settings.markers.closing.toList := trim_ne_of_feed_mem hclosing
  rw [hlines] at hunclosed
  rw [(Markers.inLineOrder_dispatched hfit.distinct _).mem_iff, hlines]
  generalize lines (middle ++ ['\n']) = later at hunclosed
  have hmem : settings.startMarker.toList ∈ settings.startMarker.toList :: later :=
    List.mem_cons_self
  have htrim : trim settings.startMarker.toList = settings.markers.opening.toList :=
    trim_marker hfit.startMarker
  refine ⟨_, Markers.dispatches_append_singleton_iff.mpr (.inr ⟨rfl, ?_, ?_, ?_⟩)⟩
  · exact Markers.leavesOpen_of_no_closing hmem htrim fun line hline =>
      hunclosed line (List.mem_append_left _ hline)
  · exact hunclosed _ (List.mem_append_right _ List.mem_cons_self)
  · exact isEntry_tableEntry houter

/-- There are always two names such that the entry for the second one is not a given text. -/
theorem exists_two_names (text : String) :
    ∃ inner outer : String, inner ≠ outer ∧ IsName inner.toList ∧ IsName outer.toList ∧
      tableEntry outer ≠ text := by
  have hfirst : IsName "a".toList := by decide
  have hsecond : IsName "b".toList := by decide
  by_cases htext : tableEntry "a" = text
  · refine ⟨"a", "b", by decide, hfirst, hsecond, ?_⟩
    rw [← htext]
    decide
  · exact ⟨"b", "a", by decide, hsecond, hfirst, htext⟩

theorem tableEntry_ne_of_feed_mem {marker : String} (hfeed : '\n' ∈ marker.toList)
    (hname : IsName name.toList) : tableEntry name ≠ marker := by
  intro heq
  rw [← heq] at hfeed
  exact (isLine_tableEntry hname).feed_not_mem hfeed

/-- Fit markers delimit a region, in the sense that an entry between them is found and one behind
them is not, exactly if neither of them holds a line feed. -/
theorem delimit_region_iff_no_feed (hfit : settings.fault? = none) :
    (∀ inner outer : String, IsName inner.toList → IsName outer.toList →
      tableEntry inner ≠ settings.endMarker → tableEntry outer ≠ settings.startMarker →
        (settings.markers.dispatched (sampleRegion settings inner outer)).names = [inner]) ↔
    '\n' ∉ settings.startMarker.toList ∧ '\n' ∉ settings.endMarker.toList := by
  have hfit := fault?_eq_none_iff.mp hfit
  constructor
  · intro hdelimits
    have hopening : '\n' ∉ settings.startMarker.toList := by
      intro hfeed
      obtain ⟨outer, inner, _, houter, hinner, hinside⟩ := exists_two_names settings.endMarker
      have hfound := hdelimits inner outer hinner houter hinside
        (tableEntry_ne_of_feed_mem hfeed houter)
      rw [dispatched_of_feed_in_opening hfeed] at hfound
      cases hfound
    refine ⟨hopening, ?_⟩
    intro hfeed
    obtain ⟨inner, outer, hne, hinner, houter, houtside⟩ := exists_two_names settings.startMarker
    have hfound := hdelimits inner outer hinner houter (tableEntry_ne_of_feed_mem hfeed hinner)
      houtside
    have hmem := hfit.mem_dispatched_of_feed_in_closing hopening hfeed inner houter
    rw [hfound, List.mem_singleton] at hmem
    exact hne hmem.symm
  · intro hfeeds inner outer hinner houter hinside houtside
    exact hfit.dispatched_sampleRegion hfeeds.1 hfeeds.2 hinner houter hinside houtside

theorem delimit_region_of_entry_markers :
    ({ standard with startMarker := "tbl(n)", endMarker := "a\rb" } : Settings).fault? = none ∧
      IsName "n".toList ∧ IsName "m".toList ∧ tableEntry "n" ≠ "a\rb" ∧
      tableEntry "m" ≠ "tbl(n)" ∧
      (({ standard with startMarker := "tbl(n)", endMarker := "a\rb" } : Settings).markers.dispatched
        "tbl(n)\ntbl(n)\na\rb\ntbl(m)\n").names = ["n"] := by
  have hinner : IsName "n".toList := by decide
  have houter : IsName "m".toList := by decide
  refine ⟨by decide, hinner, houter, by decide, by decide, ?_⟩
  exact (delimit_region_iff_no_feed (by decide)).mpr ⟨by decide, by decide⟩ "n" "m" hinner houter
    (by decide) (by decide)

/-- Settings whose opening marker spans two lines. -/
def feedMarked : Settings := { standard with startMarker := "/* Start\nmethods */" }

theorem dispatched_none_behind_feed :
    feedMarked.fault? = none ∧ IsName "Foo".toList ∧ IsName "Bar".toList ∧
      tableEntry "Foo" ≠ feedMarked.endMarker ∧ tableEntry "Bar" ≠ feedMarked.startMarker ∧
      (feedMarked.markers.dispatched (sampleRegion feedMarked "Foo" "Bar")).names ≠ ["Foo"] := by
  refine ⟨by decide, by decide, by decide, by decide, by decide, ?_⟩
  decide

end DispatchAudit.Settings
