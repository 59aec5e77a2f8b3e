import DispatchAudit.Source.TableRow
import DispatchAudit.Proofs.Settings.Fitness
import DispatchAudit.Proofs.Source.Declarations
import DispatchAudit.Proofs.Source.Delimited
import DispatchAudit.Proofs.Text.Padded

/-!
# Spacing does not matter

Each of the three readings of a source begins by dropping blanks, and two of them do not look at
what follows the name. So what they find stays the same if lines get blanks in front, and for these
two if lines get blanks behind. The scan for dispatch entries sees of a line what is left of it
when it is trimmed, and nothing else. A declaration needs tokens of settings that are fit: a token
that begins with a blank would take blanks in front of a line for itself.
-/

namespace DispatchAudit.Source

open Text

variable {token line line' blanks : List Char} {rule : DeclarationRule}
  {markers : Markers}

/-! ### Declarations -/

theorem afterToken?_blanks_append (htoken : ∀ c ∈ token.head?, isBlank c = false)
    (hne : token ≠ []) (hblank : AllBlank blanks) (line : List Char) :
    afterToken? token (blanks ++ line) = afterToken? token line := by
  obtain ⟨first, more, rfl⟩ := List.exists_cons_of_ne_nil hne
  have hfirst : isBlank first = false := htoken first rfl
  induction blanks with
  | nil => rfl
  | cons c blanks ih =>
      obtain ⟨hc, hblank'⟩ := allBlank_cons.mp hblank
      have hnone : (first :: more).isPrefixOf? (c :: (blanks ++ line)) = none := by
        rw [Option.eq_none_iff_forall_ne_some]
        intro rest hrest
        have hsame := (List.cons.inj (isPrefixOf?_eq_some_iff.mp hrest)).1
        rw [hsame, hfirst] at hc
        cases hc
      rw [List.cons_append, afterToken?, hnone]
      simpa only [hc, if_true] using ih hblank'

namespace DeclarationRule

theorem nameIn?_blanks_append (htoken : Settings.isToken rule.returnType = true)
    (hblank : AllBlank blanks) (line : List Char) :
    rule.nameIn? (blanks ++ line) = rule.nameIn? line := by
  have hfirst : ∀ c ∈ rule.returnType.toList.head?, isBlank c = false := fun c hc =>
    Settings.isBlank_of_mem_token htoken c (List.mem_of_head? hc)
  have hne := Settings.toList_ne_nil_of_isToken htoken
  rw [nameIn?, nameIn?, afterToken?_blanks_append hfirst hne hblank]

theorem nameIn?_append_blanks (rule : DeclarationRule) (hblank : AllBlank blanks)
    (line : List Char) : rule.nameIn? (line ++ blanks) = rule.nameIn? line := by
  induction blanks generalizing line with
  | nil => rw [List.append_nil]
  | cons c blanks ih =>
      obtain ⟨hc, hblank'⟩ := allBlank_cons.mp hblank
      rw [List.append_cons, ih hblank', nameIn?_append_blank rule hc]

end DeclarationRule

/-! ### Dispatch entries -/

theorem entryName?_eq_of_trim_eq (htrim : trim line = trim line') :
    entryName? line = entryName? line' := by
  apply Option.ext
  intro name
  rw [entryName?_eq_some_iff, entryName?_eq_some_iff, ← isEntry_trim_iff, htrim,
    isEntry_trim_iff]

theorem RegionScan.step_eq_of_trim_eq (htrim : trim line = trim line') (scan : RegionScan) :
    scan.step markers line = scan.step markers line' := by
  rw [step, step, htrim, entryName?_eq_of_trim_eq htrim]

theorem Markers.dispatched_eq_of_trim_eq {source other : String}
    (hlines : List.Forall₂ (fun line line' => trim line = trim line') (lines source.toList)
      (lines other.toList)) : markers.dispatched source = markers.dispatched other := by
  have hscan : (lines source.toList).foldl (RegionScan.step markers) ⟨false, []⟩ =
      (lines other.toList).foldl (RegionScan.step markers) ⟨false, []⟩ := by
    refine List.rel_foldl (P := Eq) ?_ rfl hlines
    rintro scan _ rfl line line' htrim
    exact RegionScan.step_eq_of_trim_eq htrim scan
  rw [dispatched, dispatched, hscan]

/-! ### Table rows -/

theorem rowName?_blanks_append (hblank : AllBlank blanks) (line : List Char) :
    rowName? (blanks ++ line) = rowName? line := by
  rw [rowName?, rowName?, dropBlanks_append hblank]

/-! ### Padded sources -/

variable {source padded : String}

/-- The scan sees of a line what is left of it when it is trimmed. -/
theorem Markers.dispatched_padded (markers : Markers)
    (hpadded : Padded InlineBlank InlineBlank source.toList padded.toList) :
    markers.dispatched padded = markers.dispatched source := by
  have hlines := hpadded.forall₂_lines isPadding_inlineBlank isPadding_inlineBlank
  apply (dispatched_eq_of_trim_eq (hlines.imp ?_)).symm
  rintro line _ ⟨front, back, hfront, hback, rfl⟩
  rw [trim_append_right hback.1, trim_append_left hfront.1]

theorem DeclarationRule.declared_padded (htoken : Settings.isToken rule.returnType = true)
    (hpadded : Padded InlineBlank InlineBlank source.toList padded.toList) :
    rule.declared padded = rule.declared source := by
  have hlines := hpadded.forall₂_lines isPadding_inlineBlank isPadding_inlineBlank
  rw [declared, declared, filterMap_eq_of_forall₂ ?_ hlines]
  rintro line _ ⟨front, back, hfront, hback, rfl⟩
  rw [rule.nameIn?_append_blanks hback.1, nameIn?_blanks_append htoken hfront.1]

/-- Nothing may stand behind a row, so here blanks are put in front of lines only. -/
theorem available_padded (hpadded : Padded InlineBlank Nothing source.toList padded.toList) :
    available padded = available source := by
  have hlines := hpadded.forall₂_lines isPadding_inlineBlank isPadding_nothing
  rw [available, available, filterMap_eq_of_forall₂ ?_ hlines]
  rintro line _ ⟨front, back, hfront, hnothing, rfl⟩
  rw [hnothing, List.append_nil, rowName?_blanks_append hfront.1]

/-- The names that a source declares for the settings, unless their rule is too heavy. -/
def declared? (settings : Settings) (source : String) : Option Roster :=
  settings.rule?.map fun rule => rule.declared source

theorem declared?_padded {settings : Settings} (hfit : settings.Fit)
    (hpadded : Padded InlineBlank InlineBlank source.toList padded.toList) :
    declared? settings padded = declared? settings source := by
  rw [declared?, declared?]
  cases hrule : settings.rule? with
  | none => rfl
  | some rule =>
      have htoken : Settings.isToken rule.returnType = true := by
        rw [(DeclarationRule.ofTokens?_eq_some hrule).1]
        exact hfit.returnType
      exact congrArg some (DeclarationRule.declared_padded htoken hpadded)

theorem extracted_eq_of_lines_eq (settings : Settings)
    (hlines : lines padded.toList = lines source.toList) :
    declared? settings padded = declared? settings source ∧
      settings.markers.dispatched padded = settings.markers.dispatched source ∧
      available padded = available source := by
  simp only [declared?, DeclarationRule.declared, Markers.dispatched, available, hlines, and_self]

/-- What fit settings find in a source does not depend on its layout. Blanks in front of its lines
change nothing, and neither do returns in front of its line feeds if there were none. Blanks behind
its lines do not change what it declares or dispatches. -/
theorem extracted_of_relaid {settings : Settings} (hfit : settings.fault? = none)
    (source : String) :
    (∀ indented : String, Padded InlineBlank Nothing source.toList indented.toList →
      declared? settings indented = declared? settings source ∧
        settings.markers.dispatched indented = settings.markers.dispatched source ∧
        available indented = available source) ∧
    ((∀ above below, source.toList ≠ above ++ '\r' :: '\n' :: below) →
      declared? settings (String.ofList (withReturns source.toList)) = declared? settings source ∧
        settings.markers.dispatched (String.ofList (withReturns source.toList)) =
          settings.markers.dispatched source ∧
        available (String.ofList (withReturns source.toList)) = available source) ∧
    (∀ trailed : String, Padded Nothing InlineBlank source.toList trailed.toList →
      declared? settings trailed = declared? settings source ∧
        settings.markers.dispatched trailed = settings.markers.dispatched source) := by
  have hwords := Settings.fault?_eq_none_iff.mp hfit
  refine ⟨?_, ?_, ?_⟩
  · intro indented hpadded
    have hwider := hpadded.mono id inlineBlank_of_nothing
    exact ⟨declared?_padded hwords hwider, settings.markers.dispatched_padded hwider,
      available_padded hpadded⟩
  · intro hnone
    apply extracted_eq_of_lines_eq
    rw [String.toList_ofList, lines_withReturns hnone]
  · intro trailed hpadded
    have hwider := hpadded.mono inlineBlank_of_nothing id
    exact ⟨declared?_padded hwords hwider, settings.markers.dispatched_padded hwider⟩

def terse : Settings :=
  { Settings.standard with returnType := "T", callingConvention := "c", startMarker := "S" }

theorem extracted_of_relaid_terse :
    terse.fault? = none ∧
      (declared? terse "\u3000T c A\n\tS\n\r\nf(B)").map Roster.names = some ["A"] ∧
      (terse.markers.dispatched "\u3000T c A\n\tS\n\r\nf(B)").names = ["B"] ∧
      (terse.markers.dispatched "T c A\r\nS\r\n\r\nf(B)").names = ["B"] ∧
      (terse.markers.dispatched "T c A\r\nS\u0085\r\n\nf(B)\r").names = ["B"] := by
  have hfit : terse.fault? = none := by decide
  obtain ⟨hindented, hreturns, htrailed⟩ := extracted_of_relaid hfit "T c A\nS\n\nf(B)"
  have hnil : Nothing [] := rfl
  have hnothing : InlineBlank [] := inlineBlank_of_nothing hnil
  have hreturn : InlineBlank ['\r'] := ⟨by decide, by decide⟩
  have htab : InlineBlank ['\t'] := ⟨by decide, by decide⟩
  have hwide : InlineBlank ['\u3000'] := ⟨by decide, by decide⟩
  have hnext : InlineBlank ['\u0085', '\r'] := ⟨by decide, by decide⟩
  have hfront : Padded InlineBlank Nothing "T c A\nS\n\nf(B)".toList
      "\u3000T c A\n\tS\n\r\nf(B)".toList := by
    have hentry : Padded InlineBlank Nothing "f(B)".toList "f(B)".toList :=
      .last (by decide) (by decide) hnothing hnil
    have hempty := @Padded.feed _ _ [] ['\r'] [] _ _ (by decide) (by decide) hreturn hnil hentry
    have hmarker := @Padded.feed _ _ ['S'] ['\t'] [] _ _ (by decide) (by decide) htab hnil
      hempty
    exact @Padded.feed _ _ "T c A".toList ['\u3000'] [] _ _ (by decide) (by decide) hwide
      hnil hmarker
  have hback : Padded Nothing InlineBlank "T c A\nS\n\nf(B)".toList
      "T c A\r\nS\u0085\r\n\nf(B)\r".toList := by
    have hentry : Padded Nothing InlineBlank "f(B)".toList "f(B)\r".toList :=
      @Padded.last _ _ "f(B)".toList [] _ (by decide) (by decide) hnil hreturn
    have hempty := @Padded.feed _ _ [] [] [] _ _ (by decide) (by decide) hnil hnothing hentry
    have hmarker := @Padded.feed _ _ ['S'] [] ['\u0085', '\r'] _ _ (by decide) (by decide) hnil
      hnext hempty
    exact @Padded.feed _ _ "T c A".toList [] _ _ _ (by decide) (by decide) hnil hreturn hmarker
  have hnone : ∀ above below, "T c A\nS\n\nf(B)".toList ≠ above ++ '\r' :: '\n' :: below := by
    intro above below heq
    have hmem : '\r' ∈ "T c A\nS\n\nf(B)".toList := by
      rw [heq]
      simp
    exact absurd hmem (by decide)
  have hfound : (terse.markers.dispatched "T c A\nS\n\nf(B)").names = ["B"] := by decide
  refine ⟨hfit, ?_, ?_, ?_, ?_⟩
  · rw [(hindented _ hfront).1]
    decide
  · rw [(hindented _ hfront).2.1, hfound]
  · have hreturned := (hreturns hnone).2.1
    rw [← hfound, ← hreturned]
    rfl
  · rw [(htrailed _ hback).2, hfound]

end DispatchAudit.Source
