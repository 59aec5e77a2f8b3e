import DispatchAudit.Proofs.Source.Names
import DispatchAudit.Proofs.Text.Lines

/-!
# Which lines declare a name

A declaration is a line that can be put together from blanks, the two tokens, gaps and a name.
The tokens are any texts, so a token can begin or end with blanks, be nothing but blanks or be
empty, and then a line can be put together in more than one way. Reading takes the first place
where a token fits. Nothing is lost by that: whatever lies between that place and another one is
the same blanks in another order behind the token, and blanks there only widen the gap. So the
name is the same in every way of putting the line together.
-/

namespace DispatchAudit.Source

open Text

variable {blanks token tail after gap line : List Char} {name : String}

/-! ### A token behind blanks -/

/-- If a token fits in front of some blanks as well as behind them, what it leaves in the first
place are these blanks, in some order, and what it leaves in the second. -/
theorem exists_blanks_of_fits_earlier (hblank : AllBlank blanks)
    (hfits : blanks ++ token ++ tail = token ++ after) :
    ∃ extra, AllBlank extra ∧ after = extra ++ tail := by
  have hlength := congrArg List.length hfits
  simp only [List.length_append] at hlength
  have hafter : after = after.take blanks.length ++ after.drop blanks.length :=
    (List.take_append_drop _ _).symm
  have hsplit : blanks ++ token ++ tail =
      token ++ after.take blanks.length ++ after.drop blanks.length := by
    rw [hfits, List.append_assoc, ← hafter]
  have hfront : (blanks ++ token).length = (token ++ after.take blanks.length).length := by
    simp only [List.length_append, List.length_take]
    omega
  obtain ⟨hshift, htail⟩ := List.append_inj hsplit hfront
  have hperm : (after.take blanks.length).Perm blanks := by
    apply (List.perm_append_left_iff token).mp
    rw [← hshift]
    exact List.perm_append_comm
  exact ⟨after.take blanks.length, hblank.perm hperm, by rw [htail, ← hafter]⟩

theorem afterToken?_of_fits (hfits : token.isPrefixOf? line = some after) :
    afterToken? token line = some after := by
  cases line with
  | nil => exact hfits
  | cons c rest => rw [afterToken?, hfits]

theorem exists_blanks_of_afterToken? (hread : afterToken? token line = some after) :
    ∃ blanks, AllBlank blanks ∧ line = blanks ++ token ++ after := by
  induction line with
  | nil => exact ⟨[], .nil, isPrefixOf?_eq_some_iff.mp hread⟩
  | cons c rest ih =>
      rw [afterToken?] at hread
      split at hread
      · next found hfits =>
          cases hread
          exact ⟨[], .nil, isPrefixOf?_eq_some_iff.mp hfits⟩
      · split at hread
        · next hc =>
            obtain ⟨blanks, hblank, rfl⟩ := ih hread
            exact ⟨c :: blanks, allBlank_cons.mpr ⟨hc, hblank⟩, rfl⟩
        · cases hread

theorem afterToken?_append (hblank : AllBlank blanks) (token tail : List Char) :
    ∃ extra, AllBlank extra ∧ afterToken? token (blanks ++ token ++ tail) = some (extra ++ tail) := by
  -- the induction is on the blanks still in front: the token may fit before they are used up
  induction blanks with
  | nil => exact ⟨[], .nil, afterToken?_of_fits (isPrefixOf?_eq_some_iff.mpr rfl)⟩
  | cons c blanks ih =>
      cases hfits : token.isPrefixOf? (c :: blanks ++ token ++ tail) with
      | some after =>
          obtain ⟨extra, hextra, rfl⟩ :=
            exists_blanks_of_fits_earlier hblank (isPrefixOf?_eq_some_iff.mp hfits)
          exact ⟨extra, hextra, afterToken?_of_fits hfits⟩
      | none =>
          obtain ⟨hc, hblank'⟩ := allBlank_cons.mp hblank
          obtain ⟨extra, hextra, hread⟩ := ih hblank'
          refine ⟨extra, hextra, ?_⟩
          simp only [List.cons_append] at hfits ⊢
          rw [afterToken?, hfits]
          simpa only [hc, if_true] using hread

/-- Reading a token and the gap behind it leaves what comes after the gap, apart from blanks. -/
theorem exists_read_token_gap (hblank : AllBlank blanks) (hgap : IsGap gap)
    (token tail : List Char) :
    ∃ after extra, afterToken? token (blanks ++ token ++ (gap ++ tail)) = some after ∧
      afterBlank? after = some (extra ++ tail) ∧ AllBlank extra := by
  obtain ⟨shifted, hshifted, hread⟩ := afterToken?_append hblank token (gap ++ tail)
  obtain ⟨c, extra, hcons⟩ := List.exists_cons_of_ne_nil (hshifted.append_gap hgap).ne_nil
  have hextra : isBlank c = true ∧ AllBlank extra := by
    rw [← allBlank_cons, ← hcons]
    exact (hshifted.append_gap hgap).blank
  refine ⟨shifted ++ (gap ++ tail), extra, hread, ?_, hextra.2⟩
  rw [← List.append_assoc, hcons]
  exact afterBlank?_eq_some_iff.mpr ⟨c, hextra.1, rfl⟩

/-! ### Declarations -/

/-- Whether the line declares the name: blanks, the return type, a gap, the calling convention, a
gap, and the name, which is not cut short. -/
def IsDeclaration (returnType callingConvention : String) (line : List Char) (name : String) :
    Prop :=
  ∃ before between behind rest, AllBlank before ∧ IsGap between ∧ IsGap behind ∧
    IsName name.toList ∧ EndsName rest ∧
    line = before ++ returnType.toList ++ between ++ callingConvention.toList ++ behind ++
      name.toList ++ rest

variable {returnType callingConvention : String}

theorem IsDeclaration.ne_nil (hdeclares : IsDeclaration returnType callingConvention line name) :
    line ≠ [] := by
  rintro rfl
  obtain ⟨before, between, behind, rest, _, _, _, hname, _, hnil⟩ := hdeclares
  have hnone := (List.append_eq_nil_iff.mp hnil.symm).1
  exact hname.ne_nil (List.append_eq_nil_iff.mp hnone).2

/-- A blank at the end of a line is not a part of the name, so it stands in what follows it. -/
theorem isDeclaration_append_blank_iff {c : Char} (hc : isBlank c = true) :
    IsDeclaration returnType callingConvention (line ++ [c]) name ↔
      IsDeclaration returnType callingConvention line name := by
  constructor
  · rintro ⟨before, between, behind, rest, hbefore, hbetween, hbehind, hname, hrest, hline⟩
    rcases List.eq_nil_or_concat rest with rfl | ⟨rest, d, rfl⟩
    · -- the last character would be the last one of the name
      rw [List.append_nil] at hline
      have hlast := congrArg List.getLast? hline
      rw [List.getLast?_concat, List.getLast?_append_of_ne_nil _ hname.ne_nil] at hlast
      have hword := hname.isWord c (List.mem_of_getLast? hlast.symm)
      rw [isWord_eq_false_of_isBlank hc] at hword
      cases hword
    · rw [List.concat_eq_append, ← List.append_assoc] at hline
      obtain ⟨rfl, -⟩ := List.append_inj' hline rfl
      exact ⟨before, between, behind, rest, hbefore, hbetween, hbehind, hname,
        hrest.of_concat, rfl⟩
  · rintro ⟨before, between, behind, rest, hbefore, hbetween, hbehind, hname, hrest, rfl⟩
    refine ⟨before, between, behind, rest ++ [c], hbefore, hbetween, hbehind, hname,
      hrest.append_blank hc, ?_⟩
    rw [List.append_assoc]

namespace DeclarationRule

variable {rule : DeclarationRule}

theorem nameIn?_eq_some_iff :
    rule.nameIn? line = some name ↔
      IsDeclaration rule.returnType rule.callingConvention line name := by
  simp only [nameIn?, Option.bind_eq_bind, Option.bind_eq_some_iff]
  constructor
  · intro hread
    obtain ⟨afterType, htype, spaced, hspace, afterConvention, hconvention, spacedAgain, hspace',
      hname⟩ := hread
    obtain ⟨before, hbefore, rfl⟩ := exists_blanks_of_afterToken? htype
    obtain ⟨c, hc, rfl⟩ := afterBlank?_eq_some_iff.mp hspace
    obtain ⟨between, hbetween, rfl⟩ := exists_blanks_of_afterToken? hconvention
    obtain ⟨d, hd, rfl⟩ := afterBlank?_eq_some_iff.mp hspace'
    obtain ⟨behind, hbehind, hdrop⟩ := exists_blanks_append_dropBlanks spacedAgain
    obtain ⟨hisName, hsplit⟩ := isName_of_name?_eq_some hname
    obtain ⟨rest, hrest, hspaced⟩ :
        ∃ rest, EndsName rest ∧ spacedAgain = behind ++ name.toList ++ rest := by
      refine ⟨_, endsName_afterWord (dropBlanks spacedAgain), ?_⟩
      rw [List.append_assoc, ← hsplit]
      exact hdrop
    refine ⟨before, c :: between, d :: behind, rest, hbefore, .cons hc hbetween,
      .cons hd hbehind, hisName, hrest, ?_⟩
    rw [hspaced]
    simp
  · intro hdeclares
    obtain ⟨before, between, behind, rest, hbefore, hbetween, hbehind, hname, hrest, rfl⟩ :=
      hdeclares
    obtain ⟨afterType, spaced, htype, hspace, hspaced⟩ :=
      exists_read_token_gap hbefore hbetween rule.returnType.toList
        (rule.callingConvention.toList ++ (behind ++ (name.toList ++ rest)))
    obtain ⟨afterConvention, spacedAgain, hconvention, hspace', hspacedAgain⟩ :=
      exists_read_token_gap hspaced hbehind rule.callingConvention.toList (name.toList ++ rest)
    simp only [List.append_assoc] at htype hspace hconvention ⊢
    refine ⟨afterType, htype, _, hspace, afterConvention, hconvention, _, hspace', ?_⟩
    rw [dropBlanks_append hspacedAgain, dropBlanks_name_append hname]
    exact name?_append hname hrest

theorem nameIn?_nil (rule : DeclarationRule) : rule.nameIn? [] = none := by
  apply Option.eq_none_iff_forall_ne_some.mpr
  intro name hread
  exact (nameIn?_eq_some_iff.mp hread).ne_nil rfl

theorem nameIn?_append_blank {c : Char} (rule : DeclarationRule) (hc : isBlank c = true)
    (line : List Char) : rule.nameIn? (line ++ [c]) = rule.nameIn? line := by
  apply Option.ext
  intro name
  rw [nameIn?_eq_some_iff, nameIn?_eq_some_iff, isDeclaration_append_blank_iff hc]

/-- The sources one after another declare what the source declares that joins them by line
feeds. Where a return at the end of one of them becomes a part of the line's end only a blank is
lost. -/
theorem declared_intercalate (rule : DeclarationRule) (sources : List String) :
    rule.declared ("\n".intercalate sources) = .concat (sources.map rule.declared) := by
  have hlines := filterMap_lines_intercalate rule.nameIn?_nil
    (rule.nameIn?_append_blank (by decide)) (sources.map String.toList)
  have hfeed : "\n".toList = ['\n'] := rfl
  rw [List.flatMap_map] at hlines
  rw [declared, String.toList_intercalate, hfeed, hlines, ← Roster.ofList_names (.concat _),
    Roster.names_concat, List.flatMap_map]
  rfl

theorem inLineOrder_declared (rule : DeclarationRule) (source : String) :
    InLineOrder (AtLine (IsDeclaration rule.returnType rule.callingConvention)
      (lines source.toList)) (rule.declared source).names :=
  inLineOrder_filterMap (fun _ _ => nameIn?_eq_some_iff) _

/-- A rule finds exactly the names of the lines that can be put together as a declaration, one
name for each such line, and no line can be put together with two names. -/
theorem declared_iff_declaration_lines {returnType callingConvention : String}
    (hrule : ofTokens? returnType callingConvention = some rule) (source : String) :
    (∀ textLines, Lined source.toList textLines ↔ textLines = lines source.toList) ∧
    (∀ names, InLineOrder (AtLine (IsDeclaration returnType callingConvention)
      (lines source.toList)) names ↔ names = (rule.declared source).names) ∧
    (∀ line first second, IsDeclaration returnType callingConvention line first →
      IsDeclaration returnType callingConvention line second → first = second) := by
  obtain ⟨rfl, rfl⟩ := ofTokens?_eq_some hrule
  refine ⟨fun _ => lined_iff, fun names => (inLineOrder_declared rule source).iff_eq, ?_⟩
  intro line first second hfirst hsecond
  have hread := nameIn?_eq_some_iff.mpr hfirst
  rw [nameIn?_eq_some_iff.mpr hsecond] at hread
  exact (Option.some.inj hread).symm

theorem declared_behind_blank_token :
    ∃ rule, ofTokens? " " "" = some rule ∧
      ∀ names, InLineOrder (AtLine (IsDeclaration " " "")
          (lines "    f_1()\r\n  g()\n\t   f_1".toList)) names ↔ names = ["f_1", "f_1"] := by
  refine ⟨⟨" ", "", by decide⟩, rfl, ?_⟩
  intro names
  have hrule : ofTokens? " " "" = some ⟨" ", "", by decide⟩ := rfl
  exact (declared_iff_declaration_lines hrule "    f_1()\r\n  g()\n\t   f_1").2.1 names

end DeclarationRule

end DispatchAudit.Source
