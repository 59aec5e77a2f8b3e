import DispatchAudit.Text.Quoted
import DispatchAudit.Proofs.Settings.Fitness
import DispatchAudit.Proofs.Source.Declarations
import DispatchAudit.Proofs.Source.Delimited
import DispatchAudit.Proofs.Source.Rows

/-!
# Names laid out as sources

Lists of names are written here as the three kinds of source, with the lines around them that such
sources usually have, and read back. None of these other lines can give a name. In an
implementation they have no third part that begins with a word character, wherever their blanks
are, and a declaration always has one, because its tokens hold no blanks. The lines around a
dispatch region may be marker lines, but none of them is an entry. And no other line of a header
has the shape of a row.
-/

namespace DispatchAudit.Audit.Layout

open Source Text

variable {settings : Settings} {rule : DeclarationRule} {names textLines : List String}
  {line blanks part gap : List Char} {name : String}

def ofLines (textLines : List String) : String := String.join (textLines.map (· ++ "\n"))

theorem toList_ofLines (textLines : List String) :
    (ofLines textLines).toList = ended (textLines.map String.toList) := by
  simp [ofLines, ended, List.flatMap_map]

theorem lines_ofLines (hlines : ∀ line ∈ textLines, IsLine line.toList) :
    lines (ofLines textLines).toList = textLines.map String.toList := by
  rw [toList_ofLines]
  apply lines_ended
  simpa using hlines

theorem filterMap_lines_ofLines (hlines : ∀ line ∈ textLines, IsLine line.toList)
    (read : List Char → Option String) :
    (lines (ofLines textLines).toList).filterMap read =
      textLines.filterMap fun line => read line.toList := by
  rw [lines_ofLines hlines, List.filterMap_map]
  rfl

/-! ### Implementations -/

def declarationLine (settings : Settings) (name : String) : String :=
  "    " ++ settings.returnType ++ " " ++ settings.callingConvention ++ " " ++ name ++ "() \x7b"

def preambleLines : List String := ["#include \"nvapi_private.h\"", "", "extern \"C\" \x7b"]

def bodyLines : List String := ["        return Ok();", "    \x7d", ""]

def closingLine : String := "\x7d"

def implementationLines (settings : Settings) (names : List String) : List String :=
  preambleLines ++ names.flatMap (fun name => declarationLine settings name :: bodyLines) ++
    [closingLine]

def implementation (settings : Settings) (names : List String) : String :=
  ofLines (implementationLines settings names)

def afterPart (text : List Char) : List Char := (dropBlanks text).dropWhile fun c => !isBlank c

theorem afterPart_append (hblank : AllBlank blanks) (hne : part ≠ [])
    (hpart : ∀ c ∈ part, isBlank c = false) (hgap : IsGap gap) (rest : List Char) :
    afterPart (blanks ++ part ++ (gap ++ rest)) = gap ++ rest := by
  obtain ⟨c, more, rfl⟩ := List.exists_cons_of_ne_nil hne
  obtain ⟨d, others, rfl⟩ := List.exists_cons_of_ne_nil hgap.ne_nil
  have hfirst : isBlank c = false := hpart c List.mem_cons_self
  have hgap' : isBlank d = true := hgap.blank d List.mem_cons_self
  rw [afterPart, List.append_assoc, dropBlanks_append hblank, List.cons_append,
    dropBlanks_cons_of_not_blank hfirst, ← List.cons_append,
    List.dropWhile_append_of_pos (by simpa using hpart)]
  simp [hgap']

/-- The third part of a declaration begins with its name. -/
theorem isWord_third_part {returnType callingConvention : String}
    (hreturn : Settings.isToken returnType = true)
    (hcalling : Settings.isToken callingConvention = true)
    (hdeclares : IsDeclaration returnType callingConvention line name) :
    ∃ c ∈ (dropBlanks (afterPart (afterPart line))).head?, isWord c = true := by
  obtain ⟨before, between, behind, rest, hbefore, hbetween, hbehind, hname, _, rfl⟩ := hdeclares
  have hfirst : afterPart (before ++ returnType.toList ++ between ++ callingConvention.toList ++
      behind ++ name.toList ++ rest) =
        between ++ callingConvention.toList ++ (behind ++ (name.toList ++ rest)) := by
    simpa using afterPart_append hbefore (Settings.toList_ne_nil_of_isToken hreturn)
      (Settings.isBlank_of_mem_token hreturn) hbetween
      (callingConvention.toList ++ (behind ++ (name.toList ++ rest)))
  have hsecond : afterPart (between ++ callingConvention.toList ++
      (behind ++ (name.toList ++ rest))) = behind ++ (name.toList ++ rest) :=
    afterPart_append hbetween.blank (Settings.toList_ne_nil_of_isToken hcalling)
      (Settings.isBlank_of_mem_token hcalling) hbehind _
  obtain ⟨c, more, hcons⟩ := List.exists_cons_of_ne_nil hname.ne_nil
  have hword : isWord c = true := hname.isWord c (by rw [hcons]; exact List.mem_cons_self)
  rw [hfirst, hsecond, dropBlanks_append hbehind.blank, dropBlanks_name_append hname, hcons]
  exact ⟨c, rfl, hword⟩

theorem nameIn?_eq_none (hfit : settings.Fit) (hrule : settings.rule? = some rule)
    (hthird : (dropBlanks (afterPart (afterPart line))).head?.any isWord = false) :
    rule.nameIn? line = none := by
  obtain ⟨hreturn, hcalling⟩ := DeclarationRule.ofTokens?_eq_some hrule
  rw [Option.eq_none_iff_forall_ne_some]
  intro name hread
  rw [DeclarationRule.nameIn?_eq_some_iff, hreturn, hcalling] at hread
  obtain ⟨c, hhead, hword⟩ := isWord_third_part hfit.returnType hfit.callingConvention hread
  rw [Option.mem_def.mp hhead] at hthird
  simp [hword] at hthird

theorem nameIn?_declarationLine (hrule : settings.rule? = some rule) (hname : IsName name.toList) :
    rule.nameIn? (declarationLine settings name).toList = some name := by
  obtain ⟨hreturn, hcalling⟩ := DeclarationRule.ofTokens?_eq_some hrule
  rw [DeclarationRule.nameIn?_eq_some_iff, hreturn, hcalling]
  have hspace : IsGap " ".toList := ⟨by decide, by decide⟩
  refine ⟨"    ".toList, " ".toList, " ".toList, "() \x7b".toList, by decide, hspace, hspace,
    hname, .cons (by decide) _, ?_⟩
  simp [declarationLine]

theorem isLine_declarationLine (hfit : settings.Fit) (hname : IsName name.toList) :
    IsLine (declarationLine settings name).toList := by
  have hreturn := Settings.feed_not_mem_token hfit.returnType
  have hcalling := Settings.feed_not_mem_token hfit.callingConvention
  have hname' : '\n' ∉ name.toList := hname.not_mem (by decide)
  refine ⟨by simp [declarationLine, hreturn, hcalling, hname'], ?_⟩
  rw [declarationLine, String.toList_append, List.getLast?_append_of_ne_nil _ (by decide)]
  decide

theorem isLine_of_mem_implementationLines (hfit : settings.Fit)
    (hnames : ∀ name ∈ names, IsName name.toList) :
    ∀ line ∈ implementationLines settings names, IsLine line.toList := by
  have hfixed : ∀ line ∈ preambleLines ++ bodyLines ++ [closingLine], IsLine line.toList := by
    decide
  simp only [List.forall_mem_append] at hfixed
  obtain ⟨⟨hpreamble, hbody⟩, hclosing⟩ := hfixed
  rw [implementationLines, List.forall_mem_append, List.forall_mem_append,
    List.forall_mem_flatMap]
  refine ⟨⟨hpreamble, ?_⟩, hclosing⟩
  intro name hname
  exact List.forall_mem_cons.mpr ⟨isLine_declarationLine hfit (hnames name hname), hbody⟩

theorem declared_implementation (hfit : settings.Fit) (hrule : settings.rule? = some rule)
    (hnames : ∀ name ∈ names, IsName name.toList) :
    rule.declared (implementation settings names) = .ofList names := by
  have hthird : ∀ line ∈ preambleLines ++ bodyLines ++ [closingLine],
      (dropBlanks (afterPart (afterPart line.toList))).head?.any isWord = false := by decide
  have hfixed : ∀ line ∈ preambleLines ++ bodyLines ++ [closingLine],
      rule.nameIn? line.toList = none := fun line hline =>
    nameIn?_eq_none hfit hrule (hthird line hline)
  simp only [List.forall_mem_append, ← List.filterMap_eq_nil_iff] at hfixed
  obtain ⟨⟨hpreamble, hbody⟩, hclosing⟩ := hfixed
  have hdeclared : names.flatMap (fun name =>
      (declarationLine settings name :: bodyLines).filterMap fun line =>
        rule.nameIn? line.toList) = names := by
    calc _ = names.flatMap (fun name => [name]) := by
          apply List.flatMap_congr
          intro name hname
          rw [List.filterMap_cons, nameIn?_declarationLine hrule (hnames name hname), hbody]
      _ = names := List.flatMap_singleton' names
  rw [DeclarationRule.declared, implementation,
    filterMap_lines_ofLines (isLine_of_mem_implementationLines hfit hnames), implementationLines,
    List.filterMap_append, List.filterMap_append, hpreamble, hclosing, List.filterMap_flatMap,
    hdeclared, List.nil_append, List.append_nil]

/-! ### Interfaces -/

def entryWord : String := "INSERT_AND_RETURN_WHEN_EQUALS"

def entryLine (name : String) : String := "        " ++ entryWord ++ "(" ++ name ++ ")"

def markerLine (marker : String) : String := "        " ++ marker

def functionLine : String := "void* nvapi_QueryInterface(NvU32 id) \x7b"

def returnLines : List String := ["", "        return nullptr;", "\x7d"]

def interfaceLines (settings : Settings) (names : List String) : List String :=
  [functionLine] ++ [markerLine settings.startMarker] ++ names.map entryLine ++
    [markerLine settings.endMarker] ++ returnLines

def interface (settings : Settings) (names : List String) : String :=
  ofLines (interfaceLines settings names)

theorem isName_entryWord : IsName entryWord.toList := by decide

theorem toList_entryLine (name : String) :
    (entryLine name).toList = "        ".toList ++ applied entryWord.toList name.toList := by
  simp [entryLine, applied]

theorem entryName?_entryLine (hname : IsName name.toList) :
    entryName? (entryLine name).toList = some name := by
  rw [entryName?_eq_some_iff, toList_entryLine]
  simpa using isEntry_applied (by decide : AllBlank "        ".toList) isName_entryWord hname []

theorem trim_markerLine {marker : String} (hmarker : Settings.isMarker marker = true) :
    trim (markerLine marker).toList = marker.toList := by
  rw [markerLine, String.toList_append, trim_append_left (by decide), Settings.trim_marker hmarker]

theorem isLine_markerLine {marker : String} (hmarker : Settings.isMarker marker = true)
    (hfeed : '\n' ∉ marker.toList) : IsLine (markerLine marker).toList := by
  rw [markerLine, String.toList_append]
  exact Settings.isLine_marker hmarker (by decide) hfeed

theorem isLine_of_mem_interfaceLines (hfit : settings.Fit)
    (hopening : '\n' ∉ settings.startMarker.toList) (hclosing : '\n' ∉ settings.endMarker.toList)
    (hnames : ∀ name ∈ names, IsName name.toList) :
    ∀ line ∈ interfaceLines settings names, IsLine line.toList := by
  have hfixed : ∀ line ∈ [functionLine] ++ returnLines, IsLine line.toList := by decide
  simp only [List.forall_mem_append] at hfixed
  simp only [interfaceLines, List.forall_mem_append, List.forall_mem_map, List.forall_mem_singleton]
  refine ⟨⟨⟨⟨by decide, isLine_markerLine hfit.startMarker hopening⟩, ?_⟩,
    isLine_markerLine hfit.endMarker hclosing⟩, hfixed.2⟩
  intro name hname
  rw [toList_entryLine]
  exact isLine_applied (by decide) isName_entryWord (hnames name hname)

/-- Either the line above the region does not open it, or it is the opening marker itself, and then
no entry. -/
theorem functionLine_opening_or_no_entry (hfit : settings.Fit) :
    (∀ line ∈ [functionLine.toList], trim line ≠ settings.startMarker.toList) ∨
      ∀ line ∈ [functionLine.toList] ++ [(markerLine settings.startMarker).toList],
        entryName? line = none := by
  have hnone : entryName? functionLine.toList = none := by decide
  by_cases hfunction : trim functionLine.toList = settings.startMarker.toList
  · right
    have hmarker : entryName? (markerLine settings.startMarker).toList = none := by
      rw [entryName?_eq_none_iff] at hnone ⊢
      intro name hentry
      rw [← isEntry_trim_iff, trim_markerLine hfit.startMarker, ← hfunction,
        isEntry_trim_iff] at hentry
      exact hnone name hentry
    simp [hnone, hmarker]
  · left
    simpa using hfunction

theorem dispatched_interface (hfit : settings.Fit)
    (hopening : '\n' ∉ settings.startMarker.toList) (hclosing : '\n' ∉ settings.endMarker.toList)
    (hnames : ∀ name ∈ names, IsName name.toList)
    (hends : ∀ name ∈ names, trim (entryLine name).toList ≠ settings.endMarker.toList) :
    settings.markers.dispatched (interface settings names) = .ofList names := by
  have hlines : lines (interface settings names).toList = [functionLine.toList] ++
      [(markerLine settings.startMarker).toList] ++ names.map (fun name => (entryLine name).toList) ++
        [(markerLine settings.endMarker).toList] ++ returnLines.map String.toList := by
    rw [interface, lines_ofLines (isLine_of_mem_interfaceLines hfit hopening hclosing hnames)]
    simp [interfaceLines]
  have hentries : ∀ line ∈ names.map (fun name => (entryLine name).toList),
      trim line ≠ settings.endMarker.toList := by
    simpa using hends
  have hafter : settings.markers.Quiet (returnLines.map String.toList) := .inr (by decide)
  have hfound : (names.map fun name => (entryLine name).toList).filterMap entryName? = names := by
    rw [List.filterMap_map]
    calc _ = names.filterMap some :=
          List.filterMap_congr fun name hname => entryName?_entryLine (hnames name hname)
      _ = names := List.filterMap_some
  have hdispatched : (settings.markers.dispatched (interface settings names)).names = _ :=
    Markers.dispatched_region hfit.distinct hlines (trim_markerLine hfit.startMarker)
      (trim_markerLine hfit.endMarker) (functionLine_opening_or_no_entry hfit) hentries hafter
  rw [← Roster.ofList_names (settings.markers.dispatched _), hdispatched, hfound]

/-! ### Headers -/

/-- The hexadecimal digits of a number, filled up to eight digits with zeros. -/
def paddedHex (n : Nat) : String := String.ofList ((hexDigits n).leftpad 8 '0')

def rowLine (name : String) (number : Nat) : String :=
  "    \x7b \"" ++ name ++ "\", 0x" ++ paddedHex number ++ " \x7d,"

def tableLines : List String :=
  ["static const NVAPI_INTERFACE_TABLE nvapi_interface_table[] =", "\x7b"]

def tableEndLine : String := "\x7d;"

def headerLines (names : List String) : List String :=
  tableLines ++ (names.zipIdx 1).map (fun row => rowLine row.1 row.2) ++ [tableEndLine]

def header (names : List String) : String := ofLines (headerLines names)

theorem isWord_of_mem_hexDigits {c : Char} {n : Nat} (hc : c ∈ hexDigits n) : isWord c = true := by
  have hdigit : ∀ d < 16, isWord (Nat.digitChar d) = true := by decide
  induction n using Nat.strongRecOn with
  | ind n ih =>
      rw [hexDigits, Nat.toDigits_eq_if (by decide)] at hc
      split at hc
      · next hlow =>
          rw [List.mem_singleton.mp hc]
          exact hdigit n hlow
      · rcases List.mem_append.mp hc with hc | hc
        · exact ih (n / 16) (by omega) hc
        · rw [List.mem_singleton.mp hc]
          exact hdigit _ (Nat.mod_lt n (by decide))

theorem isName_number (n : Nat) : IsName ("0x" ++ paddedHex n).toList := by
  have hlead : IsName "0x".toList := by decide
  refine ⟨by simp, ?_⟩
  simp only [String.toList_append, paddedHex, String.toList_ofList, List.leftpad,
    List.forall_mem_append]
  refine ⟨hlead.isWord, ?_, fun c => isWord_of_mem_hexDigits⟩
  intro c hc
  rw [List.eq_of_mem_replicate hc]
  decide

theorem isRow_rowLine (hname : IsName name.toList) (number : Nat) :
    IsRow (rowLine name number).toList name := by
  refine ⟨"    ".toList, "0x" ++ paddedHex number, by decide, hname, isName_number number, ?_⟩
  simp [rowLine]

theorem isLine_rowLine (hname : IsName name.toList) (number : Nat) :
    IsLine (rowLine name number).toList := by
  have hname' : '\n' ∉ name.toList := hname.not_mem (by decide)
  have hnumber : '\n' ∉ (paddedHex number).toList := by
    have hnot : '\n' ∉ ("0x" ++ paddedHex number).toList :=
      (isName_number number).not_mem (by decide)
    simpa using hnot
  refine ⟨by simp [rowLine, hname', hnumber], ?_⟩
  rw [(isRow_rowLine hname number).getLast?]
  decide

theorem isLine_of_mem_headerLines (hnames : ∀ name ∈ names, IsName name.toList) :
    ∀ line ∈ headerLines names, IsLine line.toList := by
  simp only [headerLines, List.forall_mem_append, List.forall_mem_map]
  refine ⟨⟨by decide, ?_⟩, by decide⟩
  intro row hrow
  exact isLine_rowLine (hnames row.1 (List.fst_mem_of_mem_zipIdx hrow)) row.2

theorem available_header (hnames : ∀ name ∈ names, IsName name.toList) :
    Source.available (header names) = .ofList names := by
  have htable : tableLines.filterMap (fun line => rowName? line.toList) = [] := by decide
  have hend : [tableEndLine].filterMap (fun line => rowName? line.toList) = [] := by decide
  have hrows : ((names.zipIdx 1).map fun row => rowLine row.1 row.2).filterMap
      (fun line => rowName? line.toList) = names := by
    rw [List.filterMap_map]
    calc _ = (names.zipIdx 1).filterMap fun row => some row.1 := by
          apply List.filterMap_congr
          intro row hrow
          have hname := hnames row.1 (List.fst_mem_of_mem_zipIdx hrow)
          exact rowName?_eq_some_iff.mpr (isRow_rowLine hname row.2)
      _ = names := by simp [List.filterMap_eq_map']
  rw [Source.available, header, filterMap_lines_ofLines (isLine_of_mem_headerLines hnames),
    headerLines, List.filterMap_append, List.filterMap_append, htable, hrows, hend,
    List.nil_append, List.append_nil]

end DispatchAudit.Audit.Layout
