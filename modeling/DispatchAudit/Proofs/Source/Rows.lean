import DispatchAudit.Source.TableRow
import DispatchAudit.Proofs.Source.Names
import DispatchAudit.Proofs.Text.Lines

/-!
# Which lines are rows

A row is put together from blanks, a name in quotes, an identifier and fixed characters, and it
fills its line. Its characters say where each part ends: the brace ends the blanks, because no
brace is a blank, and the quote and the last space end the two words. Nothing may stand behind
the comma, so all that the end of a line may add to a row is what the division into lines takes
off again: one carriage return directly before a line feed.
-/

namespace DispatchAudit.Source

open Text

variable {line row trailing blanks blanks' : List Char}
  {name name' identifier identifier' : String}

structure IsRowOf (line blanks : List Char) (name identifier : String) : Prop where
  blank : AllBlank blanks
  isName : IsName name.toList
  isIdentifier : IsName identifier.toList
  line_eq : line = blanks ++ "\x7b \"".toList ++ name.toList ++ "\", ".toList ++
    identifier.toList ++ " \x7d,".toList

def IsRow (line : List Char) (name : String) : Prop :=
  ∃ blanks identifier, IsRowOf line blanks name identifier

theorem rowOpening_eq : rowOpening = "\x7b \"".toList := by decide

theorem rowMiddle_eq : rowMiddle = "\", ".toList := by decide

theorem rowClosing_eq : rowClosing = " \x7d,".toList := by decide

theorem dropBlanks_rowOpening (rest : List Char) :
    dropBlanks (rowOpening ++ rest) = rowOpening ++ rest :=
  dropBlanks_cons_of_not_blank (by decide) _

/-! ### One line -/

theorem rowName?_eq_some_iff : rowName? line = some name ↔ IsRow line name := by
  simp only [rowName?, Option.bind_eq_bind, Option.bind_eq_some_iff, isPrefixOf?_eq_some_iff,
    Option.ite_none_right_eq_some, Option.some.injEq]
  constructor
  · intro hread
    obtain ⟨text, htext, found, hfound, behind, hbehind, identifier, hidentifier, hend, rfl⟩ :=
      hread
    obtain ⟨hisName, hsplit⟩ := isName_of_name?_eq_some hfound
    obtain ⟨hisIdentifier, hsplit'⟩ := isName_of_name?_eq_some hidentifier
    obtain ⟨blanks, hblank, hline⟩ := exists_blanks_append_dropBlanks line
    refine ⟨blanks, identifier, hblank, hisName, hisIdentifier, ?_⟩
    rw [hline, htext, hsplit, hbehind, hsplit', hend, rowOpening_eq, rowMiddle_eq, rowClosing_eq]
    simp only [List.append_assoc]
  · intro hrow
    obtain ⟨blanks, identifier, hblank, hname, hidentifier, rfl⟩ := hrow
    rw [← rowOpening_eq, ← rowMiddle_eq, ← rowClosing_eq]
    simp only [List.append_assoc]
    have hquote : EndsName (rowMiddle ++ (identifier.toList ++ rowClosing)) :=
      .cons (by decide) _
    have hspace : EndsName rowClosing := .cons (by decide) _
    refine ⟨_, by rw [dropBlanks_append hblank, dropBlanks_rowOpening], name,
      name?_append hname hquote, _, afterWord_append hname hquote, identifier,
      name?_append hidentifier hspace, ?_, rfl⟩
    exact afterWord_append hidentifier hspace

/-- The parts of a row can be read off its line, so a line is a row in at most one way. -/
theorem IsRowOf.unique (hrow : IsRowOf line blanks name identifier)
    (hrow' : IsRowOf line blanks' name' identifier') :
    blanks = blanks' ∧ name = name' ∧ identifier = identifier' := by
  have hname : name = name' := by
    apply Option.some.inj
    rw [← rowName?_eq_some_iff.mpr ⟨blanks, identifier, hrow⟩]
    exact rowName?_eq_some_iff.mpr ⟨blanks', identifier', hrow'⟩
  subst hname
  have hline := hrow.line_eq.symm.trans hrow'.line_eq
  rw [← rowOpening_eq] at hline
  simp only [List.append_assoc] at hline
  have hbehind := congrArg dropBlanks hline
  rw [dropBlanks_append hrow.blank, dropBlanks_append hrow'.blank, dropBlanks_rowOpening,
    dropBlanks_rowOpening] at hbehind
  simp only [List.append_cancel_left_eq, List.append_cancel_right_eq] at hbehind
  have hidentifier : identifier = identifier' := String.ext hbehind
  subst hidentifier
  exact ⟨List.append_cancel_right hline, rfl, rfl⟩

/-! ### The end of a line -/

theorem IsRow.getLast? (hrow : IsRow row name) : row.getLast? = some ',' := by
  obtain ⟨blanks, identifier, _, _, _, rfl⟩ := hrow
  exact List.getLast?_append_of_ne_nil _ (by decide)

theorem IsRow.append_blanks_iff (hrow : IsRow row name) (hblank : AllBlank trailing) :
    IsRow (row ++ trailing) name' ↔ name' = name ∧ trailing = [] := by
  constructor
  · intro hlonger
    have htrailing : trailing = [] := by
      by_contra hne
      have hlast := hlonger.getLast?
      rw [List.getLast?_append_of_ne_nil _ hne] at hlast
      have hcomma : isBlank ',' = true := hblank _ (List.mem_of_getLast? hlast)
      exact absurd hcomma (by decide)
    subst htrailing
    rw [List.append_nil, ← rowName?_eq_some_iff, rowName?_eq_some_iff.mpr hrow] at hlonger
    exact ⟨(Option.some.inj hlonger).symm, rfl⟩
  · rintro ⟨rfl, rfl⟩
    rwa [List.append_nil]

/-- The line of a row and the blanks up to its end: the row, and what its line keeps of the
blanks. -/
theorem getElem?_lines_row {above below : List Char} (habove : EndsLine above)
    (hrow : IsRow row name) (hfeed : '\n' ∉ row ++ trailing) (hbelow : ∀ c ∈ below.head?, c = '\n') :
    (lines (above ++ row ++ trailing ++ below))[(lines above).length]? =
      some (row ++ if below = [] then trailing else withoutReturn trailing) := by
  have hlast := hrow.getLast?
  have hfirst : (lines (row ++ trailing ++ below))[0]? =
      some (row ++ if below = [] then trailing else withoutReturn trailing) := by
    cases below with
    | nil =>
        have hne : row ++ trailing ≠ [] := by
          intro hnil
          rw [(List.append_eq_nil_iff.mp hnil).1] at hlast
          cases hlast
        simp [lines_of_no_feed hne hfeed]
    | cons c rest =>
        obtain rfl : c = '\n' := hbelow c rfl
        have hreturn : row.getLast? ≠ some '\r' := by simp [hlast]
        rw [lines_append_feed hfeed, withoutReturn_append hreturn]
        simp
  have hsplit : above ++ row ++ trailing ++ below = above ++ (row ++ trailing ++ below) := by
    simp only [List.append_assoc]
  rw [hsplit, lines_append habove, List.getElem?_append_right (Nat.le_refl _), Nat.sub_self]
  exact hfirst

/-! ### All lines -/

theorem inLineOrder_available (source : String) :
    InLineOrder (AtLine IsRow (lines source.toList)) (available source).names :=
  inLineOrder_filterMap (fun _ _ => rowName?_eq_some_iff) _

/-- An interface header makes available the names of exactly its rows, and a row has its parts in
one way only. A row with blanks behind it is one only if the blanks are a single carriage return
directly before a line feed. -/
theorem available_iff_rows (source : String) :
    (∀ textLines, Lined source.toList textLines ↔ textLines = lines source.toList) ∧
    (∀ names, InLineOrder (AtLine IsRow (lines source.toList)) names ↔
      names = (available source).names) ∧
    (∀ line blanks blanks' name name' identifier identifier',
      IsRowOf line blanks name identifier → IsRowOf line blanks' name' identifier' →
        blanks = blanks' ∧ name = name' ∧ identifier = identifier') ∧
    (∀ above row trailing below name, source.toList = above ++ row ++ trailing ++ below →
      EndsLine above → IsRow row name → AllBlank trailing → '\n' ∉ row ++ trailing →
      (∀ c ∈ below.head?, c = '\n') →
        ∀ found, AtLine IsRow (lines source.toList) (lines above).length found ↔
          found = name ∧ (trailing = [] ∨ trailing = ['\r'] ∧ below ≠ [])) := by
  refine ⟨fun _ => lined_iff, fun names => (inLineOrder_available source).iff_eq, ?_, ?_⟩
  · intro line blanks blanks' name name' identifier identifier' hrow hrow'
    exact hrow.unique hrow'
  · intro above row trailing below name hsource habove hrow hblank hfeed hbelow found
    have hline := getElem?_lines_row habove hrow hfeed hbelow
    rw [hsource]
    simp only [AtLine, hline, Option.some.injEq, exists_eq_left']
    by_cases hend : below = []
    · rw [if_pos hend, hrow.append_blanks_iff hblank]
      simp [hend]
    · have hkept : AllBlank (withoutReturn trailing) := fun c hc =>
        hblank c (mem_of_mem_withoutReturn hc)
      rw [if_neg hend, hrow.append_blanks_iff hkept, withoutReturn_eq_nil_iff]
      simp [hend]

theorem available_behind_returns :
    ∀ names, InLineOrder (AtLine IsRow
        (lines "\t\x7b \"é\", 1 \x7d,\r\n\x7b \"B\", 2 \x7d,\r\r\n\x7b \"C\", 3 \x7d,\r".toList))
        names ↔ names = ["é"] := by
  intro names
  exact (available_iff_rows
    "\t\x7b \"é\", 1 \x7d,\r\n\x7b \"B\", 2 \x7d,\r\r\n\x7b \"C\", 3 \x7d,\r").2.1 names

end DispatchAudit.Source
