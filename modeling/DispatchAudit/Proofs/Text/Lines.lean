import DispatchAudit.Text.Line
import Mathlib.Data.List.Basic
import Mathlib.Data.List.Infix

/-!
# How a text divides into lines

`Lined` says what lines are without saying how they are found: a line holds no line feed, a line
feed ends it, and one carriage return directly before that line feed is part of the end. What
follows the last line feed is a line as it stands, unless nothing does. Every text divides in
exactly one such way, and `lines` is that way. So a text that ends where a line ends divides
apart from what follows it, and lines that are written one after another are found again.
-/

namespace DispatchAudit.Text

inductive Lined : List Char → List (List Char) → Prop where
  | nil : Lined [] []
  | last {line : List Char} (hne : line ≠ []) (hfeed : '\n' ∉ line) : Lined line [line]
  | feed {line rest : List Char} {later : List (List Char)} (hfeed : '\n' ∉ line)
      (hreturn : line.getLast? ≠ some '\r') (hrest : Lined rest later) :
      Lined (line ++ '\n' :: rest) (line :: later)
  | returnFeed {line rest : List Char} {later : List (List Char)} (hfeed : '\n' ∉ line)
      (hrest : Lined rest later) : Lined (line ++ '\r' :: '\n' :: rest) (line :: later)

theorem withoutReturn_of_getLast?_ne {line : List Char} (hreturn : line.getLast? ≠ some '\r') :
    withoutReturn line = line :=
  if_neg hreturn

theorem linesOfPieces_cons {pieces : List (List Char)} (hne : pieces ≠ []) (piece : List Char) :
    linesOfPieces (piece :: pieces) = withoutReturn piece :: linesOfPieces pieces := by
  obtain ⟨next, later, rfl⟩ := List.exists_cons_of_ne_nil hne
  simp [linesOfPieces]

theorem lines_append_feed {line : List Char} (hfeed : '\n' ∉ line) (rest : List Char) :
    lines (line ++ '\n' :: rest) = withoutReturn line :: lines rest := by
  rw [lines, List.splitOn_append_cons_self_of_not_mem hfeed,
    linesOfPieces_cons (List.splitOn_ne_nil _ _), lines]

theorem lines_of_no_feed {line : List Char} (hne : line ≠ []) (hfeed : '\n' ∉ line) :
    lines line = [line] := by
  rw [lines, List.splitOn_eq_singleton hfeed]
  simp [linesOfPieces, hne]

theorem Lined.lines_eq {text : List Char} {textLines : List (List Char)}
    (hlined : Lined text textLines) : lines text = textLines := by
  induction hlined with
  | nil => rfl
  | last hne hfeed => exact lines_of_no_feed hne hfeed
  | feed hfeed hreturn _ ih =>
      rw [lines_append_feed hfeed, withoutReturn_of_getLast?_ne hreturn, ih]
  | @returnFeed line rest later hfeed _ ih =>
      have hfeed' : '\n' ∉ line ++ ['\r'] := by simp [hfeed]
      have hlines := lines_append_feed hfeed' rest
      rw [withoutReturn_append_return, ih] at hlines
      simpa using hlines

theorem lined_lines (text : List Char) : Lined text (lines text) := by
  induction hlength : text.length using Nat.strongRecOn generalizing text with
  | ind length ih =>
      by_cases hmem : '\n' ∈ text
      · obtain ⟨line, rest, rfl, hfeed⟩ := List.eq_append_cons_of_mem hmem
        have hshorter : rest.length < length := by
          rw [← hlength]
          simp
          omega
        have hrest : Lined rest (lines rest) := ih _ hshorter rest rfl
        rw [lines_append_feed hfeed]
        by_cases hreturn : line.getLast? = some '\r'
        · obtain ⟨line, rfl⟩ := List.getLast?_eq_some_iff.mp hreturn
          rw [withoutReturn_append_return, List.append_assoc]
          exact .returnFeed (fun hmem => hfeed (List.mem_append_left _ hmem)) hrest
        · rw [withoutReturn_of_getLast?_ne hreturn]
          exact .feed hfeed hreturn hrest
      · by_cases hne : text = []
        · rw [hne]
          exact .nil
        · rw [lines_of_no_feed hne hmem]
          exact .last hne hmem

/-- A text divides into lines in exactly one way. -/
theorem lined_iff {text : List Char} {textLines : List (List Char)} :
    Lined text textLines ↔ textLines = lines text := by
  constructor
  · intro hlined
    exact hlined.lines_eq.symm
  · intro hlines
    rw [hlines]
    exact lined_lines text

/-! ### The return that belongs to the end -/

theorem mem_of_mem_withoutReturn {line : List Char} {c : Char} (hc : c ∈ withoutReturn line) :
    c ∈ line := by
  rw [withoutReturn] at hc
  split at hc
  · exact List.mem_of_mem_dropLast hc
  · exact hc

theorem withoutReturn_append_of_ne_nil {rest : List Char} (hne : rest ≠ []) (line : List Char) :
    withoutReturn (line ++ rest) = line ++ withoutReturn rest := by
  rw [withoutReturn, withoutReturn, List.getLast?_append_of_ne_nil _ hne,
    List.dropLast_append_of_ne_nil hne]
  split <;> rfl

theorem withoutReturn_append {line rest : List Char} (hline : line.getLast? ≠ some '\r') :
    withoutReturn (line ++ rest) = line ++ withoutReturn rest := by
  by_cases hne : rest = []
  · subst hne
    rw [List.append_nil, withoutReturn_of_getLast?_ne hline]
    exact (List.append_nil line).symm
  · exact withoutReturn_append_of_ne_nil hne line

theorem withoutReturn_eq_nil_iff {line : List Char} :
    withoutReturn line = [] ↔ line = [] ∨ line = ['\r'] := by
  constructor
  · intro hnil
    rw [withoutReturn] at hnil
    split at hnil
    · next hreturn =>
        obtain ⟨front, rfl⟩ := List.getLast?_eq_some_iff.mp hreturn
        rw [List.dropLast_concat] at hnil
        exact .inr (by rw [hnil]; rfl)
    · exact .inl hnil
  · rintro (rfl | rfl) <;> rfl

/-! ### Texts put together -/

theorem Lined.feed_not_mem {text line : List Char} {textLines : List (List Char)}
    (hlined : Lined text textLines) (hline : line ∈ textLines) : '\n' ∉ line := by
  induction hlined with
  | nil => cases hline
  | last _ hfeed =>
      rw [List.mem_singleton.mp hline]
      exact hfeed
  | feed hfeed _ _ ih | returnFeed hfeed _ ih =>
      rcases List.mem_cons.mp hline with rfl | hlater
      · exact hfeed
      · exact ih hlater

theorem feed_not_mem_of_mem_lines {text line : List Char} (hline : line ∈ lines text) :
    '\n' ∉ line :=
  (lined_lines text).feed_not_mem hline

def EndsLine (text : List Char) : Prop := ∀ c ∈ text.getLast?, c = '\n'

theorem endsLine_append_feed (front : List Char) : EndsLine (front ++ ['\n']) := by
  intro c hlast
  rw [List.getLast?_concat] at hlast
  exact (Option.some.inj hlast).symm

theorem EndsLine.of_append (front : List Char) {back : List Char}
    (hends : EndsLine (front ++ back)) : EndsLine back := by
  intro c hlast
  apply hends c
  rw [List.getLast?_append, Option.mem_def.mp hlast]
  rfl

theorem lines_append {text : List Char} (hends : EndsLine text) (rest : List Char) :
    lines (text ++ rest) = lines text ++ lines rest := by
  have hlined := lined_lines text
  generalize lines text = textLines at hlined
  induction hlined with
  | nil => rfl
  | @last line hne hfeed =>
      have hlast : line.getLast hne = '\n' := hends _ (List.getLast?_eq_some_getLast hne)
      exact absurd (hlast ▸ List.getLast_mem hne) hfeed
  | @feed line later _ hfeed hreturn _ ih =>
      have hlater : EndsLine later := .of_append (line ++ ['\n']) (by simpa using hends)
      rw [List.append_assoc, List.cons_append, lines_append_feed hfeed,
        withoutReturn_of_getLast?_ne hreturn, ih hlater, List.cons_append]
  | @returnFeed line later _ hfeed _ ih =>
      have hlater : EndsLine later := .of_append (line ++ ['\r', '\n']) (by simpa using hends)
      have hfeed' : '\n' ∉ line ++ ['\r'] := by simp [hfeed]
      have hlines := lines_append_feed hfeed' (later ++ rest)
      rw [withoutReturn_append_return, ih hlater] at hlines
      simpa using hlines

/-! ### Texts joined by line feeds -/

variable {α : Type} {read : List Char → Option α}

theorem read_withoutReturn (hreturn : ∀ line, read (line ++ ['\r']) = read line)
    (line : List Char) : read (withoutReturn line) = read line := by
  by_cases hlast : line.getLast? = some '\r'
  · obtain ⟨front, rfl⟩ := List.getLast?_eq_some_iff.mp hlast
    rw [withoutReturn_append_return, hreturn]
  · rw [withoutReturn_of_getLast?_ne hlast]

/-- A line feed at the end of a text ends its last line, where a return may be lost, or adds an
empty line. Neither matters to a reading that finds nothing in an empty line and does not mind
returns. -/
theorem filterMap_lines_append_feed (hnil : read [] = none)
    (hreturn : ∀ line, read (line ++ ['\r']) = read line) (text : List Char) :
    (lines (text ++ ['\n'])).filterMap read = (lines text).filterMap read := by
  have hlined := lined_lines text
  generalize lines text = textLines at hlined
  induction hlined with
  | nil =>
      have hlines : lines ['\n'] = [[]] := lines_append_feed List.not_mem_nil []
      rw [List.nil_append, hlines, List.filterMap_cons_none hnil]
  | @last line _ hfeed =>
      rw [lines_append_feed hfeed, lines_nil, List.filterMap_cons, List.filterMap_cons,
        read_withoutReturn hreturn]
  | @feed line rest _ hfeed hlast _ ih =>
      rw [List.append_assoc, List.cons_append, lines_append_feed hfeed,
        withoutReturn_of_getLast?_ne hlast, List.filterMap_cons, List.filterMap_cons, ih]
  | @returnFeed line rest _ hfeed _ ih =>
      have hfeed' : '\n' ∉ line ++ ['\r'] := by simp [hfeed]
      have hlines := lines_append_feed hfeed' (rest ++ ['\n'])
      rw [withoutReturn_append_return] at hlines
      simp only [List.append_assoc, List.cons_append, List.nil_append] at hlines ⊢
      rw [hlines, List.filterMap_cons, List.filterMap_cons, ih]

/-- Reading texts one after another is the same as reading them joined by line feeds. -/
theorem filterMap_lines_intercalate (hnil : read [] = none)
    (hreturn : ∀ line, read (line ++ ['\r']) = read line) (texts : List (List Char)) :
    (lines (['\n'].intercalate texts)).filterMap read =
      texts.flatMap fun text => (lines text).filterMap read := by
  induction texts with
  | nil => rfl
  | cons text later ih =>
      cases later with
      | nil => simp
      | cons next later =>
          rw [List.flatMap_cons, ← ih, List.intercalate_cons_cons,
            lines_append (endsLine_append_feed text), List.filterMap_append,
            filterMap_lines_append_feed hnil hreturn]

/-! ### Lines written one after another -/

/-- The text in which each of the given lines is ended by a line feed. -/
def ended (textLines : List (List Char)) : List Char := textLines.flatMap (· ++ ['\n'])

/-- Whether a line feed behind the text ends exactly this text as a line. -/
structure IsLine (text : List Char) : Prop where
  feed_not_mem : '\n' ∉ text
  last_ne_return : text.getLast? ≠ some '\r'

theorem isLine_iff {text : List Char} :
    IsLine text ↔ '\n' ∉ text ∧ text.getLast? ≠ some '\r' :=
  ⟨fun hline => ⟨hline.1, hline.2⟩, fun hline => ⟨hline.1, hline.2⟩⟩

instance (text : List Char) : Decidable (IsLine text) := decidable_of_iff _ isLine_iff.symm

theorem lines_ended {textLines : List (List Char)} (hlines : ∀ line ∈ textLines, IsLine line) :
    lines (ended textLines) = textLines := by
  induction textLines with
  | nil => rfl
  | cons line later ih =>
      obtain ⟨hline, hlater⟩ := List.forall_mem_cons.mp hlines
      rw [ended, List.flatMap_cons, List.append_assoc, List.singleton_append,
        lines_append_feed hline.feed_not_mem, withoutReturn_of_getLast?_ne hline.last_ne_return]
      exact congrArg _ (ih hlater)

end DispatchAudit.Text
