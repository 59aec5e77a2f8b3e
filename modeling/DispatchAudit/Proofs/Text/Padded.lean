import DispatchAudit.Proofs.Text.Lines
import DispatchAudit.Proofs.Text.Runs
import Mathlib.Data.List.Forall2

/-!
# Texts with padded lines

Padding is put into a text in front of its lines, or behind them in front of what ends them. The
padded text has the same number of lines, and each of them is the line it was made from with
padding around it. Only a return is treacherous: put directly in front of a line feed it becomes a
part of the line's end. So a line may gain one return less than was put there, which is why what
counts as padding has to stay padding without its last return.
-/

namespace DispatchAudit.Text

variable {Front Back : List Char → Prop} {text padded line front back : List Char}
  {textLines paddedLines : List (List Char)}

/-- Whether the second text is the first one with something put in front of each line and
something behind it, in front of what ends the line. -/
inductive Padded (Front Back : List Char → Prop) : List Char → List Char → Prop where
  | nil : Padded Front Back [] []
  | last {line front back : List Char} (hne : line ≠ []) (hfeed : '\n' ∉ line)
      (hfront : Front front) (hback : Back back) :
      Padded Front Back line (front ++ line ++ back)
  | feed {line front back rest padded : List Char} (hfeed : '\n' ∉ line)
      (hreturn : line.getLast? ≠ some '\r') (hfront : Front front) (hback : Back back)
      (hrest : Padded Front Back rest padded) :
      Padded Front Back (line ++ '\n' :: rest) (front ++ line ++ back ++ '\n' :: padded)
  | returnFeed {line front back rest padded : List Char} (hfeed : '\n' ∉ line)
      (hfront : Front front) (hback : Back back) (hrest : Padded Front Back rest padded) :
      Padded Front Back (line ++ '\r' :: '\n' :: rest)
        (front ++ line ++ back ++ '\r' :: '\n' :: padded)

/-- Whether the second line is the first one with something in front of it and something behind
it. -/
def PaddedLine (Front Back : List Char → Prop) (line padded : List Char) : Prop :=
  ∃ front back, Front front ∧ Back back ∧ padded = front ++ line ++ back

/-- Whether what may be put into a line never ends it, and loses nothing that matters to a line's
end. -/
structure IsPadding (Allowed : List Char → Prop) : Prop where
  feed_not_mem : ∀ run, Allowed run → '\n' ∉ run
  withoutReturn : ∀ run, Allowed run → Allowed (withoutReturn run)

/-- Whether the text holds blanks other than line feeds. -/
def InlineBlank (text : List Char) : Prop := AllBlank text ∧ '\n' ∉ text

def Nothing (text : List Char) : Prop := text = []

theorem isPadding_inlineBlank : IsPadding InlineBlank where
  feed_not_mem _ hrun := hrun.2
  withoutReturn _ hrun :=
    ⟨fun c hc => hrun.1 c (mem_of_mem_withoutReturn hc),
      fun hfeed => hrun.2 (mem_of_mem_withoutReturn hfeed)⟩

theorem isPadding_nothing : IsPadding Nothing where
  feed_not_mem _ hrun hfeed := by
    rw [hrun] at hfeed
    cases hfeed
  withoutReturn _ hrun := by
    rw [hrun]
    rfl

theorem inlineBlank_of_nothing (hnothing : Nothing text) : InlineBlank text := by
  rw [hnothing]
  exact ⟨.nil, List.not_mem_nil⟩

theorem Padded.mono {Front' Back' : List Char → Prop} (hfront : ∀ {run}, Front run → Front' run)
    (hback : ∀ {run}, Back run → Back' run) (hpadded : Padded Front Back text padded) :
    Padded Front' Back' text padded := by
  induction hpadded with
  | nil => exact .nil
  | last hne hfeed hbefore hbehind => exact .last hne hfeed (hfront hbefore) (hback hbehind)
  | feed hfeed hreturn hbefore hbehind _ ih =>
      exact .feed hfeed hreturn (hfront hbefore) (hback hbehind) ih
  | returnFeed hfeed hbefore hbehind _ ih =>
      exact .returnFeed hfeed (hfront hbefore) (hback hbehind) ih

theorem feed_not_mem_padded (hfront : IsPadding Front) (hback : IsPadding Back)
    (hfeed : '\n' ∉ line) (hbefore : Front front) (hbehind : Back back) :
    '\n' ∉ front ++ line ++ back := by
  have hbefore' := hfront.feed_not_mem front hbefore
  have hbehind' := hback.feed_not_mem back hbehind
  simp [hfeed, hbefore', hbehind']

/-- If a line loses a return to its end it is one that was put there. -/
theorem paddedLine_withoutReturn (hfront : IsPadding Front) (hback : IsPadding Back)
    (hreturn : line.getLast? ≠ some '\r') (hbefore : Front front) (hbehind : Back back) :
    PaddedLine Front Back line (withoutReturn (front ++ line ++ back)) := by
  by_cases hline : line = []
  · subst hline
    by_cases hnone : back = []
    · subst hnone
      exact ⟨withoutReturn front, [], hfront.withoutReturn front hbefore, hbehind, by simp⟩
    · refine ⟨front, withoutReturn back, hbefore, hback.withoutReturn back hbehind, ?_⟩
      exact withoutReturn_append_of_ne_nil hnone _
  · refine ⟨front, withoutReturn back, hbefore, hback.withoutReturn back hbehind, ?_⟩
    apply withoutReturn_append
    rwa [List.getLast?_append_of_ne_nil _ hline]

theorem Padded.forall₂_lines (hfront : IsPadding Front) (hback : IsPadding Back)
    (hpadded : Padded Front Back text padded) :
    List.Forall₂ (PaddedLine Front Back) (lines text) (lines padded) := by
  induction hpadded with
  | nil => exact .nil
  | @last line front back hne hfeed hbefore hbehind =>
      have hfeed' := feed_not_mem_padded hfront hback hfeed hbefore hbehind
      have hne' : front ++ line ++ back ≠ [] := by simp [hne]
      rw [lines_of_no_feed hne hfeed, lines_of_no_feed hne' hfeed']
      exact .cons ⟨front, back, hbefore, hbehind, rfl⟩ .nil
  | feed hfeed hreturn hbefore hbehind _ ih =>
      have hfeed' := feed_not_mem_padded hfront hback hfeed hbefore hbehind
      rw [lines_append_feed hfeed, lines_append_feed hfeed',
        withoutReturn_of_getLast?_ne hreturn]
      exact .cons (paddedLine_withoutReturn hfront hback hreturn hbefore hbehind) ih
  | @returnFeed line front back rest padded hfeed hbefore hbehind _ ih =>
      have hfeed' := feed_not_mem_padded hfront hback hfeed hbefore hbehind
      rw [(Lined.returnFeed hfeed (lined_lines rest)).lines_eq,
        (Lined.returnFeed hfeed' (lined_lines padded)).lines_eq]
      exact .cons ⟨front, back, hbefore, hbehind, rfl⟩ ih

/-- A reading of lines that does not mind what was done to them reads the same. -/
theorem filterMap_eq_of_forall₂ {α : Type} {read : List Char → Option α}
    {changed : List Char → List Char → Prop}
    (hread : ∀ line line', changed line line' → read line' = read line)
    (hlines : List.Forall₂ changed textLines paddedLines) :
    paddedLines.filterMap read = textLines.filterMap read := by
  induction hlines with
  | nil => rfl
  | cons hline _ ih => rw [List.filterMap_cons, List.filterMap_cons, hread _ _ hline, ih]

/-! ### Returns in front of line feeds -/

def withReturns (text : List Char) : List Char :=
  text.flatMap fun c => if c = '\n' then ['\r', '\n'] else [c]

theorem withReturns_of_no_feed (hfeed : '\n' ∉ text) : withReturns text = text := by
  calc withReturns text = text.flatMap fun c => [c] := by
        apply List.flatMap_congr
        intro c hc
        have hne : c ≠ '\n' := by
          rintro rfl
          exact hfeed hc
        exact if_neg hne
    _ = text := List.flatMap_singleton' text

theorem withReturns_append_feed (hfeed : '\n' ∉ line) (rest : List Char) :
    withReturns (line ++ '\n' :: rest) = line ++ '\r' :: '\n' :: withReturns rest := by
  rw [withReturns, List.flatMap_append, ← withReturns, withReturns_of_no_feed hfeed]
  rfl

/-- Returns in front of all line feeds go with them, as long as there were none before. -/
theorem lines_withReturns (hnone : ∀ above below, text ≠ above ++ '\r' :: '\n' :: below) :
    lines (withReturns text) = lines text := by
  have hlined := lined_lines text
  generalize lines text = textLines at hlined
  induction hlined with
  | nil => rfl
  | last hne hfeed =>
      rw [withReturns_of_no_feed hfeed]
      exact lines_of_no_feed hne hfeed
  | @feed line rest _ hfeed _ _ ih =>
      have hrest : ∀ above below, rest ≠ above ++ '\r' :: '\n' :: below := by
        intro above below heq
        exact hnone (line ++ '\n' :: above) below (by simp [heq])
      rw [withReturns_append_feed hfeed,
        (Lined.returnFeed hfeed (lined_lines (withReturns rest))).lines_eq, ih hrest]
  | returnFeed => exact absurd rfl (hnone _ _)

end DispatchAudit.Text
