import DispatchAudit.Proofs.Text.Lines
import Mathlib.Data.List.Infix

/-!
# Pieces of a text

What is put together with a separator falls apart again where no piece holds the separator. The
first separator is where the first piece ends, so the pieces of a joined text and the lines of an
ended one are settled by the text. Of beginnings it is enough to know that neither begins with the
other: then no text has both.
-/

namespace DispatchAudit.Text

variable {separator : Char} {left right rest rest' opening : List Char}
  {pieces pieces' textLines textLines' : List (List Char)}

/-! ### Beginnings -/

/-- Whether neither text begins with the other. -/
def Apart (left right : List Char) : Prop := ¬ left <+: right ∧ ¬ right <+: left

instance (left right : List Char) : Decidable (Apart left right) := instDecidableAnd

theorem Apart.not_prefix_append (hapart : Apart left right) (rest : List Char) :
    ¬ left <+: right ++ rest := by
  intro hleft
  rcases List.prefix_or_prefix_of_prefix hleft (List.prefix_append right rest) with h | h
  · exact hapart.1 h
  · exact hapart.2 h

theorem Apart.append_ne (hapart : Apart left right) : left ++ rest ≠ right ++ rest' := by
  intro heq
  apply hapart.not_prefix_append rest'
  rw [← heq]
  exact List.prefix_append left rest

/-! ### The first separator -/

theorem append_separator_inj (hleft : separator ∉ left) (hright : separator ∉ right)
    (heq : left ++ separator :: rest = right ++ separator :: rest') :
    left = right ∧ rest = rest' := by
  have hsplit := congrArg (List.splitOn separator) heq
  rw [List.splitOn_append_cons_self_of_not_mem hleft,
    List.splitOn_append_cons_self_of_not_mem hright] at hsplit
  obtain rfl := (List.cons.inj hsplit).1
  exact ⟨rfl, (List.cons.inj (List.append_cancel_left heq)).2⟩

theorem ne_append_separator (hleft : separator ∉ left) : left ≠ right ++ separator :: rest := by
  rintro rfl
  exact hleft (by simp)

/-! ### Joined pieces -/

theorem not_mem_intercalate {joint : List Char} {c : Char} (hjoint : c ∉ joint)
    (hpieces : ∀ piece ∈ pieces, c ∉ piece) : c ∉ joint.intercalate pieces := by
  induction pieces with
  | nil => exact List.not_mem_nil
  | cons piece later ih =>
      obtain ⟨hpiece, hlater⟩ := List.forall_mem_cons.mp hpieces
      cases later with
      | nil => rwa [List.intercalate_singleton]
      | cons next later =>
          rw [List.intercalate_cons_cons, List.mem_append, List.mem_append]
          rintro ((hmem | hmem) | hmem)
          · exact hpiece hmem
          · exact hjoint hmem
          · exact ih hlater hmem

theorem intercalate_inj (hpieces : ∀ piece ∈ pieces, separator ∉ piece)
    (hpieces' : ∀ piece ∈ pieces', separator ∉ piece) (hne : pieces ≠ []) (hne' : pieces' ≠ [])
    (heq : (separator :: opening).intercalate pieces =
      (separator :: opening).intercalate pieces') : pieces = pieces' := by
  induction pieces generalizing pieces' with
  | nil => exact absurd rfl hne
  | cons piece later ih =>
      obtain ⟨piece', later', rfl⟩ := List.exists_cons_of_ne_nil hne'
      obtain ⟨hpiece, hlater⟩ := List.forall_mem_cons.mp hpieces
      obtain ⟨hpiece', hlater'⟩ := List.forall_mem_cons.mp hpieces'
      cases later with
      | nil =>
          cases later' with
          | nil => simpa using heq
          | cons next' later' =>
              rw [List.intercalate_singleton, List.intercalate_cons_cons] at heq
              exact absurd heq (by simpa using ne_append_separator hpiece)
      | cons next later =>
          cases later' with
          | nil =>
              rw [List.intercalate_singleton, List.intercalate_cons_cons] at heq
              exact absurd heq.symm (by simpa using ne_append_separator hpiece')
          | cons next' later' =>
              rw [List.intercalate_cons_cons, List.intercalate_cons_cons] at heq
              simp only [List.append_assoc, List.cons_append] at heq
              obtain ⟨rfl, hrest⟩ := append_separator_inj hpiece hpiece' heq
              rw [ih hlater hlater' (List.cons_ne_nil _ _) (List.cons_ne_nil _ _)
                (List.append_cancel_left hrest)]

/-! ### Ended lines -/

theorem ended_cons (line : List Char) (later : List (List Char)) :
    ended (line :: later) = line ++ '\n' :: ended later := by
  simp [ended]

theorem ended_inj (hlines : ∀ line ∈ textLines, '\n' ∉ line)
    (hlines' : ∀ line ∈ textLines', '\n' ∉ line) (heq : ended textLines = ended textLines') :
    textLines = textLines' := by
  induction textLines generalizing textLines' with
  | nil =>
      cases textLines' with
      | nil => rfl
      | cons line' later' => simp [ended] at heq
  | cons line later ih =>
      cases textLines' with
      | nil => simp [ended] at heq
      | cons line' later' =>
          obtain ⟨hline, hlater⟩ := List.forall_mem_cons.mp hlines
          obtain ⟨hline', hlater'⟩ := List.forall_mem_cons.mp hlines'
          rw [ended_cons, ended_cons] at heq
          obtain ⟨rfl, hrest⟩ := append_separator_inj hline hline' heq
          rw [ih hlater hlater' hrest]

end DispatchAudit.Text
