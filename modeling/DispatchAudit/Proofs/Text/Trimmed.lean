import DispatchAudit.Proofs.Text.Runs

/-!
# Trimmed texts

Trimming takes blanks off both ends and nothing else. A text that begins and ends with other
characters survives it, whatever blanks are put in front and whatever follows it, so the shape of
a line can be read off the trimmed line as well.
-/

namespace DispatchAudit.Text

variable {text core blanks : List Char}

/-- Whether the text has some characters, of which neither the first nor the last is a blank. -/
structure IsSolid (text : List Char) : Prop where
  ne_nil : text ≠ []
  first : ∀ c ∈ text.head?, isBlank c = false
  last : ∀ c ∈ text.getLast?, isBlank c = false

theorem isBlank_head_dropBlanks (text : List Char) :
    ∀ c ∈ (dropBlanks text).head?, isBlank c = false := by
  intro c hc
  have hfirst := List.head?_dropWhile_not isBlank text
  rw [dropBlanks] at hc
  rw [Option.mem_def.mp hc] at hfirst
  simpa using hfirst

theorem dropBlanks_eq_self (hfirst : ∀ c ∈ text.head?, isBlank c = false) :
    dropBlanks text = text := by
  cases text with
  | nil => rfl
  | cons c rest => exact dropBlanks_cons_of_not_blank (hfirst c rfl) rest

theorem isBlank_getLast_trim (text : List Char) :
    ∀ c ∈ (trim text).getLast?, isBlank c = false := by
  rw [trim, List.getLast?_reverse]
  exact isBlank_head_dropBlanks _

theorem trim_append_left (hblank : AllBlank blanks) (text : List Char) :
    trim (blanks ++ text) = trim text := by
  rw [trim, dropBlanks_append hblank, trim]

theorem dropBlanks_of_allBlank (hblank : AllBlank blanks) : dropBlanks blanks = [] := by
  have hdrop := dropBlanks_append hblank []
  rwa [List.append_nil] at hdrop

theorem trim_append_right (hblank : AllBlank blanks) (text : List Char) :
    trim (text ++ blanks) = trim text := by
  have hback : AllBlank blanks.reverse := hblank.perm (List.reverse_perm blanks)
  have hfront : dropBlanks (text ++ blanks) =
      if (dropBlanks text).isEmpty then dropBlanks blanks else dropBlanks text ++ blanks :=
    List.dropWhile_append
  rw [trim, hfront, trim]
  split
  · next hempty => rw [dropBlanks_of_allBlank hblank, List.isEmpty_iff.mp hempty]
  · rw [List.reverse_append, dropBlanks_append hback]

theorem exists_blanks_around_trim (text : List Char) :
    ∃ before after, AllBlank before ∧ AllBlank after ∧ text = before ++ trim text ++ after := by
  obtain ⟨before, hbefore, hfront⟩ := exists_blanks_append_dropBlanks text
  obtain ⟨after, hafter, hback⟩ := exists_blanks_append_dropBlanks (dropBlanks text).reverse
  have hbehind : dropBlanks text = trim text ++ after.reverse := by
    rw [trim, ← List.reverse_append, ← hback, List.reverse_reverse]
  refine ⟨before, after.reverse, hbefore, hafter.perm (List.reverse_perm after), ?_⟩
  rw [List.append_assoc, ← hbehind, ← hfront]

theorem mem_of_mem_trim {c : Char} (hc : c ∈ trim text) : c ∈ text := by
  obtain ⟨before, after, _, _, htext⟩ := exists_blanks_around_trim text
  rw [htext]
  exact List.mem_append_left _ (List.mem_append_right _ hc)

/-- What follows a solid text loses blanks at its own end only. -/
theorem IsSolid.trim_append (hcore : IsSolid core) (rest : List Char) :
    trim (core ++ rest) = core ++ (dropBlanks rest.reverse).reverse := by
  obtain ⟨c, more, rfl⟩ := List.exists_cons_of_ne_nil hcore.ne_nil
  have hfront : dropBlanks (c :: more ++ rest) = c :: more ++ rest :=
    dropBlanks_cons_of_not_blank (hcore.first c rfl) _
  have hback : dropBlanks (c :: more).reverse = (c :: more).reverse := by
    apply dropBlanks_eq_self
    rw [List.head?_reverse]
    exact hcore.last
  rw [trim, hfront, List.reverse_append, dropBlanks, List.dropWhile_append, ← dropBlanks,
    ← dropBlanks, hback]
  split
  · next hempty => simp [List.isEmpty_iff.mp hempty]
  · simp

theorem IsSolid.trim_eq_self (hcore : IsSolid core) : trim core = core := by
  simpa [dropBlanks] using hcore.trim_append []

end DispatchAudit.Text
