import DispatchAudit.Json.Skip
import DispatchAudit.Proofs.Json.Numbers
import DispatchAudit.Proofs.Json.Strings

/-!
# Scalars that are skipped

A value that is neither an array nor an object is skipped by its first character. A number is the
only one that has to be kept apart from what follows it.
-/

namespace DispatchAudit.Json

variable {text rest blanks body : List Char} {written : List Nat} {c : Char}

/-! ### Words and colons -/

theorem readWord_append (word rest : List Char) : readWord word (word ++ rest) = .ok rest := by
  induction word with
  | nil => rfl
  | cons c word ih => rw [List.cons_append, readWord, if_pos rfl, ih]

theorem eq_append_of_readWord {word : List Char} (hread : readWord word text = .ok rest) :
    text = word ++ rest := by
  induction word generalizing text with
  | nil =>
      cases hread
      rfl
  | cons expected more ih =>
      cases text with
      | nil => cases hread
      | cons c tail =>
          simp only [readWord] at hread
          split at hread
          · next hc => rw [hc, ih hread, List.cons_append]
          · cases hread

theorem exists_blanks_of_skipColon (hskip : skipColon text = .ok rest) :
    ∃ blanks, AllSpace blanks ∧ text = blanks ++ ':' :: rest := by
  unfold skipColon at hskip
  split at hskip
  · cases hskip
  · next c more hspace =>
      split at hskip
      · next hc =>
          cases hskip
          rw [hc] at hspace
          exact exists_blanks_of_skipSpace hspace
      · cases hskip

theorem skipColon_append (hblanks : AllSpace blanks) (rest : List Char) :
    skipColon (blanks ++ ':' :: rest) = .ok rest := by
  rw [skipColon, skipSpace_append hblanks, skipSpace_cons (by decide)]
  rfl

/-! ### Scalars -/

theorem exists_scalar_of_skipScalar (hskip : skipScalar text = .ok rest) :
    ∃ document raw, Spells (.value document) raw ∧ text = raw ++ rest := by
  revert hskip
  fun_cases skipScalar text <;> intro hskip
  case case1 => cases hskip
  case case2 => exact ⟨_, _, .null, by simp [eq_append_of_readWord hskip]⟩
  case case3 => exact ⟨_, _, .true, by simp [eq_append_of_readWord hskip]⟩
  case case4 => exact ⟨_, _, .false, by simp [eq_append_of_readWord hskip]⟩
  case case5 =>
    obtain ⟨body, written, hbody, rfl⟩ := exists_body_of_skipString hskip
    exact ⟨_, _, .string hbody, by simp⟩
  case case6 =>
    obtain ⟨whole, fraction, exponent, hwhole, hfraction, hexponent, rfl⟩ :=
      exists_number_of_skipNumber hskip
    have hnumber : IsNumber (['-'] ++ whole ++ fraction ++ exponent) :=
      ⟨['-'], whole, fraction, exponent, .inr rfl, hwhole, hfraction, hexponent, rfl⟩
    exact ⟨_, _, .number hnumber, by simp⟩
  case case7 =>
    obtain ⟨whole, fraction, exponent, hwhole, hfraction, hexponent, htext⟩ :=
      exists_number_of_skipNumber hskip
    have hnumber : IsNumber (whole ++ fraction ++ exponent) :=
      ⟨[], whole, fraction, exponent, .inl rfl, hwhole, hfraction, hexponent, rfl⟩
    exact ⟨_, _, .number hnumber, htext⟩
  case case8 => cases hskip

/-- Whether the text is skipped as one scalar, from a first character that no blank and no bracket
can be taken for. -/
structure IsScalar (text : List Char) : Prop where
  exists_cons : ∃ c more, text = c :: more ∧ isSpace c = false ∧ c ∉ ['[', ']', '\x7b', '\x7d']
  skip : ∀ rest, EndsNumber rest → skipScalar (text ++ rest) = .ok rest

theorem StringBody.isScalar (hbody : StringBody body written) :
    IsScalar ('"' :: body ++ ['"']) where
  exists_cons := ⟨'"', body ++ ['"'], rfl, by decide, by decide⟩
  skip rest _ := by simpa [skipScalar] using hbody.skipString rest

theorem IsNumber.isScalar (hnumber : IsNumber text) : IsScalar text := by
  obtain ⟨sign, whole, fraction, exponent, hsign, hwhole, hfraction, hexponent, rfl⟩ := hnumber
  rcases hsign with rfl | rfl
  · obtain ⟨c, more, rfl, hc, _⟩ := hwhole.exists_cons
    have hne : ∀ d : Char, d.isDigit = false → c ≠ d := by
      rintro d hd rfl
      rw [hc] at hd
      cases hd
    constructor
    · exact ⟨c, more ++ fraction ++ exponent, rfl, by simp [isSpace, hne], by simp [hne]⟩
    · intro rest hends
      simpa [skipScalar, hc, hne] using skipNumber_append hwhole hfraction hexponent hends
  · constructor
    · exact ⟨'-', whole ++ fraction ++ exponent, rfl, by decide, by decide⟩
    · intro rest hends
      simpa [skipScalar] using skipNumber_append hwhole hfraction hexponent hends

theorem isScalar_word {first : Char} {word : List Char} (hfirst : first ∈ ['n', 't', 'f'])
    (hskip : ∀ rest, skipScalar (first :: (word ++ rest)) = .ok rest) :
    IsScalar (first :: word) := by
  constructor
  · refine ⟨first, word, rfl, ?_⟩
    simp only [List.mem_cons, List.not_mem_nil, or_false] at hfirst
    rcases hfirst with rfl | rfl | rfl <;> decide
  · exact fun rest _ => hskip rest

theorem isScalar_null : IsScalar ['n', 'u', 'l', 'l'] :=
  isScalar_word (by decide) fun rest => readWord_append ['u', 'l', 'l'] rest

theorem isScalar_true : IsScalar ['t', 'r', 'u', 'e'] :=
  isScalar_word (by decide) fun rest => readWord_append ['r', 'u', 'e'] rest

theorem isScalar_false : IsScalar ['f', 'a', 'l', 's', 'e'] :=
  isScalar_word (by decide) fun rest => readWord_append ['a', 'l', 's', 'e'] rest

theorem IsScalar.exists_head (hscalar : IsScalar text) :
    ∃ c more, text = c :: more ∧ isSpace c = false ∧ c ≠ ']' := by
  obtain ⟨c, more, rfl, hc, hbracket⟩ := hscalar.exists_cons
  refine ⟨c, more, rfl, hc, ?_⟩
  rintro rfl
  exact hbracket (by decide)

end DispatchAudit.Json
