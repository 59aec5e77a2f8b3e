import DispatchAudit.Json.Number
import DispatchAudit.Proofs.Json.Grammar

/-!
# Numbers that are skipped

A number has no closing character, so it ends where it cannot go on, and skipping it takes as
much as there is. A text that cannot go on a number is therefore what every number of the grammar
must be followed by to be skipped as a whole; whatever is skipped is a number in any case.
-/

namespace DispatchAudit.Json

variable {text rest digits fraction exponent whole : List Char} {c : Char}

def EndsDigits (text : List Char) : Prop := ∀ c ∈ text.head?, c.isDigit = false

/-- Whether a number in front of the text ends there. -/
def EndsNumber (text : List Char) : Prop :=
  ∀ c ∈ text.head?, c.isDigit = false ∧ c ≠ '.' ∧ c ≠ 'e' ∧ c ≠ 'E'

theorem EndsNumber.endsDigits (hends : EndsNumber text) : EndsDigits text :=
  fun c hc => (hends c hc).1

/-! ### Digits -/

theorem endsDigits_cons (hc : c.isDigit = false) (rest : List Char) : EndsDigits (c :: rest) := by
  intro d hd
  cases hd
  exact hc

theorem leadingDigits_append (hdigits : ∀ c ∈ digits, c.isDigit = true) (hends : EndsDigits rest) :
    leadingDigits (digits ++ rest) = digits := by
  rw [leadingDigits, List.takeWhile_append_of_pos hdigits]
  cases rest with
  | nil => simp
  | cons c more => simp [hends c rfl]

theorem afterDigits_append (hdigits : ∀ c ∈ digits, c.isDigit = true) (hends : EndsDigits rest) :
    afterDigits (digits ++ rest) = rest := by
  rw [afterDigits, List.dropWhile_append_of_pos hdigits]
  cases rest with
  | nil => rfl
  | cons c more => simp [hends c rfl]

theorem leadingDigits_append_afterDigits (text : List Char) :
    leadingDigits text ++ afterDigits text = text :=
  List.takeWhile_append_dropWhile

theorem isDigit_of_mem_leadingDigits (hc : c ∈ leadingDigits text) : c.isDigit = true :=
  List.all_eq_true.mp List.all_takeWhile c hc

theorem isDigits_cons_leadingDigits (hc : c.isDigit = true) (rest : List Char) :
    IsDigits (c :: leadingDigits rest) where
  ne_nil := List.cons_ne_nil _ _
  isDigit d hd := by
    rcases List.mem_cons.mp hd with rfl | hd
    · exact hc
    · exact isDigit_of_mem_leadingDigits hd

/-! ### Exponents -/

theorem exists_unsigned_of_skipExponent (hskip : skipExponent text = .ok rest) :
    ∃ sign c more, (sign = [] ∨ sign = ['+'] ∨ sign = ['-']) ∧ c.isDigit = true ∧
      afterDigits more = rest ∧ text = sign ++ c :: more := by
  unfold skipExponent at hskip
  simp only at hskip
  split at hskip
  · cases hskip
  · next c more hunsigned =>
      split at hskip
      · next hc =>
          cases hskip
          split at hunsigned
          · exact ⟨['+'], c, more, .inr (.inl rfl), hc, rfl, by rw [hunsigned]; rfl⟩
          · exact ⟨['-'], c, more, .inr (.inr rfl), hc, rfl, by rw [hunsigned]; rfl⟩
          · exact ⟨[], c, more, .inl rfl, hc, rfl, hunsigned⟩
      · cases hskip

theorem exists_exponent_of_skipExponent {letter : Char} (hletter : letter = 'e' ∨ letter = 'E')
    (hskip : skipExponent text = .ok rest) :
    ∃ exponent, IsExponent exponent ∧ letter :: text = exponent ++ rest := by
  obtain ⟨sign, c, more, hsign, hc, rfl, rfl⟩ := exists_unsigned_of_skipExponent hskip
  refine ⟨letter :: sign ++ c :: leadingDigits more,
    .inr ⟨letter, sign, _, hletter, hsign, isDigits_cons_leadingDigits hc more, rfl⟩, ?_⟩
  simp [leadingDigits_append_afterDigits]

theorem exists_exponent_of_skipExponentPart (hskip : skipExponentPart text = .ok rest) :
    ∃ exponent, IsExponent exponent ∧ text = exponent ++ rest := by
  unfold skipExponentPart at hskip
  split at hskip
  · exact exists_exponent_of_skipExponent (.inl rfl) hskip
  · exact exists_exponent_of_skipExponent (.inr rfl) hskip
  · cases hskip
    exact ⟨[], .inl rfl, rfl⟩

theorem IsDigits.exists_cons (hdigits : IsDigits digits) :
    ∃ c more, digits = c :: more ∧ c.isDigit = true ∧ ∀ d ∈ more, d.isDigit = true := by
  obtain ⟨c, more, rfl⟩ := List.exists_cons_of_ne_nil hdigits.ne_nil
  obtain ⟨hc, hmore⟩ := List.forall_mem_cons.mp hdigits.isDigit
  exact ⟨c, more, rfl, hc, hmore⟩

theorem skipExponent_append {sign : List Char} (hsign : sign = [] ∨ sign = ['+'] ∨ sign = ['-'])
    (hdigits : IsDigits digits) (hends : EndsDigits rest) :
    skipExponent (sign ++ digits ++ rest) = .ok rest := by
  obtain ⟨c, more, rfl, hc, hmore⟩ := hdigits.exists_cons
  have hafter := afterDigits_append hmore hends
  have hplus : c ≠ '+' := by
    rintro rfl
    cases hc
  have hminus : c ≠ '-' := by
    rintro rfl
    cases hc
  rcases hsign with rfl | rfl | rfl <;> simp [skipExponent, hc, hafter, hplus, hminus]

theorem IsExponent.skipExponentPart (hexponent : IsExponent exponent) (hends : EndsNumber rest) :
    skipExponentPart (exponent ++ rest) = .ok rest := by
  rcases hexponent with rfl | ⟨letter, sign, digits, hletter, hsign, hdigits, rfl⟩
  · rw [List.nil_append]
    unfold Json.skipExponentPart
    split
    · exact absurd rfl (hends 'e' rfl).2.2.1
    · exact absurd rfl (hends 'E' rfl).2.2.2
    · rfl
  · have hskip := skipExponent_append hsign hdigits hends.endsDigits
    rw [List.append_assoc] at hskip
    rcases hletter with rfl | rfl <;> simpa [Json.skipExponentPart] using hskip

/-! ### Whole numbers and fractions -/

theorem IsExponent.head?_append (hexponent : IsExponent exponent) (hends : EndsNumber rest) :
    ∀ c ∈ (exponent ++ rest).head?, c.isDigit = false ∧ c ≠ '.' := by
  intro c hc
  rcases hexponent with rfl | ⟨letter, sign, digits, hletter, _, _, rfl⟩
  · exact ⟨(hends c hc).1, (hends c hc).2.1⟩
  · cases hc
    rcases hletter with rfl | rfl <;> decide

theorem isWhole_cons_leadingDigits (hc : ¬ (!c.isDigit) = true)
    (hzero : ¬ (c = '0' && rest.head?.any Char.isDigit) = true) :
    IsWhole (c :: leadingDigits rest) := by
  by_cases hfirst : c = '0'
  · have hends : EndsDigits rest := by
      intro d hd
      rw [Option.mem_def.mp hd] at hzero
      simpa [hfirst] using hzero
    have hnone : leadingDigits rest = [] :=
      leadingDigits_append (fun _ hmem => absurd hmem List.not_mem_nil) hends
    exact .inl (by rw [hfirst, hnone])
  · refine .inr ⟨isDigits_cons_leadingDigits (by simpa using hc) rest, ?_⟩
    intro hhead
    exact hfirst (Option.some.inj hhead)

theorem exists_number_of_skipNumber (hskip : skipNumber text = .ok rest) :
    ∃ whole fraction exponent, IsWhole whole ∧ IsFraction fraction ∧ IsExponent exponent ∧
      text = whole ++ fraction ++ exponent ++ rest := by
  revert hskip
  fun_cases skipNumber text <;> intro hskip <;> try cases hskip
  case case5 c tail hdigit hzero more hpoint hsome =>
    have hdigits : IsDigits (leadingDigits more) :=
      ⟨by simpa using hsome, fun _ => isDigit_of_mem_leadingDigits⟩
    have htail := leadingDigits_append_afterDigits tail
    have hmore := leadingDigits_append_afterDigits more
    obtain ⟨exponent, hexponent, hrest⟩ := exists_exponent_of_skipExponentPart hskip
    refine ⟨c :: leadingDigits tail, '.' :: leadingDigits more, exponent,
      isWhole_cons_leadingDigits hdigit hzero, .inr ⟨_, hdigits, rfl⟩, hexponent, ?_⟩
    rw [hrest] at hmore
    rw [hpoint, ← hmore] at htail
    simp only [List.cons_append, List.append_assoc, htail]
  case case6 c tail hdigit hzero _ =>
    have htail := leadingDigits_append_afterDigits tail
    obtain ⟨exponent, hexponent, hrest⟩ := exists_exponent_of_skipExponentPart hskip
    refine ⟨c :: leadingDigits tail, [], exponent, isWhole_cons_leadingDigits hdigit hzero,
      .inl rfl, hexponent, ?_⟩
    rw [hrest] at htail
    simp only [List.cons_append, List.append_assoc, List.nil_append, htail]

theorem IsWhole.exists_cons (hwhole : IsWhole whole) :
    ∃ c more, whole = c :: more ∧ c.isDigit = true ∧ (∀ d ∈ more, d.isDigit = true) ∧
      (c = '0' → more = []) := by
  rcases hwhole with rfl | ⟨hdigits, hhead⟩
  · exact ⟨'0', [], rfl, rfl, fun _ hmem => absurd hmem List.not_mem_nil, fun _ => rfl⟩
  · obtain ⟨c, more, rfl, hc, hmore⟩ := hdigits.exists_cons
    refine ⟨c, more, rfl, hc, hmore, ?_⟩
    rintro rfl
    exact absurd rfl hhead

theorem noZero_in_front {more : List Char} (hzero : c = '0' → more = [])
    (hends : EndsDigits rest) :
    ¬ (c = '0' && (more ++ rest).head?.any Char.isDigit) = true := by
  simp only [Bool.and_eq_true, decide_eq_true_eq, Option.any_eq_true, not_and]
  rintro hfirst ⟨d, hd, hdigit⟩
  rw [hzero hfirst, List.nil_append] at hd
  rw [hends d hd] at hdigit
  cases hdigit

theorem IsWhole.skipNumber_of_no_point (hwhole : IsWhole whole)
    (hends : ∀ c ∈ rest.head?, c.isDigit = false ∧ c ≠ '.') :
    skipNumber (whole ++ rest) = skipExponentPart rest := by
  obtain ⟨c, more, rfl, hc, hmore, hzero⟩ := hwhole.exists_cons
  have hleading := noZero_in_front hzero fun d hd => (hends d hd).1
  have hafter := afterDigits_append hmore fun d hd => (hends d hd).1
  rw [List.cons_append, skipNumber, if_neg (by simp [hc]), if_neg hleading, hafter]
  split
  · exact absurd rfl (hends '.' rfl).2
  · rfl

theorem IsWhole.skipNumber_of_point (hwhole : IsWhole whole) (hdigits : IsDigits digits)
    (hends : EndsDigits rest) :
    skipNumber (whole ++ '.' :: (digits ++ rest)) = skipExponentPart rest := by
  obtain ⟨c, more, rfl, hc, hmore, hzero⟩ := hwhole.exists_cons
  have hpoint : EndsDigits ('.' :: (digits ++ rest)) := endsDigits_cons (by decide) _
  have hsome : ¬ (leadingDigits (digits ++ rest)).isEmpty = true := by
    rw [leadingDigits_append hdigits.isDigit hends, List.isEmpty_iff]
    exact hdigits.ne_nil
  rw [List.cons_append, skipNumber, if_neg (by simp [hc]), if_neg (noZero_in_front hzero hpoint),
    afterDigits_append hmore hpoint]
  simp only
  rw [if_neg hsome, afterDigits_append hdigits.isDigit hends]

theorem skipNumber_append (hwhole : IsWhole whole) (hfraction : IsFraction fraction)
    (hexponent : IsExponent exponent) (hends : EndsNumber rest) :
    skipNumber (whole ++ fraction ++ exponent ++ rest) = .ok rest := by
  have hhead := hexponent.head?_append hends
  rw [List.append_assoc, List.append_assoc]
  rcases hfraction with rfl | ⟨digits, hdigits, rfl⟩
  · rw [List.nil_append, hwhole.skipNumber_of_no_point hhead, hexponent.skipExponentPart hends]
  · rw [List.cons_append, hwhole.skipNumber_of_point hdigits fun c hc => (hhead c hc).1,
      hexponent.skipExponentPart hends]

end DispatchAudit.Json
