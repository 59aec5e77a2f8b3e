import DispatchAudit.Proofs.Json.Grammar
import DispatchAudit.Proofs.Steps

/-!
# Strings that are read

A string is read for its value or only skipped. Skipping accepts what the grammar says. Reading
asks besides that the code units belong to a text, and gives that text. The grammar goes by code
units and the reader by characters, so the text is what the argument goes by: the code units of
its first character are written by one piece of the string, or by two if a pair of escapes writes
a surrogate pair, and reading these gives the character.
-/

namespace DispatchAudit.Json

variable {text rest body digits : List Char} {written : List Nat} {unit : Nat} {c : Char}

/-! ### Code units determine the text -/

theorem toNat_bounds (c : Char) : c.toNat < 0xD800 ∨ 0xDFFF < c.toNat ∧ c.toNat < 0x110000 :=
  c.valid

theorem charUnits_ne_nil (c : Char) : charUnits c ≠ [] := by
  unfold charUnits
  split <;> simp

theorem charUnits_of_lt (hlt : c.toNat < 0x10000) : charUnits c = [c.toNat] := if_pos hlt

theorem charUnits_append_inj {d : Char} {left right : List Nat}
    (heq : charUnits c ++ left = charUnits d ++ right) : c = d ∧ left = right := by
  have hc := toNat_bounds c
  have hd := toNat_bounds d
  rw [← Char.toNat_inj]
  unfold charUnits at heq
  split at heq <;> split at heq <;>
    simp only [List.cons_append, List.nil_append, List.cons.injEq] at heq
  · exact heq
  · omega
  · omega
  · obtain ⟨hhigh, hlow, hrest⟩ := heq
    exact ⟨by omega, hrest⟩

theorem flatMap_charUnits_inj {left right : List Char}
    (heq : left.flatMap charUnits = right.flatMap charUnits) : left = right := by
  induction left generalizing right with
  | nil =>
      cases right with
      | nil => rfl
      | cons d right =>
          rw [List.flatMap_cons, List.flatMap_nil] at heq
          exact absurd (List.append_eq_nil_iff.mp heq.symm).1 (charUnits_ne_nil d)
  | cons c left ih =>
      cases right with
      | nil =>
          rw [List.flatMap_cons, List.flatMap_nil] at heq
          exact absurd (List.append_eq_nil_iff.mp heq).1 (charUnits_ne_nil c)
      | cons d right =>
          rw [List.flatMap_cons, List.flatMap_cons] at heq
          obtain ⟨rfl, hrest⟩ := charUnits_append_inj heq
          rw [ih hrest]

theorem units_inj {left right : String} : units left = units right ↔ left = right := by
  constructor
  · intro heq
    exact String.toList_inj.mp (flatMap_charUnits_inj heq)
  · intro heq
    rw [heq]

/-! ### Escapes -/

theorem hexDigit?_eq_some_iff {digit : Nat} : hexDigit? c = some digit ↔ IsHexDigit c digit := by
  constructor
  · intro hdigit
    have hbelow : c.toNat < 0x80 := by
      simp only [hexDigit?, Bool.and_eq_true, decide_eq_true_eq, Char.le_def,
        UInt32.le_iff_toNat_le] at hdigit
      change c.val.toNat < 0x80
      split at hdigit <;> (try split at hdigit) <;> (try split at hdigit) <;> simp_all <;> omega
    have hall : ∀ n < 0x80, ∀ digit ∈ hexDigit? (Char.ofNat n), digit < 16 ∧
        (Char.ofNat n = Nat.digitChar digit ∨
          Char.ofNat n = (Nat.digitChar digit).toUpper) := by decide +kernel
    have hc := hall c.toNat hbelow
    rw [Char.ofNat_toNat] at hc
    exact hc digit hdigit
  · rintro ⟨hlt, hc⟩
    have hall : ∀ digit < 16, hexDigit? (Nat.digitChar digit) = some digit ∧
        hexDigit? (Nat.digitChar digit).toUpper = some digit := by decide
    rcases hc with rfl | rfl
    · exact (hall digit hlt).1
    · exact (hall digit hlt).2

theorem HexUnit.readHex (hunit : HexUnit digits unit) (rest : List Char) :
    readHex (digits ++ rest) = .ok (unit, rest) := by
  cases hunit with
  | mk ha hb hc hd =>
      simp only [List.cons_append, List.nil_append, Json.readHex, hexDigit?_eq_some_iff.mpr ha,
        hexDigit?_eq_some_iff.mpr hb, hexDigit?_eq_some_iff.mpr hc, hexDigit?_eq_some_iff.mpr hd]

theorem exists_hexUnit_of_readHex (hread : readHex text = .ok (unit, rest)) :
    ∃ digits, HexUnit digits unit ∧ text = digits ++ rest := by
  unfold readHex at hread
  split at hread
  · next a b c d rest =>
      split at hread
      · next p q r s ha hb hc hd =>
          cases hread
          exact ⟨[a, b, c, d], .mk (hexDigit?_eq_some_iff.mp ha) (hexDigit?_eq_some_iff.mp hb)
            (hexDigit?_eq_some_iff.mp hc) (hexDigit?_eq_some_iff.mp hd), rfl⟩
      · cases hread
  · split at hread <;> cases hread

theorem shortEscape?_eq_some_iff {letter : Char} :
    shortEscape? letter = some c ↔ (letter, c) ∈ shortEscapes := by
  simp only [shortEscapes, List.mem_cons, Prod.mk.injEq, List.not_mem_nil, or_false]
  constructor
  · intro hescape
    unfold shortEscape? at hescape
    repeat' split at hescape
    all_goals grind
  · rintro (⟨rfl, rfl⟩ | ⟨rfl, rfl⟩ | ⟨rfl, rfl⟩ | ⟨rfl, rfl⟩ | ⟨rfl, rfl⟩ | ⟨rfl, rfl⟩ |
      ⟨rfl, rfl⟩ | ⟨rfl, rfl⟩) <;> rfl

theorem ne_u_of_mem_shortEscapes {letter : Char} (hescape : (letter, c) ∈ shortEscapes) :
    letter ≠ 'u' := by
  rintro rfl
  have hnone : shortEscape? 'u' = none := by decide
  rw [shortEscape?_eq_some_iff.mpr hescape] at hnone
  cases hnone

/-! ### Strings that are skipped -/

theorem skipEscape_short {letter : Char} (hescape : (letter, c) ∈ shortEscapes)
    (rest : List Char) : skipEscape (letter :: rest) = .ok rest := by
  have hsome : (shortEscape? letter).isSome = true := by
    rw [shortEscape?_eq_some_iff.mpr hescape]
    rfl
  rw [skipEscape, if_pos hsome]
  exact ne_u_of_mem_shortEscapes hescape

theorem skipEscape_unit (hunit : HexUnit digits unit) (rest : List Char) :
    skipEscape ('u' :: digits ++ rest) = .ok rest := by
  rw [List.cons_append, skipEscape, hunit.readHex]
  rfl

theorem exists_piece_of_skipEscape (hskip : skipEscape text = .ok rest) :
    ∃ piece, text = piece ++ rest ∧ ∀ body written, StringBody body written →
      ∃ written', StringBody ('\\' :: piece ++ body) written' := by
  unfold skipEscape at hskip
  split at hskip
  · cases hskip
  · next more =>
      obtain ⟨⟨unit, after⟩, hread, rfl⟩ := map_eq_ok_iff.mp hskip
      obtain ⟨digits, hunit, rfl⟩ := exists_hexUnit_of_readHex hread
      exact ⟨'u' :: digits, rfl, fun body written hbody => ⟨_, .unit hunit hbody⟩⟩
  · next letter more _ =>
      split at hskip
      · next hsome =>
          cases hskip
          obtain ⟨c, hescape⟩ := Option.isSome_iff_exists.mp hsome
          exact ⟨[letter], rfl, fun body written hbody =>
            ⟨_, .short (shortEscape?_eq_some_iff.mp hescape) hbody⟩⟩
      · cases hskip

theorem skipString_plain (hcontrol : 0x20 ≤ c.toNat) (hquote : c ≠ '"') (hbackslash : c ≠ '\\')
    (rest : List Char) : skipString (c :: rest) = skipString rest := by
  rw [skipString, if_neg (Nat.not_lt.mpr hcontrol)]
  · exact hquote
  · exact hbackslash

theorem skipString_escape (hskip : skipEscape text = .ok rest) :
    skipString ('\\' :: text) = skipString rest := by
  rw [skipString]
  split
  · next hstop =>
      rw [hskip] at hstop
      cases hstop
  · next hrest =>
      rw [hskip] at hrest
      cases hrest
      rfl

theorem StringBody.skipString (hbody : StringBody body written) (rest : List Char) :
    skipString (body ++ '"' :: rest) = .ok rest := by
  induction hbody with
  | nil => rw [List.nil_append, Json.skipString]
  | plain hcontrol hquote hbackslash _ ih =>
      rw [List.cons_append, skipString_plain hcontrol hquote hbackslash, ih]
  | short hescape _ ih =>
      rw [List.cons_append, List.cons_append, skipString_escape (skipEscape_short hescape _), ih]
  | @unit digits later _ _ hunit _ ih =>
      have hskip := skipString_escape (skipEscape_unit hunit (later ++ '"' :: rest))
      rw [ih] at hskip
      simpa using hskip

theorem exists_body_of_skipString (hskip : skipString text = .ok rest) :
    ∃ body written, StringBody body written ∧ text = body ++ '"' :: rest := by
  fun_induction skipString text with
  | case1 => cases hskip
  | case2 more =>
      cases hskip
      exact ⟨[], [], .nil, rfl⟩
  | case3 => cases hskip
  | case4 more after hescape _ ih =>
      obtain ⟨body, written, hbody, rfl⟩ := ih hskip
      obtain ⟨piece, rfl, hpiece⟩ := exists_piece_of_skipEscape hescape
      obtain ⟨written', hwhole⟩ := hpiece body written hbody
      exact ⟨_, written', hwhole, by simp⟩
  | case5 => cases hskip
  | case6 c more hquote hbackslash hcontrol ih =>
      obtain ⟨body, written, hbody, rfl⟩ := ih hskip
      exact ⟨c :: body, _, .plain (Nat.not_lt.mp hcontrol) hquote hbackslash hbody, rfl⟩

/-! ### Surrogates -/

theorem isHighSurrogate_iff : isHighSurrogate unit = true ↔ 0xD800 ≤ unit ∧ unit ≤ 0xDBFF := by
  simp [isHighSurrogate]

theorem isLowSurrogate_iff : isLowSurrogate unit = true ↔ 0xDC00 ≤ unit ∧ unit ≤ 0xDFFF := by
  simp [isLowSurrogate]

theorem HexUnit.lt (hunit : HexUnit digits unit) : unit < 0x10000 := by
  cases hunit with
  | mk ha hb hc hd =>
      have := ha.1
      have := hb.1
      have := hc.1
      have := hd.1
      omega

theorem toNat_ofNat_of_valid (hvalid : unit.isValidChar) : (Char.ofNat unit).toNat = unit := by
  rw [Char.ofNat, dif_pos hvalid]
  rfl

theorem charUnits_ofNat (hlt : unit < 0x10000) (hhigh : ¬ isHighSurrogate unit = true)
    (hlow : ¬ isLowSurrogate unit = true) : charUnits (Char.ofNat unit) = [unit] := by
  rw [isHighSurrogate_iff] at hhigh
  rw [isLowSurrogate_iff] at hlow
  have hvalid : unit.isValidChar := by
    unfold Nat.isValidChar
    omega
  have hself := toNat_ofNat_of_valid hvalid
  rw [charUnits_of_lt (by omega), hself]

theorem charUnits_pairedChar {high low : Nat} (hhigh : isHighSurrogate high = true)
    (hlow : isLowSurrogate low = true) : charUnits (pairedChar high low) = [high, low] := by
  obtain ⟨hhigh, hhigh'⟩ := isHighSurrogate_iff.mp hhigh
  obtain ⟨hlow, hlow'⟩ := isLowSurrogate_iff.mp hlow
  have hvalid : ((high - 0xD800) * 0x400 + (low - 0xDC00) + 0x10000).isValidChar := by
    unfold Nat.isValidChar
    omega
  rw [pairedChar, charUnits, toNat_ofNat_of_valid hvalid, if_neg (by omega)]
  simp only [List.cons.injEq, and_true]
  omega

/-! ### Strings that are read -/

theorem exists_hexUnit_of_readLowSurrogate {high : Nat}
    (hread : readLowSurrogate high text = .ok (c, rest)) :
    ∃ digits low, HexUnit digits low ∧ isLowSurrogate low = true ∧ c = pairedChar high low ∧
      text = '\\' :: 'u' :: digits ++ rest := by
  unfold readLowSurrogate at hread
  split at hread
  · cases hread
  · cases hread
  · next more =>
      split at hread
      · cases hread
      · next low after hhex =>
          split at hread
          · next hlow =>
              simp only [Except.ok.injEq, Prod.mk.injEq] at hread
              obtain ⟨hchar, rfl⟩ := hread
              obtain ⟨digits, hunit, rfl⟩ := exists_hexUnit_of_readHex hhex
              exact ⟨digits, low, hunit, hlow, hchar.symm, rfl⟩
          · cases hread
  · cases hread
  · cases hread

theorem exists_piece_of_readEscape (hread : readEscape text = .ok (c, rest)) :
    ∃ piece, text = piece ++ rest ∧ ∀ body written, StringBody body written →
      StringBody ('\\' :: piece ++ body) (charUnits c ++ written) := by
  revert hread
  fun_cases readEscape text <;> intro hread <;> try cases hread
  case case4 high behind hhex _ hhigh =>
    obtain ⟨digits, hunit, rfl⟩ := exists_hexUnit_of_readHex hhex
    obtain ⟨digits', low, hunit', hlow, hchar, rfl⟩ := exists_hexUnit_of_readLowSurrogate hread
    refine ⟨'u' :: digits ++ '\\' :: 'u' :: digits', by simp, ?_⟩
    intro body written hbody
    rw [hchar, charUnits_pairedChar hhigh hlow]
    simpa using StringBody.unit hunit (.unit hunit' hbody)
  case case5 unit hlow hhigh hhex =>
    obtain ⟨digits, hunit, rfl⟩ := exists_hexUnit_of_readHex hhex
    refine ⟨'u' :: digits, rfl, fun body written hbody => ?_⟩
    rw [charUnits_ofNat hunit.lt hhigh hlow]
    exact .unit hunit hbody
  case case6 letter _ hescape =>
    exact ⟨[letter], rfl, fun body written hbody =>
      .short (shortEscape?_eq_some_iff.mp hescape) hbody⟩

theorem exists_body_of_readStringAfter {before chars : List Char}
    (hread : readStringAfter before text = .ok (chars, rest)) :
    ∃ body more, StringBody body (more.flatMap charUnits) ∧ text = body ++ '"' :: rest ∧
      chars = before.reverse ++ more := by
  fun_induction readStringAfter before text with
  | case1 => cases hread
  | case2 before after =>
      cases hread
      exact ⟨[], [], .nil, rfl, (List.append_nil _).symm⟩
  | case3 => cases hread
  | case4 before tail c after hescape _ ih =>
      obtain ⟨body, more, hbody, rfl, rfl⟩ := ih hread
      obtain ⟨piece, rfl, hpiece⟩ := exists_piece_of_readEscape hescape
      exact ⟨_, c :: more, hpiece body _ hbody, by simp, by simp⟩
  | case5 => cases hread
  | case6 before c tail hquote hbackslash hcontrol ih =>
      obtain ⟨body, more, hbody, rfl, rfl⟩ := ih hread
      exact ⟨c :: body, c :: more, .plain (Nat.not_lt.mp hcontrol) hquote hbackslash hbody, rfl,
        by simp⟩

theorem exists_body_of_readString {value : String} (hread : readString text = .ok (value, rest)) :
    ∃ body, StringBody body (units value) ∧ text = body ++ '"' :: rest := by
  obtain ⟨⟨chars, after⟩, hread, heq⟩ := map_eq_ok_iff.mp hread
  obtain ⟨body, more, hbody, rfl, rfl⟩ := exists_body_of_readStringAfter hread
  cases heq
  refine ⟨body, ?_, rfl⟩
  rwa [units, String.toList_ofList]

theorem readStringAfter_plain (hcontrol : 0x20 ≤ c.toNat) (hquote : c ≠ '"')
    (hbackslash : c ≠ '\\') (before rest : List Char) :
    readStringAfter before (c :: rest) = readStringAfter (c :: before) rest := by
  rw [readStringAfter, if_neg (Nat.not_lt.mpr hcontrol)]
  · exact hquote
  · exact hbackslash

theorem readStringAfter_escape (hread : readEscape text = .ok (c, rest)) (before : List Char) :
    readStringAfter before ('\\' :: text) = readStringAfter (c :: before) rest := by
  rw [readStringAfter]
  split
  · next hstop =>
      rw [hread] at hstop
      cases hstop
  · next hrest =>
      rw [hread] at hrest
      cases hrest
      rfl

theorem readEscape_short {letter : Char} (hescape : (letter, c) ∈ shortEscapes)
    (rest : List Char) : readEscape (letter :: rest) = .ok (c, rest) := by
  rw [readEscape, shortEscape?_eq_some_iff.mpr hescape]
  exact ne_u_of_mem_shortEscapes hescape

theorem toNat_eq_of_charUnits (hchar : charUnits c = [unit]) : c.toNat = unit := by
  unfold charUnits at hchar
  split at hchar <;> simp_all

theorem pair_of_charUnits {high low : Nat} (hchar : charUnits c = [high, low]) :
    isHighSurrogate high = true ∧ isLowSurrogate low = true ∧ pairedChar high low = c := by
  have hc := toNat_bounds c
  rw [isHighSurrogate_iff, isLowSurrogate_iff]
  unfold charUnits at hchar
  split at hchar
  · simp at hchar
  · simp only [List.cons.injEq, and_true] at hchar
    obtain ⟨hhigh, hlow⟩ := hchar
    refine ⟨by omega, by omega, ?_⟩
    have hnat : (high - 0xD800) * 0x400 + (low - 0xDC00) + 0x10000 = c.toNat := by omega
    rw [pairedChar, hnat, Char.ofNat_toNat]

theorem not_isLowSurrogate_head {later : List Nat} (hchar : charUnits c ++ written = unit :: later) :
    ¬ isLowSurrogate unit = true := by
  have hc := toNat_bounds c
  rw [isLowSurrogate_iff]
  unfold charUnits at hchar
  split at hchar <;> simp only [List.cons_append, List.nil_append, List.cons.injEq] at hchar <;>
    omega

theorem readEscape_unit (hunit : HexUnit digits unit) (hchar : charUnits c = [unit])
    (rest : List Char) : readEscape ('u' :: digits ++ rest) = .ok (c, rest) := by
  have hself := toNat_eq_of_charUnits hchar
  have hbounds := toNat_bounds c
  have hlow : ¬ isLowSurrogate unit = true := by
    rw [isLowSurrogate_iff]
    omega
  have hhigh : ¬ isHighSurrogate unit = true := by
    rw [isHighSurrogate_iff]
    omega
  rw [List.cons_append, readEscape, hunit.readHex]
  simp only [hlow, hhigh, Bool.false_eq_true, if_false]
  rw [← hself, Char.ofNat_toNat]

theorem readEscape_pair {digits' : List Char} {low : Nat} (hunit : HexUnit digits unit)
    (hunit' : HexUnit digits' low) (hchar : charUnits c = [unit, low]) (rest : List Char) :
    readEscape ('u' :: digits ++ '\\' :: 'u' :: digits' ++ rest) = .ok (c, rest) := by
  obtain ⟨hhigh, hlow, hpair⟩ := pair_of_charUnits hchar
  have hnotLow : ¬ isLowSurrogate unit = true := by
    rw [isHighSurrogate_iff] at hhigh
    rw [isLowSurrogate_iff]
    omega
  rw [List.append_assoc, List.cons_append, readEscape, hunit.readHex]
  simp only [hnotLow, hhigh, Bool.false_eq_true, if_false, if_true]
  rw [List.cons_append, List.cons_append, readLowSurrogate, hunit'.readHex]
  simp only [hlow, if_true, hpair]

/-- Only an escape writes the second half of a surrogate pair on its own. -/
theorem StringBody.exists_unit_of_low (hbody : StringBody body (unit :: written))
    (hlow : isLowSurrogate unit = true) :
    ∃ digits rest, HexUnit digits unit ∧ StringBody rest written ∧
      body = '\\' :: 'u' :: digits ++ rest := by
  generalize hall : unit :: written = all at hbody
  cases hbody with
  | nil => cases hall
  | plain => exact absurd hlow (not_isLowSurrogate_head hall.symm)
  | short => exact absurd hlow (not_isLowSurrogate_head hall.symm)
  | unit hunit hrest =>
      cases hall
      exact ⟨_, _, hunit, hrest, rfl⟩

/-- What writes the code units of a character is read as that character. -/
theorem StringBody.exists_readStringAfter (hbody : StringBody body (charUnits c ++ written)) :
    ∃ rest, StringBody rest written ∧ ∀ before tail,
      readStringAfter before (body ++ tail) = readStringAfter (c :: before) (rest ++ tail) := by
  generalize hall : charUnits c ++ written = all at hbody
  cases hbody with
  | nil => exact absurd (List.append_eq_nil_iff.mp hall).1 (charUnits_ne_nil c)
  | @plain d rest written' hcontrol hquote hbackslash hrest =>
      obtain ⟨rfl, rfl⟩ := charUnits_append_inj hall
      exact ⟨rest, hrest, fun before tail =>
        readStringAfter_plain hcontrol hquote hbackslash before (rest ++ tail)⟩
  | @short letter d rest written' hescape hrest =>
      obtain ⟨rfl, rfl⟩ := charUnits_append_inj hall
      exact ⟨rest, hrest, fun before tail =>
        readStringAfter_escape (readEscape_short hescape (rest ++ tail)) before⟩
  | @unit digits rest first written' hunit hrest =>
      -- the escape writes the whole character, or only half of it and the next one the other half
      by_cases hsingle : c.toNat < 0x10000
      · have hchar := charUnits_of_lt hsingle
        rw [hchar] at hall
        obtain ⟨rfl, rfl⟩ := List.cons.inj hall
        refine ⟨rest, hrest, fun before tail => ?_⟩
        simpa using readStringAfter_escape (readEscape_unit hunit hchar (rest ++ tail)) before
      · obtain ⟨low, hchar⟩ : ∃ low, charUnits c = [first, low] := by
          unfold charUnits at hall ⊢
          rw [if_neg hsingle] at hall ⊢
          obtain ⟨rfl, _⟩ := List.cons.inj hall
          exact ⟨_, rfl⟩
        rw [hchar] at hall
        obtain rfl : low :: written = written' := (List.cons.inj hall).2
        obtain ⟨digits', rest', hunit', hrest', rfl⟩ :=
          hrest.exists_unit_of_low (pair_of_charUnits hchar).2.1
        refine ⟨rest', hrest', fun before tail => ?_⟩
        simpa using
          readStringAfter_escape (readEscape_pair hunit hunit' hchar (rest' ++ tail)) before

theorem StringBody.readStringAfter {chars : List Char}
    (hbody : StringBody body (chars.flatMap charUnits)) (before rest : List Char) :
    readStringAfter before (body ++ '"' :: rest) = .ok (before.reverse ++ chars, rest) := by
  induction chars generalizing body before with
  | nil =>
      generalize hnone : [].flatMap charUnits = none at hbody
      cases hbody with
      | nil => rw [List.nil_append, Json.readStringAfter, List.append_nil]
      | plain => exact absurd (List.append_eq_nil_iff.mp hnone.symm).1 (charUnits_ne_nil _)
      | short => exact absurd (List.append_eq_nil_iff.mp hnone.symm).1 (charUnits_ne_nil _)
      | unit => cases hnone
  | cons c chars ih =>
      rw [List.flatMap_cons] at hbody
      obtain ⟨later, hlater, hread⟩ := hbody.exists_readStringAfter
      rw [hread, ih hlater]
      simp

theorem StringBody.readString {value : String} (hbody : StringBody body (units value))
    (rest : List Char) : readString (body ++ '"' :: rest) = .ok (value, rest) := by
  rw [Json.readString, hbody.readStringAfter]
  simp [Except.map]

end DispatchAudit.Json
