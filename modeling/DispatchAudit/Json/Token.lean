import DispatchAudit.Json.Stop

/-!
# The tokens of a JSON text

Blanks, words, strings and colons, each read from the front of a text. A string can be read for
its value or only skipped. Skipping checks less: a surrogate may stand alone.
-/

namespace DispatchAudit.Json

def isSpace (c : Char) : Bool := c == ' ' || c == '\t' || c == '\n' || c == '\r'

def skipSpace (text : List Char) : List Char := text.dropWhile isSpace

/-- The text after the given characters. -/
def readWord : List Char → List Char → Except Stop (List Char)
  | [], text => .ok text
  | _ :: _, [] => .error (.before .endInValue [])
  | expected :: more, c :: rest =>
    if c = expected then readWord more rest else .error (.on .expectedWord (c :: rest))

def hexDigit? (c : Char) : Option Nat :=
  if '0' ≤ c && c ≤ '9' then some (c.toNat - 48)
  else if 'a' ≤ c && c ≤ 'f' then some (c.toNat - 87)
  else if 'A' ≤ c && c ≤ 'F' then some (c.toNat - 55)
  else none

/-- The number that four hexadecimal digits write. -/
def readHex : List Char → Reading Nat
  | a :: b :: c :: d :: rest =>
    match hexDigit? a, hexDigit? b, hexDigit? c, hexDigit? d with
    | some p, some q, some r, some s => .ok (((p * 16 + q) * 16 + r) * 16 + s, rest)
    | _, _, _, _ => .error ⟨.invalidEscape, a :: b :: c :: d :: rest, 4⟩
  | text =>
    if byteCount text < 4 then .error (.before .endInString [])
    else .error ⟨.invalidEscape, text, 4⟩

def isHighSurrogate (unit : Nat) : Bool := Nat.ble 0xD800 unit && Nat.ble unit 0xDBFF

def isLowSurrogate (unit : Nat) : Bool := Nat.ble 0xDC00 unit && Nat.ble unit 0xDFFF

def pairedChar (high low : Nat) : Char :=
  Char.ofNat ((high - 0xD800) * 0x400 + (low - 0xDC00) + 0x10000)

/-- The character that a surrogate pair stands for, whose first half is read already. -/
def readLowSurrogate (high : Nat) : List Char → Reading Char
  | [] => .error (.before .endInString [])
  | ['\\'] => .error (.before .endInString [])
  | '\\' :: 'u' :: rest =>
    match readHex rest with
    | .error stop => .error stop
    | .ok (low, after) =>
      if isLowSurrogate low then .ok (pairedChar high low, after)
      else .error (.before .loneSurrogate after)
  | '\\' :: rest => .error (.on .halfSurrogatePair rest)
  | text => .error (.on .halfSurrogatePair text)

/-- The character that an escape of one letter stands for. -/
def shortEscape? (c : Char) : Option Char :=
  if c = '"' || c = '\\' || c = '/' then some c
  else if c = 'b' then some '\x08'
  else if c = 'f' then some '\x0c'
  else if c = 'n' then some '\n'
  else if c = 'r' then some '\r'
  else if c = 't' then some '\t'
  else none

/-- The character of an escape, whose backslash is read already. -/
def readEscape : List Char → Reading Char
  | [] => .error (.before .endInString [])
  | 'u' :: rest =>
    match readHex rest with
    | .error stop => .error stop
    | .ok (unit, after) =>
      if isLowSurrogate unit then .error (.before .loneSurrogate after)
      else if isHighSurrogate unit then readLowSurrogate unit after
      else .ok (Char.ofNat unit, after)
  | c :: rest =>
    match shortEscape? c with
    | some escaped => .ok (escaped, rest)
    | none => .error (.on .invalidEscape (c :: rest))

/-- The text after an escape, whose backslash is read already. -/
def skipEscape : List Char → Except Stop (List Char)
  | [] => .error (.before .endInString [])
  | 'u' :: rest => (readHex rest).map Prod.snd
  | c :: rest =>
    if (shortEscape? c).isSome then .ok rest else .error (.on .invalidEscape (c :: rest))

theorem length_of_readHex {text rest : List Char} {unit : Nat}
    (h : readHex text = .ok (unit, rest)) : rest.length < text.length := by
  unfold readHex at h
  split at h
  · split at h
    · cases h
      simp only [List.length_cons]
      omega
    · cases h
  · split at h <;> cases h

theorem length_of_readLowSurrogate {high : Nat} {text rest : List Char} {c : Char}
    (h : readLowSurrogate high text = .ok (c, rest)) : rest.length < text.length := by
  unfold readLowSurrogate at h
  split at h
  · cases h
  · cases h
  · split at h
    · cases h
    · rename_i hhex
      have := length_of_readHex hhex
      simp only [List.length_cons]
      split at h
      · simp only [Except.ok.injEq, Prod.mk.injEq] at h
        rw [← h.2]
        omega
      · cases h
  · cases h
  · cases h

theorem length_of_readEscape {text rest : List Char} {c : Char}
    (h : readEscape text = .ok (c, rest)) : rest.length < text.length := by
  unfold readEscape at h
  split at h
  · cases h
  · split at h
    · cases h
    · rename_i hhex
      have := length_of_readHex hhex
      simp only [List.length_cons]
      split at h
      · cases h
      · split at h
        · have := length_of_readLowSurrogate h
          omega
        · cases h
          omega
  · split at h
    · cases h
      simp only [List.length_cons]
      omega
    · cases h

theorem length_of_skipEscape {text rest : List Char} (h : skipEscape text = .ok rest) :
    rest.length < text.length := by
  unfold skipEscape at h
  split at h
  · cases h
  · rename_i more
    cases hhex : readHex more with
    | error stop =>
      rw [hhex] at h
      cases h
    | ok found =>
      obtain ⟨unit, after⟩ := found
      have := length_of_readHex hhex
      rw [hhex] at h
      cases h
      simp only [List.length_cons]
      omega
  · split at h
    · cases h
      simp only [List.length_cons]
      omega
    · cases h

/-- The characters of a string up to its closing quote, after those read before, the last of
which comes first. -/
def readStringAfter (before : List Char) (text : List Char) : Reading (List Char) :=
  match text with
  | [] => .error (.before .endInString [])
  | '"' :: rest => .ok (before.reverse, rest)
  | '\\' :: rest =>
    match h : readEscape rest with
    | .error stop => .error stop
    | .ok (c, after) =>
      have := length_of_readEscape h
      readStringAfter (c :: before) after
  | c :: rest =>
    if c.toNat < 0x20 then .error (.on .controlCharacter (c :: rest))
    else readStringAfter (c :: before) rest
termination_by text.length
decreasing_by all_goals simp only [List.length_cons]; omega

/-- The string whose opening quote is read already. -/
def readString (text : List Char) : Reading String :=
  (readStringAfter [] text).map fun (chars, rest) => (String.ofList chars, rest)

/-- The text after a string whose opening quote is read already. -/
def skipString (text : List Char) : Except Stop (List Char) :=
  match text with
  | [] => .error (.before .endInString [])
  | '"' :: rest => .ok rest
  | '\\' :: rest =>
    match h : skipEscape rest with
    | .error stop => .error stop
    | .ok after =>
      have := length_of_skipEscape h
      skipString after
  | c :: rest =>
    if c.toNat < 0x20 then .error (.before .controlCharacter (c :: rest)) else skipString rest
termination_by text.length
decreasing_by all_goals simp only [List.length_cons]; omega

/-- The text after the colon that follows a key. -/
def skipColon (text : List Char) : Except Stop (List Char) :=
  match skipSpace text with
  | [] => .error (.before .endInObject [])
  | c :: rest => if c = ':' then .ok rest else .error (.on .expectedColon (c :: rest))

theorem length_skipSpace_le (text : List Char) : (skipSpace text).length ≤ text.length :=
  (List.dropWhile_sublist _).length_le

theorem length_of_skipSpace {text rest : List Char} {c : Char}
    (h : skipSpace text = c :: rest) : rest.length < text.length := by
  have := length_skipSpace_le text
  rw [h] at this
  exact this

theorem length_of_readWord {word text rest : List Char} (h : readWord word text = .ok rest) :
    rest.length ≤ text.length := by
  induction word generalizing text with
  | nil =>
    cases h
    exact Nat.le_refl _
  | cons expected more ih =>
    cases text with
    | nil => cases h
    | cons c tail =>
      simp only [readWord] at h
      split at h
      · exact Nat.le_succ_of_le (ih h)
      · cases h

theorem length_of_readStringAfter {before text rest chars : List Char}
    (h : readStringAfter before text = .ok (chars, rest)) : rest.length < text.length := by
  fun_induction readStringAfter before text with
  | case1 => cases h
  | case2 before rest =>
    cases h
    simp
  | case3 => cases h
  | case4 before tail c after hescape hlength ih =>
    have := ih h
    simp only [List.length_cons]
    omega
  | case5 => cases h
  | case6 before c tail _ _ _ ih =>
    have := ih h
    simp only [List.length_cons]
    omega

theorem length_of_readString {text rest : List Char} {value : String}
    (h : readString text = .ok (value, rest)) : rest.length < text.length := by
  unfold readString at h
  cases hread : readStringAfter [] text with
  | error stop => simp [hread, Except.map] at h
  | ok found =>
    obtain ⟨chars, after⟩ := found
    simp only [hread, Except.map, Except.ok.injEq, Prod.mk.injEq] at h
    have := length_of_readStringAfter hread
    rw [← h.2]
    exact this

theorem length_of_skipString {text rest : List Char} (h : skipString text = .ok rest) :
    rest.length < text.length := by
  fun_induction skipString text with
  | case1 => cases h
  | case2 rest =>
    cases h
    simp
  | case3 => cases h
  | case4 tail after hescape hlength ih =>
    have := ih h
    simp only [List.length_cons]
    omega
  | case5 => cases h
  | case6 c tail _ _ _ ih =>
    have := ih h
    simp only [List.length_cons]
    omega

theorem length_of_skipColon {text rest : List Char} (h : skipColon text = .ok rest) :
    rest.length < text.length := by
  unfold skipColon at h
  split at h
  · cases h
  · rename_i c tail hskip
    split at h
    · cases h
      exact length_of_skipSpace hskip
    · cases h

end DispatchAudit.Json
