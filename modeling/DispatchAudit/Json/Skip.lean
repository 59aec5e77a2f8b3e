import DispatchAudit.Json.Number

/-!
# Skipping a JSON value

A value that nobody asks for is only checked for its form. The brackets that are open are kept
in a list, the innermost first, so values may be nested to any depth.
-/

namespace DispatchAudit.Json

inductive Bracket where
  | square
  | curly
deriving DecidableEq, Repr, Inhabited

namespace Bracket

def closing : Bracket → Char
  | square => ']'
  | curly => '\x7d'

/-- What is wrong if the text ends inside the bracket. -/
def atEnd : Bracket → Cause
  | square => .endInList
  | curly => .endInObject

/-- What is wrong if an item is followed by neither a comma nor the closing bracket. -/
def afterItem : Bracket → Cause
  | square => .expectedListEnd
  | curly => .expectedObjectEnd

end Bracket

/-- The text after a value that is neither an array nor an object. -/
def skipScalar : List Char → Except Stop (List Char)
  | [] => .error (.before .endInValue [])
  | c :: rest =>
    if c = 'n' then readWord ['u', 'l', 'l'] rest
    else if c = 't' then readWord ['r', 'u', 'e'] rest
    else if c = 'f' then readWord ['a', 'l', 's', 'e'] rest
    else if c = '"' then skipString rest
    else if c = '-' then skipNumber rest
    else if c.isDigit then skipNumber (c :: rest)
    else .error (.on .expectedValue (c :: rest))

/-- The text after the key and the colon in front of an item, for a bracket that asks for them. -/
def skipKey (bracket : Bracket) (text : List Char) : Except Stop (List Char) :=
  match bracket with
  | .square => .ok text
  | .curly =>
    match skipSpace text with
    | [] => .error (.before .endInObject [])
    | c :: rest =>
      if c = '"' then (skipString rest).bind skipColon
      else .error (.on .keyNotString (c :: rest))

/-- What comes next inside the open brackets. -/
inductive Awaited where
  /-- A value. -/
  | value
  /-- What follows an item: a comma or the closing bracket. -/
  | separator
  /-- What follows an opening bracket: an item or the closing bracket. -/
  | firstItem
deriving DecidableEq, Repr, Inhabited

/-- The order in which what is awaited can follow without reading on. -/
def Awaited.rank : Awaited → Nat
  | value => 0
  | separator => 1
  | firstItem => 2

theorem length_of_skipScalar {text rest : List Char} (h : skipScalar text = .ok rest) :
    rest.length < text.length := by
  unfold skipScalar at h
  split at h
  · cases h
  · rename_i c tail
    simp only [List.length_cons]
    split at h
    · exact Nat.lt_succ_of_le (length_of_readWord h)
    · split at h
      · exact Nat.lt_succ_of_le (length_of_readWord h)
      · split at h
        · exact Nat.lt_succ_of_le (length_of_readWord h)
        · split at h
          · exact Nat.lt_succ_of_lt (length_of_skipString h)
          · split at h
            · exact Nat.lt_succ_of_lt (length_of_skipNumber h)
            · split at h
              · exact length_of_skipNumber h
              · cases h

theorem length_of_skipKey {bracket : Bracket} {text rest : List Char}
    (h : skipKey bracket text = .ok rest) : rest.length ≤ text.length := by
  unfold skipKey at h
  split at h
  · cases h
    exact Nat.le_refl _
  · have hle := length_skipSpace_le text
    split at h
    · cases h
    · rename_i c tail hskip
      rw [hskip] at hle
      simp only [List.length_cons] at hle
      split at h
      · cases hstring : skipString tail with
        | error stop =>
          rw [hstring] at h
          cases h
        | ok after =>
          rw [hstring] at h
          have := length_of_skipString hstring
          have := length_of_skipColon h
          omega
      · cases h

/-- The text after what is awaited inside the open brackets, and after their ends. -/
def skipAwaited (opened : List Bracket) (awaited : Awaited) (text : List Char) :
    Except Stop (List Char) :=
  match awaited with
  | .value =>
    match htext : skipSpace text with
    | '[' :: rest =>
      have := length_of_skipSpace htext
      skipAwaited (.square :: opened) .firstItem rest
    | '\x7b' :: rest =>
      have := length_of_skipSpace htext
      skipAwaited (.curly :: opened) .firstItem rest
    | scalar =>
      match h : skipScalar scalar with
      | .error stop => .error stop
      | .ok rest =>
        have := Nat.lt_of_lt_of_le (length_of_skipScalar h) (htext ▸ length_skipSpace_le text)
        skipAwaited opened .separator rest
  | .separator =>
    match opened with
    | [] => .ok text
    | bracket :: outer =>
      match htext : skipSpace text with
      | [] => .error (.before bracket.atEnd [])
      | c :: rest =>
        have hrest := length_of_skipSpace htext
        if c = bracket.closing then skipAwaited outer .separator rest
        else if c = ',' then
          match h : skipKey bracket rest with
          | .error stop => .error stop
          | .ok item =>
            have := Nat.lt_of_le_of_lt (length_of_skipKey h) hrest
            skipAwaited (bracket :: outer) .value item
        else .error (.on bracket.afterItem (c :: rest))
  | .firstItem =>
    match opened with
    | [] => .ok text
    | bracket :: outer =>
      match htext : skipSpace text with
      | [] => .error (.before bracket.atEnd [])
      | c :: rest =>
        have hrest := length_of_skipSpace htext
        if c = bracket.closing then skipAwaited outer .separator rest
        else
          match h : skipKey bracket (c :: rest) with
          | .error stop => .error stop
          | .ok item =>
            have := Nat.le_trans (length_of_skipKey h) hrest
            skipAwaited (bracket :: outer) .value item
termination_by 3 * text.length + awaited.rank
decreasing_by all_goals simp only [Awaited.rank]; omega

def skipValue (text : List Char) : Except Stop (List Char) := skipAwaited [] .value text

theorem length_of_skipAwaited {opened : List Bracket} {awaited : Awaited} {text rest : List Char}
    (h : skipAwaited opened awaited text = .ok rest) : rest.length ≤ text.length := by
  fun_induction skipAwaited opened awaited text with
  | case1 | case2 | case4 | case7 | case9 | case13 =>
    rename_i hlt ih
    exact Nat.le_trans (ih h) (Nat.le_of_lt hlt)
  | case15 =>
    rename_i hle ih
    exact Nat.le_trans (ih h) hle
  | case5 | case11 =>
    cases h
    exact Nat.le_refl _
  | case3 | case6 | case8 | case10 | case12 | case14 => cases h

theorem length_of_skipValue {text rest : List Char} (h : skipValue text = .ok rest) :
    rest.length ≤ text.length := length_of_skipAwaited h

end DispatchAudit.Json
