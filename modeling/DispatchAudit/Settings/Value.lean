import DispatchAudit.Json.Skip
import DispatchAudit.Settings.Basic
import DispatchAudit.Text.Quoted

/-!
# The values in a configuration

A configuration gives a string for every setting but one, and a word for the rule on repeated
names. Anything else in their place stops reading with a word for what stands there and for what
was expected. A value that is read leaves less text than there was.
-/

namespace DispatchAudit

open Audit Json

namespace Configuration

/-- Why reading stops at a value of a kind that is not expected. -/
def unexpected (expected : String) (text : List Char) : Stop :=
  let stop (found : String) (rest : List Char) : Stop := .before (.wrongKind found expected) rest
  let word (found : String) (reading : Except Stop (List Char)) : Stop :=
    match reading with
    | .ok rest => stop found rest
    | .error other => other
  let number (reading : Reading Number) : Stop :=
    match reading with
    | .ok (value, rest) => stop value.kind rest
    | .error other => other
  match text with
  | [] => .on .expectedValue []
  | c :: rest =>
    if c = 'n' then word "null" (readWord ['u', 'l', 'l'] rest)
    else if c = 't' then word "boolean `true`" (readWord ['r', 'u', 'e'] rest)
    else if c = 'f' then word "boolean `false`" (readWord ['a', 'l', 's', 'e'] rest)
    else if c = '-' then number (readNumber true rest)
    else if c.isDigit then number (readNumber false text)
    else if c = '"' then
      match readString rest with
      | .ok (value, after) => stop ("string " ++ Text.quoted value) after
      | .error other => other
    else if c = '[' then stop "sequence" text
    else if c = '\x7b' then stop "map" text
    else .on .expectedValue text

/-- The string in front of a text, where something else stops reading as not expected. -/
def readText (text : List Char) : Reading String :=
  match skipSpace text with
  | [] => .error (.before .endInValue [])
  | c :: rest => if c = '"' then readString rest else .error (unexpected "a string" (c :: rest))

/-- The rule whose word stands in front of a text, whose opening quote is read already. -/
def readRuleWord (text : List Char) : Reading DuplicateRule :=
  match readString text with
  | .error stop => .error stop
  | .ok (word, rest) =>
    match DuplicateRule.ofWord? word with
    | some rule => .ok (rule, rest)
    | none => .error (.before (.unknownVariant word DuplicateRule.words) rest)

def skipNull (text : List Char) : Except Stop (List Char) :=
  match skipSpace text with
  | [] => .error (.before .endInValue [])
  | c :: rest =>
    if c = 'n' then readWord ['u', 'l', 'l'] rest else .error (unexpected "unit" (c :: rest))

/-- The text after the closing bracket of an object with one member. -/
def skipObjectEnd (text : List Char) : Except Stop (List Char) :=
  match skipSpace text with
  | [] => .error (.before .endInObject [])
  | c :: rest =>
    if c = '\x7d' then .ok rest else .error (.before .expectedValue (c :: rest))

/-- What follows the opening bracket of an object with one member: its key, whose opening quote is
read already. -/
def startOnlyMember (text : List Char) : Except Stop (List Char) :=
  match skipSpace text with
  | [] => .error (.before .endInObject [])
  | c :: rest =>
    if c = '"' then .ok rest
    else .error (.on (if c = '\x7d' then .expectedValue else .keyNotString) (c :: rest))

/-- The rule in front of a text: its word, or an object whose only key is its word and whose only
value is null. -/
def readRule (text : List Char) : Reading DuplicateRule :=
  match skipSpace text with
  | [] => .error (.before .endInValue [])
  | c :: rest =>
    if c = '"' then readRuleWord rest
    else if c = '\x7b' then
      match (startOnlyMember rest).bind readRuleWord with
      | .error stop => .error stop
      | .ok (rule, after) =>
        match ((skipColon after).bind skipNull).bind skipObjectEnd with
        | .error stop => .error stop
        | .ok after => .ok (rule, after)
    else .error (.on .expectedValue (c :: rest))

theorem length_of_readText {value : String} {text rest : List Char}
    (h : readText text = .ok (value, rest)) : rest.length < text.length := by
  unfold readText at h
  split at h
  · cases h
  · rename_i hskip
    have := length_of_skipSpace hskip
    split at h
    · exact Nat.lt_trans (length_of_readString h) this
    · cases h

theorem length_of_readRuleWord {rule : DuplicateRule} {text rest : List Char}
    (h : readRuleWord text = .ok (rule, rest)) : rest.length < text.length := by
  unfold readRuleWord at h
  split at h
  · cases h
  · rename_i hword
    split at h
    · cases h
      exact length_of_readString hword
    · cases h

theorem length_of_startOnlyMember {text rest : List Char} (h : startOnlyMember text = .ok rest) :
    rest.length < text.length := by
  unfold startOnlyMember at h
  split at h
  · cases h
  · rename_i hskip
    split at h
    · cases h
      exact length_of_skipSpace hskip
    · cases h

theorem length_of_skipNull {text rest : List Char} (h : skipNull text = .ok rest) :
    rest.length < text.length := by
  unfold skipNull at h
  split at h
  · cases h
  · rename_i hskip
    have := length_of_skipSpace hskip
    split at h
    · exact Nat.lt_of_le_of_lt (length_of_readWord h) this
    · cases h

theorem length_of_skipObjectEnd {text rest : List Char} (h : skipObjectEnd text = .ok rest) :
    rest.length < text.length := by
  unfold skipObjectEnd at h
  split at h
  · cases h
  · rename_i hskip
    split at h
    · cases h
      exact length_of_skipSpace hskip
    · cases h

theorem length_of_bind {first second : List Char → Except Stop (List Char)}
    (hfirst : ∀ {text rest : List Char}, first text = .ok rest → rest.length < text.length)
    (hsecond : ∀ {text rest : List Char}, second text = .ok rest → rest.length ≤ text.length)
    {text rest : List Char} (h : (first text).bind second = .ok rest) :
    rest.length < text.length := by
  cases hread : first text with
  | error stop =>
    rw [hread] at h
    cases h
  | ok middle =>
    rw [hread] at h
    exact Nat.lt_of_le_of_lt (hsecond h) (hfirst hread)

theorem length_of_readRule {rule : DuplicateRule} {text rest : List Char}
    (h : readRule text = .ok (rule, rest)) : rest.length < text.length := by
  unfold readRule at h
  split at h
  · cases h
  · rename_i c tail hskip
    have hlt := length_of_skipSpace hskip
    split at h
    · exact Nat.lt_trans (length_of_readRuleWord h) hlt
    · split at h
      · cases hstart : startOnlyMember tail with
        | error stop =>
          rw [hstart] at h
          cases h
        | ok key =>
          rw [hstart] at h
          have := length_of_startOnlyMember hstart
          split at h
          · cases h
          · rename_i hword
            have := length_of_readRuleWord hword
            split at h
            · cases h
            · rename_i hend
              cases h
              have := length_of_bind
                (fun h => length_of_bind length_of_skipColon
                  (fun h => Nat.le_of_lt (length_of_skipNull h)) h)
                (fun h => Nat.le_of_lt (length_of_skipObjectEnd h)) hend
              omega
      · cases h

end Configuration

end DispatchAudit
