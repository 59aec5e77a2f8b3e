import DispatchAudit.Settings.Value

/-!
# Settings from a configuration text

A configuration is a JSON object whose members name settings, or an array that gives them by
position. A setting that is not given keeps its default. Members of an object may stand in any
order and unknown ones are only checked for their form, but no setting may be given twice. The
text is read once from its front, so the first thing wrong with it decides.
-/

namespace DispatchAudit

open Audit Json

/-- The settings, in the order in which an array gives them. -/
inductive SettingKey where
  | text (setting : TextSetting)
  | duplicateCheck
deriving DecidableEq, Repr, Inhabited

namespace SettingKey

def all : List SettingKey := TextSetting.all.map text ++ [duplicateCheck]

def word : SettingKey → String
  | text setting => setting.key
  | duplicateCheck => "duplicateCheck"

def ofWord? (word : String) : Option SettingKey := all.find? fun key => key.word == word

theorem ofWord?_word (key : SettingKey) : ofWord? key.word = some key := by
  cases key with
  | text setting => cases setting <;> decide
  | duplicateCheck => decide

end SettingKey

/-- The settings that a configuration has given so far. -/
structure Draft where
  texts : List (TextSetting × String)
  duplicateCheck? : Option DuplicateRule
deriving DecidableEq, Repr, Inhabited

namespace Draft

def empty : Draft := ⟨[], none⟩

def has (draft : Draft) : SettingKey → Bool
  | .text setting => (draft.texts.lookup setting).isSome
  | .duplicateCheck => draft.duplicateCheck?.isSome

/-- The settings of the draft, with defaults for what is not given. -/
def settings (draft : Draft) : Settings :=
  .ofTexts (fun setting => (draft.texts.lookup setting).getD setting.fallback)
    (draft.duplicateCheck?.getD .length)

theorem settings_empty : empty.settings = .standard := by decide

end Draft

namespace Configuration

/-- The draft with the value in front of a text for the given setting. -/
def readSetting (draft : Draft) (key : SettingKey) (text : List Char) : Reading Draft :=
  match key with
  | .text setting =>
    (readText text).map fun (value, rest) =>
      ({ draft with texts := (setting, value) :: draft.texts }, rest)
  | .duplicateCheck =>
    (readRule text).map fun (rule, rest) => ({ draft with duplicateCheck? := some rule }, rest)

/-- Where reading stops at a key that was given before. The stop is reported once the end of the
object is looked for. -/
def atDuplicate (key : SettingKey) (text : List Char) : Stop :=
  match skipSpace text with
  | [] => .before (.duplicateKey key.word) []
  | c :: rest => .before (.duplicateKey key.word) (if c = '\x7d' then rest else c :: rest)

/-- The draft with the member in front of a text, whose opening quote is read already. -/
def readMember (draft : Draft) (text : List Char) : Reading Draft :=
  match readString text with
  | .error stop => .error stop
  | .ok (word, rest) =>
    match SettingKey.ofWord? word with
    | none => ((skipColon rest).bind skipValue).map fun after => (draft, after)
    | some key =>
      if draft.has key then .error (atDuplicate key rest)
      else (skipColon rest).bind (readSetting draft key)

/-- What stands where an item may stand: the end of its object or array, or the item. The text is
what follows the closing bracket or the opening quote of a key, or begins with the item of an
array. -/
inductive ItemStart where
  | closed (rest : List Char)
  | item (text : List Char)
deriving DecidableEq, Repr, Inhabited

def startMember (isFirst : Bool) (text : List Char) : Except Stop ItemStart :=
  match skipSpace text with
  | [] => .error (.before .endInObject [])
  | c :: rest =>
    if c = '\x7d' then .ok (.closed rest)
    else if isFirst then
      if c = '"' then .ok (.item rest) else .error (.on .keyNotString (c :: rest))
    else if c = ',' then
      match skipSpace rest with
      | [] => .error (.before .endInValue [])
      | d :: more =>
        if d = '"' then .ok (.item more)
        else .error (.on (if d = '\x7d' then .trailingComma else .keyNotString) (d :: more))
    else .error (.on .expectedObjectEnd (c :: rest))

def startElement (isFirst : Bool) (text : List Char) : Except Stop ItemStart :=
  match skipSpace text with
  | [] => .error (.before .endInList [])
  | c :: rest =>
    if c = ']' then .ok (.closed rest)
    else if isFirst then .ok (.item (c :: rest))
    else if c = ',' then
      match skipSpace rest with
      | [] => .error (.before .endInValue [])
      | d :: more =>
        if d = ']' then .error (.on .trailingComma (d :: more)) else .ok (.item (d :: more))
    else .error (.on .expectedListEnd (c :: rest))

/-- The text after the closing bracket of an array that has given every setting. -/
def skipArrayEnd (text : List Char) : Except Stop (List Char) :=
  match skipSpace text with
  | [] => .error (.before .endInList [])
  | c :: rest =>
    if c = ']' then .ok rest
    else if c = ',' then
      match skipSpace rest with
      | [] => .error (.before .trailingCharacters [])
      | d :: more =>
        .error (.on (if d = ']' then .trailingComma else .trailingCharacters) (d :: more))
    else .error (.on .trailingCharacters (c :: rest))

theorem length_of_readSetting {draft result : Draft} {key : SettingKey} {text rest : List Char}
    (h : readSetting draft key text = .ok (result, rest)) : rest.length < text.length := by
  unfold readSetting at h
  split at h
  · rename_i setting
    cases hread : readText text with
    | error stop =>
      rw [hread] at h
      cases h
    | ok found =>
      rw [hread] at h
      cases h
      exact length_of_readText hread
  · cases hread : readRule text with
    | error stop =>
      rw [hread] at h
      cases h
    | ok found =>
      rw [hread] at h
      cases h
      exact length_of_readRule hread

theorem length_of_readMember {draft result : Draft} {text rest : List Char}
    (h : readMember draft text = .ok (result, rest)) : rest.length < text.length := by
  unfold readMember at h
  split at h
  · cases h
  · rename_i word tail hword
    have hlength := length_of_readString hword
    split at h
    · cases hskip : (skipColon tail).bind skipValue with
      | error stop =>
        rw [hskip] at h
        cases h
      | ok after =>
        rw [hskip] at h
        cases h
        have := length_of_bind length_of_skipColon length_of_skipValue hskip
        omega
    · split at h
      · cases h
      · cases hcolon : skipColon tail with
        | error stop =>
          rw [hcolon] at h
          cases h
        | ok after =>
          rw [hcolon] at h
          have := length_of_skipColon hcolon
          have := length_of_readSetting h
          omega

theorem length_of_startMember {isFirst : Bool} {text rest : List Char}
    (h : startMember isFirst text = .ok (.item rest)) : rest.length < text.length := by
  unfold startMember at h
  split at h
  · cases h
  · rename_i hskip
    have := length_of_skipSpace hskip
    split at h
    · cases h
    · split at h
      · split at h
        · cases h
          exact this
        · cases h
      · split at h
        · split at h
          · cases h
          · rename_i hmore
            have := length_of_skipSpace hmore
            split at h
            · cases h
              omega
            · cases h
        · cases h

/-- The draft with the members in front of a text, and the text after the object they stand
in. -/
def readMembers (draft : Draft) (isFirst : Bool) (text : List Char) : Reading Draft :=
  match hstart : startMember isFirst text with
  | .error stop => .error stop
  | .ok (.closed rest) => .ok (draft, rest)
  | .ok (.item member) =>
    match hmember : readMember draft member with
    | .error stop => .error stop
    | .ok (extended, rest) =>
      have := Nat.lt_trans (length_of_readMember hmember) (length_of_startMember hstart)
      readMembers extended false rest
termination_by text.length

/-- The draft with the elements in front of a text for the given settings, and the text after the
array they stand in. -/
def readElements : List SettingKey → Draft → Bool → List Char → Reading Draft
  | [], draft, _, text => (skipArrayEnd text).map fun rest => (draft, rest)
  | key :: keys, draft, isFirst, text =>
    match startElement isFirst text with
    | .error stop => .error stop
    | .ok (.closed rest) => .ok (draft, rest)
    | .ok (.item element) =>
      match readSetting draft key element with
      | .error stop => .error stop
      | .ok (extended, rest) => readElements keys extended false rest

def readDraft (text : List Char) : Reading Draft :=
  match skipSpace text with
  | [] => .error (.before .endInValue [])
  | c :: rest =>
    if c = '\x7b' then readMembers .empty true rest
    else if c = '[' then readElements SettingKey.all .empty true rest
    else .error (unexpected "struct Config" (c :: rest))

/-- The settings that a whole text gives, or where reading it stops. -/
def readSettings (text : List Char) : Except Stop Settings :=
  match readDraft text with
  | .error stop => .error stop
  | .ok (draft, rest) =>
    match skipSpace rest with
    | [] => .ok draft.settings
    | c :: more => .error (.on .trailingCharacters (c :: more))

end Configuration

def Settings.ofText (text : String) : Except Json.Fault Settings :=
  match Configuration.readSettings text.toList with
  | .ok settings => .ok settings
  | .error stop => .error (stop.fault text.toList)

end DispatchAudit
