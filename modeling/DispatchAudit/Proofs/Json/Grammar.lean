import DispatchAudit.Json.Token

/-!
# The grammar of JSON

What a JSON text is, said without a reader. A text spells a document: a value with blanks around
it. A string is kept as the UTF-16 code units that it writes, since an escape names a code unit
and nothing in the grammar keeps a surrogate from standing alone; a text is meant by a string
exactly if the string writes the code units of the text. A number is kept as it is written. The
members of an object keep their order and may repeat a key.
-/

namespace DispatchAudit.Json

/-! ### Code units -/

/-- The UTF-16 code units of a character: itself, or a surrogate pair. -/
def charUnits (c : Char) : List Nat :=
  if c.toNat < 0x10000 then [c.toNat]
  else [0xD800 + (c.toNat - 0x10000) / 0x400, 0xDC00 + (c.toNat - 0x10000) % 0x400]

def units (text : String) : List Nat := text.toList.flatMap charUnits

/-! ### Tokens -/

/-- Whether the text holds blanks between tokens only. -/
def AllSpace (text : List Char) : Prop :=
  ∀ c ∈ text, c = ' ' ∨ c = '\t' ∨ c = '\n' ∨ c = '\r'

/-- The letters of the short escapes, with the characters that they stand for. -/
def shortEscapes : List (Char × Char) :=
  [('"', '"'), ('\\', '\\'), ('/', '/'), ('b', '\x08'), ('f', '\x0c'), ('n', '\n'), ('r', '\r'),
    ('t', '\t')]

/-- Whether the character is the hexadecimal digit, of either case, for a number. -/
def IsHexDigit (c : Char) (digit : Nat) : Prop :=
  digit < 16 ∧ (c = Nat.digitChar digit ∨ c = (Nat.digitChar digit).toUpper)

/-- Four hexadecimal digits, with the code unit that they write. -/
inductive HexUnit : List Char → Nat → Prop where
  | mk {a b c d : Char} {p q r s : Nat} (ha : IsHexDigit a p) (hb : IsHexDigit b q)
      (hc : IsHexDigit c r) (hd : IsHexDigit d s) :
      HexUnit [a, b, c, d] (((p * 16 + q) * 16 + r) * 16 + s)

/-- What stands between the quotes of a string, with the code units that it writes. -/
inductive StringBody : List Char → List Nat → Prop where
  | nil : StringBody [] []
  | plain {c : Char} {rest : List Char} {written : List Nat} (hcontrol : 0x20 ≤ c.toNat)
      (hquote : c ≠ '"') (hbackslash : c ≠ '\\') (hrest : StringBody rest written) :
      StringBody (c :: rest) (charUnits c ++ written)
  | short {letter c : Char} {rest : List Char} {written : List Nat}
      (hescape : (letter, c) ∈ shortEscapes) (hrest : StringBody rest written) :
      StringBody ('\\' :: letter :: rest) (charUnits c ++ written)
  | unit {digits rest : List Char} {unit : Nat} {written : List Nat}
      (hunit : HexUnit digits unit) (hrest : StringBody rest written) :
      StringBody ('\\' :: 'u' :: digits ++ rest) (unit :: written)

structure IsDigits (text : List Char) : Prop where
  ne_nil : text ≠ []
  isDigit : ∀ c ∈ text, c.isDigit = true

/-- Whether the text is a whole number without a sign: no zero stands in front of a digit. -/
def IsWhole (text : List Char) : Prop :=
  text = ['0'] ∨ IsDigits text ∧ text.head? ≠ some '0'

def IsFraction (text : List Char) : Prop :=
  text = [] ∨ ∃ digits, IsDigits digits ∧ text = '.' :: digits

def IsExponent (text : List Char) : Prop :=
  text = [] ∨ ∃ letter sign digits, (letter = 'e' ∨ letter = 'E') ∧
    (sign = [] ∨ sign = ['+'] ∨ sign = ['-']) ∧ IsDigits digits ∧ text = letter :: sign ++ digits

def IsNumber (text : List Char) : Prop :=
  ∃ sign whole fraction exponent, (sign = [] ∨ sign = ['-']) ∧ IsWhole whole ∧
    IsFraction fraction ∧ IsExponent exponent ∧ text = sign ++ whole ++ fraction ++ exponent

/-! ### Documents -/

/-- What a JSON text says. -/
inductive Document where
  | null
  | boolean (value : Bool)
  | number (text : List Char)
  | string (written : List Nat)
  | array (items : List Document)
  | object (members : List (List Nat × Document))

/-- The key of a member, as the code units that it writes, and its value. -/
abbrev Member := List Nat × Document

inductive Phrase where
  /-- A value alone. -/
  | value (document : Document)
  /-- A value and the blanks around it. -/
  | padded (document : Document)
  /-- The items of an array, one or more. -/
  | items (items : List Document)
  /-- The members of an object, one or more. -/
  | members (members : List Member)

/-- Whether the text is the key of a member, with the blanks around it. -/
def SpellsKey (key : List Nat) (text : List Char) : Prop :=
  ∃ before body after, AllSpace before ∧ StringBody body key ∧ AllSpace after ∧
    text = before ++ '"' :: body ++ '"' :: after

inductive Spells : Phrase → List Char → Prop where
  | null : Spells (.value .null) ['n', 'u', 'l', 'l']
  | true : Spells (.value (.boolean true)) ['t', 'r', 'u', 'e']
  | false : Spells (.value (.boolean false)) ['f', 'a', 'l', 's', 'e']
  | number {text : List Char} (hnumber : IsNumber text) : Spells (.value (.number text)) text
  | string {body : List Char} {written : List Nat} (hbody : StringBody body written) :
      Spells (.value (.string written)) ('"' :: body ++ ['"'])
  | emptyArray {blanks : List Char} (hblanks : AllSpace blanks) :
      Spells (.value (.array [])) ('[' :: blanks ++ [']'])
  | array {items : List Document} {text : List Char} (hitems : Spells (.items items) text) :
      Spells (.value (.array items)) ('[' :: text ++ [']'])
  | emptyObject {blanks : List Char} (hblanks : AllSpace blanks) :
      Spells (.value (.object [])) ('\x7b' :: blanks ++ ['\x7d'])
  | object {members : List Member} {text : List Char} (hmembers : Spells (.members members) text) :
      Spells (.value (.object members)) ('\x7b' :: text ++ ['\x7d'])
  | padded {document : Document} {before text after : List Char} (hbefore : AllSpace before)
      (hvalue : Spells (.value document) text) (hafter : AllSpace after) :
      Spells (.padded document) (before ++ text ++ after)
  | lastItem {item : Document} {text : List Char} (hitem : Spells (.padded item) text) :
      Spells (.items [item]) text
  | item {item : Document} {items : List Document} {text rest : List Char}
      (hitem : Spells (.padded item) text) (hitems : Spells (.items items) rest) :
      Spells (.items (item :: items)) (text ++ ',' :: rest)
  | lastMember {key : List Nat} {value : Document} {keyText text : List Char}
      (hkey : SpellsKey key keyText) (hvalue : Spells (.padded value) text) :
      Spells (.members [(key, value)]) (keyText ++ ':' :: text)
  | member {key : List Nat} {value : Document} {members : List Member}
      {keyText text rest : List Char} (hkey : SpellsKey key keyText)
      (hvalue : Spells (.padded value) text) (hmembers : Spells (.members members) rest) :
      Spells (.members ((key, value) :: members)) (keyText ++ ':' :: text ++ ',' :: rest)

/-- Whether the whole text is the object with the members. -/
def SpellsObject (members : List Member) (text : List Char) : Prop :=
  Spells (.padded (.object members)) text

theorem exists_body_of_spells_string {written : List Nat} {text : List Char}
    (hvalue : Spells (.value (.string written)) text) :
    ∃ body, StringBody body written ∧ text = '"' :: body ++ ['"'] := by
  cases hvalue with
  | string hbody => exact ⟨_, hbody, rfl⟩

/-! ### Blanks -/

theorem isSpace_iff {c : Char} :
    isSpace c = true ↔ c = ' ' ∨ c = '\t' ∨ c = '\n' ∨ c = '\r' := by
  simp only [isSpace, Bool.or_eq_true, beq_iff_eq, or_assoc]

theorem AllSpace.nil : AllSpace [] := fun _ hmem => absurd hmem List.not_mem_nil

theorem AllSpace.append {left right : List Char} (hleft : AllSpace left) (hright : AllSpace right) :
    AllSpace (left ++ right) := by
  intro c hmem
  rcases List.mem_append.mp hmem with hmem | hmem
  · exact hleft c hmem
  · exact hright c hmem

theorem AllSpace.isSpace {text : List Char} (hspace : AllSpace text) :
    ∀ c ∈ text, isSpace c = true :=
  fun c hmem => isSpace_iff.mpr (hspace c hmem)

theorem skipSpace_append {blanks : List Char} (hblanks : AllSpace blanks) (rest : List Char) :
    skipSpace (blanks ++ rest) = skipSpace rest :=
  List.dropWhile_append_of_pos hblanks.isSpace

theorem skipSpace_of_allSpace {text : List Char} (hblanks : AllSpace text) :
    skipSpace text = [] := by
  have hskip := skipSpace_append hblanks []
  rwa [List.append_nil] at hskip

theorem skipSpace_cons {c : Char} (hc : isSpace c = false) (rest : List Char) :
    skipSpace (c :: rest) = c :: rest :=
  List.dropWhile_cons_of_neg (by simp [hc])

theorem exists_blanks_append_skipSpace (text : List Char) :
    ∃ blanks, AllSpace blanks ∧ text = blanks ++ skipSpace text := by
  refine ⟨text.takeWhile isSpace, ?_, List.takeWhile_append_dropWhile.symm⟩
  intro c hmem
  exact isSpace_iff.mp (List.all_eq_true.mp List.all_takeWhile c hmem)

theorem exists_blanks_of_skipSpace {text rest : List Char} (hskip : skipSpace text = rest) :
    ∃ blanks, AllSpace blanks ∧ text = blanks ++ rest := by
  subst hskip
  exact exists_blanks_append_skipSpace text

theorem isSpace_of_skipSpace_eq_cons {text rest : List Char} {c : Char}
    (hskip : skipSpace text = c :: rest) : isSpace c = false := by
  have hhead := List.head?_dropWhile_not isSpace text
  rw [← skipSpace, hskip] at hhead
  simpa using hhead

/-! ### Arrays and objects -/

/-- Whether the text is what stands between two brackets in front of the closing one: the items,
from the first one on or behind an earlier one. -/
def IsInner {α : Type} (phrase : List α → Phrase) : Bool → List α → List Char → Prop
  | true, items, text => items = [] ∧ AllSpace text ∨ Spells (phrase items) text
  | false, items, text => items = [] ∧ AllSpace text ∨ ∃ blanks more, AllSpace blanks ∧
      Spells (phrase items) more ∧ text = blanks ++ ',' :: more

/-- Whether the text stands in front of an item. -/
def OpensItem : Bool → List Char → Prop
  | true, text => AllSpace text
  | false, text => ∃ blanks before, AllSpace blanks ∧ AllSpace before ∧
      text = blanks ++ ',' :: before

theorem spells_array_iff {items : List Document} {text : List Char} :
    Spells (.value (.array items)) text ↔
      ∃ inner, IsInner .items true items inner ∧ text = '[' :: inner ++ [']'] := by
  constructor
  · intro hvalue
    cases hvalue with
    | emptyArray hblanks => exact ⟨_, .inl ⟨rfl, hblanks⟩, rfl⟩
    | array hitems => exact ⟨_, .inr hitems, rfl⟩
  · rintro ⟨inner, ⟨rfl, hblanks⟩ | hitems, rfl⟩
    · exact .emptyArray hblanks
    · exact .array hitems

theorem spells_object_iff {members : List Member} {text : List Char} :
    Spells (.value (.object members)) text ↔
      ∃ inner, IsInner .members true members inner ∧ text = '\x7b' :: inner ++ ['\x7d'] := by
  constructor
  · intro hvalue
    cases hvalue with
    | emptyObject hblanks => exact ⟨_, .inl ⟨rfl, hblanks⟩, rfl⟩
    | object hmembers => exact ⟨_, .inr hmembers, rfl⟩
  · rintro ⟨inner, ⟨rfl, hblanks⟩ | hmembers, rfl⟩
    · exact .emptyObject hblanks
    · exact .object hmembers

section

variable {α : Type} {phrase : List α → Phrase} {isFirst : Bool} {item : α} {items : List α}
  {text front before : List Char} {starts : List Char → Prop}

theorem isInner_nil_iff (hnone : ∀ text, ¬ Spells (phrase []) text) :
    IsInner phrase isFirst [] text ↔ AllSpace text := by
  constructor
  · intro hinner
    cases isFirst with
    | true =>
        rcases hinner with ⟨_, hblanks⟩ | hitems
        · exact hblanks
        · exact absurd hitems (hnone text)
    | false =>
        rcases hinner with ⟨_, hblanks⟩ | ⟨_, more, _, hitems, _⟩
        · exact hblanks
        · exact absurd hitems (hnone more)
  · intro hblanks
    cases isFirst <;> exact .inl ⟨rfl, hblanks⟩

theorem isInner_no_items_iff : IsInner .items isFirst [] text ↔ AllSpace text :=
  isInner_nil_iff nofun

theorem isInner_no_members_iff : IsInner .members isFirst [] text ↔ AllSpace text :=
  isInner_nil_iff nofun

/-- How a first item begins says how any item begins: only what stands in front differs. -/
theorem isInner_cons_iff (hfirst : ∀ text, Spells (phrase (item :: items)) text ↔
      ∃ before rest, AllSpace before ∧ starts rest ∧ text = before ++ rest) :
    IsInner phrase isFirst (item :: items) text ↔
      ∃ front rest, OpensItem isFirst front ∧ starts rest ∧ text = front ++ rest := by
  cases isFirst with
  | true =>
      refine Iff.trans ⟨?_, .inr⟩ (hfirst text)
      rintro (⟨hnone, _⟩ | hitems)
      · cases hnone
      · exact hitems
  | false =>
      constructor
      · rintro (⟨hnone, _⟩ | ⟨blanks, more, hblanks, hmore, rfl⟩)
        · cases hnone
        · obtain ⟨before, rest, hbefore, hrest, rfl⟩ := (hfirst more).mp hmore
          exact ⟨_, rest, ⟨blanks, before, hblanks, hbefore, rfl⟩, hrest, by simp⟩
      · rintro ⟨_, rest, ⟨blanks, before, hblanks, hbefore, rfl⟩, hrest, rfl⟩
        refine .inr ⟨blanks, before ++ rest, hblanks, ?_, by simp⟩
        exact (hfirst _).mpr ⟨before, rest, hbefore, hrest, rfl⟩

theorem OpensItem.append (hfront : OpensItem isFirst front) (hbefore : AllSpace before) :
    OpensItem isFirst (front ++ before) := by
  cases isFirst with
  | true => exact AllSpace.append hfront hbefore
  | false =>
      obtain ⟨blanks, more, hblanks, hmore, rfl⟩ := hfront
      exact ⟨blanks, more ++ before, hblanks, hmore.append hbefore, by simp⟩

end

end DispatchAudit.Json
