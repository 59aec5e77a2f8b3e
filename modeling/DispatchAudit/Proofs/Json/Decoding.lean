import DispatchAudit.Proofs.Json.Giving
import DispatchAudit.Proofs.Json.Strings
import DispatchAudit.Proofs.Keyed

/-!
# Documents that are decoded

A program that reads a document asks for the text of a string, for the number of its digits, for
the items of an array and for what an object has under a key. Each of these gives nothing if the
document is of another kind, and so does a text whose code units do not pair up. A value is found
again in its own document, an array item by item.
-/

namespace DispatchAudit.Json

/-! ### Code units -/

def charsOf? : List Nat → Option (List Char)
  | [] => some []
  | unit :: rest =>
    if isHighSurrogate unit then
      match rest with
      | [] => none
      | low :: later =>
        if isLowSurrogate low then (charsOf? later).map (pairedChar unit low :: ·) else none
    else if isLowSurrogate unit then none
    else (charsOf? rest).map (Char.ofNat unit :: ·)

/-- The text that has the code units, if there is one. -/
def textOf? (written : List Nat) : Option String := (charsOf? written).map String.ofList

theorem charsOf?_single {unit : Nat} (hhigh : ¬ isHighSurrogate unit = true)
    (hlow : ¬ isLowSurrogate unit = true) (rest : List Nat) :
    charsOf? (unit :: rest) = (charsOf? rest).map (Char.ofNat unit :: ·) := by
  rw [charsOf?.eq_def]
  simp only [hhigh, hlow, if_false, Bool.false_eq_true]

theorem charsOf?_pair {high low : Nat} (hhigh : isHighSurrogate high = true)
    (hlow : isLowSurrogate low = true) (rest : List Nat) :
    charsOf? (high :: low :: rest) = (charsOf? rest).map (pairedChar high low :: ·) := by
  rw [charsOf?, if_pos hhigh, if_pos hlow]

theorem charsOf?_append (c : Char) (written : List Nat) :
    charsOf? (charUnits c ++ written) = (charsOf? written).map (c :: ·) := by
  have hbounds := toNat_bounds c
  by_cases hsingle : c.toNat < 0x10000
  · have hhigh : ¬ isHighSurrogate c.toNat = true := by
      rw [isHighSurrogate_iff]
      omega
    have hlow : ¬ isLowSurrogate c.toNat = true := by
      rw [isLowSurrogate_iff]
      omega
    rw [charUnits_of_lt hsingle, List.singleton_append, charsOf?_single hhigh hlow,
      Char.ofNat_toNat]
  · obtain ⟨high, low, hpair⟩ : ∃ high low, charUnits c = [high, low] :=
      ⟨_, _, if_neg hsingle⟩
    obtain ⟨hhigh, hlow, hchar⟩ := pair_of_charUnits hpair
    rw [hpair, List.cons_append, List.singleton_append, charsOf?_pair hhigh hlow, hchar]

theorem charsOf?_flatMap (chars : List Char) :
    charsOf? (chars.flatMap charUnits) = some chars := by
  induction chars with
  | nil => rfl
  | cons c chars ih => rw [List.flatMap_cons, charsOf?_append, ih, Option.map_some]

theorem textOf?_units (text : String) : textOf? (units text) = some text := by
  rw [textOf?, units, charsOf?_flatMap, Option.map_some, String.ofList_toList]

example : textOf? [0x22, 0x1F, 0xD83D, 0xDE00] = some "\"\x1f😀" := by decide

/-! ### What a document has -/

namespace Document

variable {α : Type}

def text? : Document → Option String
  | string written => textOf? written
  | _ => none

def natural? : Document → Option Nat
  | number digits =>
    if !digits.isEmpty && digits.all Char.isDigit then some (Nat.ofDigitChars 10 digits 0)
    else none
  | _ => none

def list? (read : Document → Option α) : Document → Option (List α)
  | array items => items.mapM read
  | _ => none

def member? (key : String) : Document → Option Document
  | object members => members.lookup (units key)
  | _ => none

/-- What an object has under the key, read; there must be something. -/
def required? (read : Document → Option α) (key : String) (document : Document) : Option α :=
  (document.member? key).bind read

/-- What an object has under the key, read if there is something. -/
def optional? (read : Document → Option α) (key : String) (document : Document) :
    Option (Option α) :=
  match document.member? key with
  | none => some none
  | some given => (read given).map some

end Document

/-! ### Values are found again -/

@[simp] theorem text?_string (text : String) : (Document.string (units text)).text? = some text :=
  textOf?_units text

theorem list?_array {α : Type} {read : Document → Option α} {write : α → Document}
    (hread : ∀ x, read (write x) = some x) (xs : List α) :
    (Document.array (xs.map write)).list? read = some xs := by
  rw [Document.list?]
  induction xs with
  | nil => rfl
  | cons x xs ih =>
      rw [List.map_cons, List.mapM_cons, ih, hread]
      rfl

@[simp] theorem list?_strings (texts : List String) :
    (Document.array (texts.map fun text => .string (units text))).list? Document.text? =
      some texts :=
  list?_array text?_string texts

namespace Value

variable {α : Type} {key : String}

@[simp] theorem natural?_document (n : Nat) : (number n).document.natural? = some n := by
  have hne : (toString n).toList.isEmpty = false :=
    List.isEmpty_eq_false_iff.mpr (toList_toString_ne_nil n)
  have hall : (toString n).toList.all Char.isDigit = true :=
    List.all_eq_true.mpr fun c hc => isDigit_of_mem_toString hc
  rw [document, Document.natural?, hne, hall, ofDigitChars_toString]
  rfl

theorem list?_document {read : Document → Option α} {write : α → Value}
    (hread : ∀ x, read (write x).document = some x) (xs : List α) :
    (array (xs.map write)).document.list? read = some xs := by
  rw [document, itemDocuments_eq_map, List.map_map]
  exact list?_array hread xs

theorem member?_document (members : List (String × Value)) :
    (object members).document.member? key = (members.lookup key).map document := by
  rw [document, Document.member?, memberDocuments_eq_map]
  induction members with
  | nil => rfl
  | cons member members ih =>
      rw [List.map_cons, List.lookup_cons, List.lookup_cons, ih]
      have hkey : (units key == units member.1) = (key == member.1) := by
        rw [Bool.eq_iff_iff, beq_iff_eq, beq_iff_eq, units_inj]
      rw [hkey]
      cases key == member.1 <;> rfl

end Value

/-! ### What a text gives is found -/

section

variable {α : Type} {text key : String} {given : Document} {members : List Member}
variable (hspells : SpellsObject members text.toList) (hnodup : (members.map Prod.fst).Nodup)

include hspells hnodup

theorem member?_eq_some_iff_gives :
    (Document.object members).member? key = some given ↔ Gives text key given := by
  rw [gives_iff_mem hspells]
  exact lookup_eq_some_iff_mem hnodup

theorem required?_of_gives {read : Document → Option α} {x : α} (hgives : Gives text key given)
    (hread : read given = some x) : (Document.object members).required? read key = some x := by
  rw [Document.required?, (member?_eq_some_iff_gives hspells hnodup).mpr hgives]
  exact hread

theorem optional?_of_gives_iff {read : Document → Option α} {write : α → Document}
    {value : Option α}
    (hgives : ∀ given, Gives text key given ↔ ∃ x, value = some x ∧ write x = given)
    (hread : ∀ x, read (write x) = some x) :
    (Document.object members).optional? read key = some value := by
  have hmember : (Document.object members).member? key = value.map write := by
    ext given
    rw [member?_eq_some_iff_gives hspells hnodup, hgives, Option.map_eq_some_iff]
  rw [Document.optional?, hmember]
  cases value with
  | none => rfl
  | some x => simp only [Option.map_some, hread]

end

end DispatchAudit.Json
