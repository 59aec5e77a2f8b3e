import DispatchAudit.Proofs.Json.Grammar

/-!
# Where the characters of a text stand

A quote opens a string and the next one closes it, unless a backslash of the string stands in
front of it. This much tells of every character of a text whether it stands inside a string, and
it does not take the grammar to say it. A text that spells something leaves none of its strings
open, so the parts of a document can be looked at one after the other, each from outside.
-/

namespace DispatchAudit.Json

/-- Where a reader is in a text. -/
inductive Place where
  /-- In no string. -/
  | outside
  /-- In a string, behind its opening quote. -/
  | inside
  /-- In a string, right behind the backslash of an escape. -/
  | escaped
deriving DecidableEq, Repr, Inhabited

namespace Place

/-- The place behind a character. -/
def next : Place → Char → Place
  | outside, c => if c = '"' then inside else outside
  | inside, c => if c = '"' then outside else if c = '\\' then escaped else inside
  | escaped, _ => inside

def after (place : Place) (text : List Char) : Place := text.foldl next place

@[simp] theorem after_nil (place : Place) : place.after [] = place := rfl

@[simp] theorem after_cons (place : Place) (c : Char) (text : List Char) :
    place.after (c :: text) = (place.next c).after text := rfl

theorem after_append (place : Place) (left right : List Char) :
    place.after (left ++ right) = (place.after left).after right :=
  List.foldl_append

end Place

/-- Whether no control character stands inside a string of the text, which is read from the place
on. -/
def ControlFree (place : Place) (text : List Char) : Prop :=
  ∀ before c rest, text = before ++ c :: rest → place.after before ≠ .outside → 0x20 ≤ c.toNat

/-- Whether the text leads from the place back to it, without a control character in a string. -/
structure Returns (place : Place) (text : List Char) : Prop where
  after_eq : place.after text = place
  controlFree : ControlFree place text

/-! ### Texts one behind the other -/

variable {place : Place} {text left right body : List Char} {written : List Nat} {c : Char}

theorem ControlFree.nil : ControlFree place [] := by
  intro before c rest htext
  cases before <;> cases htext

theorem controlFree_cons : ControlFree place (c :: text) ↔
    (place ≠ .outside → 0x20 ≤ c.toNat) ∧ ControlFree (place.next c) text := by
  constructor
  · intro hfree
    refine ⟨fun hplace => hfree [] c text rfl hplace, ?_⟩
    rintro before d rest rfl hplace
    exact hfree (c :: before) d rest rfl hplace
  · rintro ⟨hfirst, hlater⟩ before d rest htext hplace
    cases before with
    | nil =>
        cases htext
        exact hfirst hplace
    | cons e before =>
        cases htext
        exact hlater before d rest rfl hplace

theorem controlFree_append : ControlFree place (left ++ right) ↔
    ControlFree place left ∧ ControlFree (place.after left) right := by
  induction left generalizing place with
  | nil => simp [ControlFree.nil]
  | cons c left ih =>
      rw [List.cons_append, controlFree_cons, controlFree_cons, ih, Place.after_cons, and_assoc]

theorem Returns.nil : Returns place [] := ⟨rfl, .nil⟩

theorem Returns.append (hleft : Returns place left) (hright : Returns place right) :
    Returns place (left ++ right) := by
  constructor
  · rw [Place.after_append, hleft.after_eq, hright.after_eq]
  · rw [controlFree_append, hleft.after_eq]
    exact ⟨hleft.controlFree, hright.controlFree⟩

theorem Returns.cons (hnext : place.next c = place) (hcontrol : place ≠ .outside → 0x20 ≤ c.toNat)
    (hrest : Returns place text) : Returns place (c :: text) := by
  constructor
  · rw [Place.after_cons, hnext, hrest.after_eq]
  · rw [controlFree_cons, hnext]
    exact ⟨hcontrol, hrest.controlFree⟩

/-! ### Between the quotes -/

/-- Whether the character stands for itself in a string. -/
structure IsPlain (c : Char) : Prop where
  control : 0x20 ≤ c.toNat
  quote : c ≠ '"'
  backslash : c ≠ '\\'

theorem isPlain_iff : IsPlain c ↔ 0x20 ≤ c.toNat ∧ c ≠ '"' ∧ c ≠ '\\' :=
  ⟨fun hplain => ⟨hplain.control, hplain.quote, hplain.backslash⟩,
    fun ⟨hcontrol, hquote, hbackslash⟩ => ⟨hcontrol, hquote, hbackslash⟩⟩

instance (c : Char) : Decidable (IsPlain c) := decidable_of_iff _ isPlain_iff.symm

theorem IsHexDigit.isPlain {digit : Nat} (hdigit : IsHexDigit c digit) : IsPlain c := by
  have hall : ∀ digit < 16,
      IsPlain (Nat.digitChar digit) ∧ IsPlain (Nat.digitChar digit).toUpper := by decide
  obtain ⟨hlt, rfl | rfl⟩ := hdigit
  · exact (hall digit hlt).1
  · exact (hall digit hlt).2

theorem HexUnit.isPlain {digits : List Char} {unit : Nat} (hunit : HexUnit digits unit) :
    ∀ c ∈ digits, IsPlain c := by
  cases hunit with
  | mk ha hb hc hd =>
      simp only [List.forall_mem_cons]
      exact ⟨ha.isPlain, hb.isPlain, hc.isPlain, hd.isPlain, List.forall_mem_nil _⟩

theorem returns_inside_plain (hplain : IsPlain c) (hrest : Returns .inside text) :
    Returns .inside (c :: text) := by
  refine hrest.cons ?_ fun _ => hplain.control
  rw [Place.next, if_neg hplain.quote, if_neg hplain.backslash]

theorem returns_inside_append (hplain : ∀ c ∈ left, IsPlain c) (hright : Returns .inside right) :
    Returns .inside (left ++ right) := by
  induction left with
  | nil => exact hright
  | cons c left ih =>
      obtain ⟨hc, hleft⟩ := List.forall_mem_cons.mp hplain
      exact returns_inside_plain hc (ih hleft)

/-- The letter of an escape is passed over, whatever it is. -/
theorem returns_inside_escape {letter : Char} (hcontrol : 0x20 ≤ letter.toNat)
    (hrest : Returns .inside text) : Returns .inside ('\\' :: letter :: text) := by
  constructor
  · exact hrest.after_eq
  · rw [controlFree_cons, controlFree_cons]
    exact ⟨fun _ => by decide, fun _ => hcontrol, hrest.controlFree⟩

theorem StringBody.returns (hbody : StringBody body written) : Returns .inside body := by
  induction hbody with
  | nil => exact .nil
  | plain hcontrol hquote hbackslash _ ih =>
      exact returns_inside_plain ⟨hcontrol, hquote, hbackslash⟩ ih
  | short hescape _ ih =>
      have hall : ∀ escape ∈ shortEscapes, 0x20 ≤ escape.1.toNat := by decide
      exact returns_inside_escape (hall _ hescape) ih
  | unit hunit _ ih =>
      exact returns_inside_escape (by decide) (returns_inside_append hunit.isPlain ih)

/-- A string leads from outside through its inside back to the outside. -/
theorem StringBody.returns_quoted (hbody : StringBody body written) :
    Returns .outside ('"' :: body ++ ['"']) := by
  have hinside := hbody.returns
  constructor
  · rw [List.cons_append, Place.after_cons, Place.after_append]
    change (Place.inside.after body).after ['"'] = .outside
    rw [hinside.after_eq]
    rfl
  · rw [List.cons_append, controlFree_cons, controlFree_append]
    refine ⟨fun hplace => absurd rfl hplace, hinside.controlFree, ?_⟩
    change ControlFree (Place.inside.after body) ['"']
    rw [hinside.after_eq, controlFree_cons]
    exact ⟨fun _ => by decide, .nil⟩

/-! ### Outside of strings -/

theorem returns_outside_cons (hc : c ≠ '"') (hrest : Returns .outside text) :
    Returns .outside (c :: text) :=
  hrest.cons (if_neg hc) fun hplace => absurd rfl hplace

theorem returns_outside_of_not_mem (hquote : '"' ∉ text) : Returns .outside text := by
  induction text with
  | nil => exact .nil
  | cons c text ih =>
      obtain ⟨hc, htext⟩ := List.ne_and_not_mem_of_not_mem_cons hquote
      exact returns_outside_cons (Ne.symm hc) (ih htext)

theorem AllSpace.returns (hblanks : AllSpace text) : Returns .outside text := by
  apply returns_outside_of_not_mem
  intro hquote
  exact absurd (hblanks _ hquote) (by decide)

theorem IsDigits.quote_not_mem (hdigits : IsDigits text) : '"' ∉ text :=
  fun hquote => absurd (hdigits.isDigit _ hquote) (by decide)

theorem IsWhole.quote_not_mem (hwhole : IsWhole text) : '"' ∉ text := by
  rcases hwhole with rfl | ⟨hdigits, _⟩
  · decide
  · exact hdigits.quote_not_mem

theorem IsFraction.quote_not_mem (hfraction : IsFraction text) : '"' ∉ text := by
  rcases hfraction with rfl | ⟨digits, hdigits, rfl⟩
  · exact List.not_mem_nil
  · exact List.not_mem_cons_of_ne_of_not_mem (by decide) hdigits.quote_not_mem

theorem IsExponent.quote_not_mem (hexponent : IsExponent text) : '"' ∉ text := by
  rcases hexponent with rfl | ⟨letter, sign, digits, hletter, hsign, hdigits, rfl⟩
  · exact List.not_mem_nil
  · have hmark : '"' ∉ letter :: sign := by
      rcases hletter with rfl | rfl <;> rcases hsign with rfl | rfl | rfl <;> decide
    rw [List.mem_append, not_or]
    exact ⟨hmark, hdigits.quote_not_mem⟩

theorem IsNumber.quote_not_mem (hnumber : IsNumber text) : '"' ∉ text := by
  obtain ⟨sign, whole, fraction, exponent, hsign, hwhole, hfraction, hexponent, rfl⟩ := hnumber
  have hmark : '"' ∉ sign := by
    rcases hsign with rfl | rfl <;> decide
  simp only [List.mem_append, not_or]
  exact ⟨⟨⟨hmark, hwhole.quote_not_mem⟩, hfraction.quote_not_mem⟩, hexponent.quote_not_mem⟩

/-! ### Phrases -/

theorem returns_bracketed {opening closing : Char} (hopening : opening ≠ '"')
    (hclosing : closing ≠ '"') (htext : Returns .outside text) :
    Returns .outside (opening :: text ++ [closing]) :=
  (returns_outside_cons hopening htext).append (returns_outside_cons hclosing .nil)

theorem SpellsKey.returns {key : List Nat} (hkey : SpellsKey key text) : Returns .outside text := by
  obtain ⟨before, body, after, hbefore, hbody, hafter, rfl⟩ := hkey
  have hquoted := (hbefore.returns.append hbody.returns_quoted).append hafter.returns
  simpa using hquoted

/-- A text that spells something leaves no string open and has no control character in one. -/
theorem Spells.returns {phrase : Phrase} (hspells : Spells phrase text) :
    Returns .outside text := by
  induction hspells with
  | null => exact returns_outside_of_not_mem (by decide)
  | true => exact returns_outside_of_not_mem (by decide)
  | false => exact returns_outside_of_not_mem (by decide)
  | number hnumber => exact returns_outside_of_not_mem hnumber.quote_not_mem
  | string hbody => exact hbody.returns_quoted
  | emptyArray hblanks => exact returns_bracketed (by decide) (by decide) hblanks.returns
  | array _ ih => exact returns_bracketed (by decide) (by decide) ih
  | emptyObject hblanks => exact returns_bracketed (by decide) (by decide) hblanks.returns
  | object _ ih => exact returns_bracketed (by decide) (by decide) ih
  | padded hbefore _ hafter ih => exact (hbefore.returns.append ih).append hafter.returns
  | lastItem _ ih => exact ih
  | item _ _ ihItem ihItems => exact ihItem.append (returns_outside_cons (by decide) ihItems)
  | lastMember hkey _ ih => exact hkey.returns.append (returns_outside_cons (by decide) ih)
  | member hkey _ _ ihValue ihMembers =>
      have hvalue := hkey.returns.append (returns_outside_cons (c := ':') (by decide) ihValue)
      exact hvalue.append (returns_outside_cons (by decide) ihMembers)

end DispatchAudit.Json
