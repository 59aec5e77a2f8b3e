import DispatchAudit.Json.Value
import DispatchAudit.Proofs.Json.Grammar
import DispatchAudit.Proofs.Text.Digits

/-!
# The text of a value spells the value

Every value that a report or a configuration is made of is a document of the grammar, and its
pretty text spells that document: an escape writes the code units of the character that it stands
for, the digits of a number have no zero in front, and the new lines are blanks around the items.
-/

namespace DispatchAudit.Json

/-! ### Strings -/

theorem isHexDigit_digitChar {digit : Nat} (hlt : digit < 16) :
    IsHexDigit (Nat.digitChar digit) digit := ⟨hlt, .inl rfl⟩

theorem hexUnit_hexPair {n : Nat} (hlt : n < 0x100) : HexUnit ('0' :: '0' :: hexPair n) n := by
  have hunit := HexUnit.mk (isHexDigit_digitChar (Nat.zero_lt_succ 15))
    (isHexDigit_digitChar (Nat.zero_lt_succ 15)) (isHexDigit_digitChar (by omega : n / 16 < 16))
    (isHexDigit_digitChar (Nat.mod_lt n (Nat.zero_lt_succ 15)))
  have hvalue : ((0 * 16 + 0) * 16 + n / 16) * 16 + n % 16 = n := by omega
  rwa [hvalue] at hunit

/-- A character is written so that reading gives it back. -/
theorem StringBody.escapedChar {rest : List Char} {written : List Nat} (c : Char)
    (hrest : StringBody rest written) :
    StringBody (escapedChar c ++ rest) (charUnits c ++ written) := by
  fun_cases Json.escapedChar c with
  | case1 | case2 | case3 | case4 | case5 | case6 | case7 =>
      subst_vars
      exact .short (by decide) hrest
  | case8 _ _ _ _ _ _ _ hcontrol =>
      have hunit : HexUnit ('0' :: '0' :: hexPair c.toNat) c.toNat := hexUnit_hexPair (by omega)
      rw [charUnits, if_pos (by omega)]
      exact .unit hunit hrest
  | case9 hquote hbackslash _ _ _ _ _ hcontrol =>
      exact .plain (Nat.not_lt.mp hcontrol) hquote hbackslash hrest

theorem stringBody_flatMap_escapedChar (chars : List Char) :
    StringBody (chars.flatMap escapedChar) (chars.flatMap charUnits) := by
  induction chars with
  | nil => exact .nil
  | cons c chars ih => exact ih.escapedChar c

theorem spells_stringText (text : String) :
    Spells (.value (.string (units text))) (stringText text) :=
  .string (stringBody_flatMap_escapedChar text.toList)

theorem spellsKey_stringText {before after : List Char} (key : String) (hbefore : AllSpace before)
    (hafter : AllSpace after) : SpellsKey (units key) (before ++ stringText key ++ after) :=
  ⟨before, _, after, hbefore, stringBody_flatMap_escapedChar key.toList, hafter, by
    simp [stringText]⟩

/-! ### Numbers -/

theorem head?_toDigits_ne {n : Nat} (hn : 0 < n) : (Nat.toDigits 10 n).head? ≠ some '0' := by
  induction n using Nat.strongRecOn with
  | ind n ih =>
      rcases Nat.lt_or_ge n 10 with hlt | hge
      · have hall : ∀ n < 10, 0 < n → [Nat.digitChar n].head? ≠ some '0' := by decide
        rw [Nat.toDigits_of_lt_base hlt]
        exact hall n hlt hn
      · rw [Nat.toDigits_of_base_le (by decide) hge, List.head?_append,
          Option.or_of_isSome (List.isSome_head?.mpr Nat.toDigits_ne_nil)]
        exact ih (n / 10) (Nat.div_lt_self hn (by decide)) (Nat.div_pos hge (by decide))

theorem isNumber_toString (n : Nat) : IsNumber (toString n).toList := by
  have hdigits : IsDigits (toString n).toList :=
    ⟨toList_toString_ne_nil n, fun c hc => isDigit_of_mem_toString hc⟩
  have hwhole : IsWhole (toString n).toList := by
    rcases Nat.eq_zero_or_pos n with rfl | hn
    · exact .inl rfl
    · rw [IsWhole, toList_toString] at *
      exact .inr ⟨hdigits, head?_toDigits_ne hn⟩
  exact ⟨[], _, [], [], .inl rfl, hwhole, .inl rfl, .inl rfl, by simp⟩

/-! ### Values -/

namespace Value

mutual

def document : Value → Document
  | null => .null
  | number value => .number (toString value).toList
  | string text => .string (units text)
  | array items => .array (itemDocuments items)
  | object members => .object (memberDocuments members)

def itemDocuments : List Value → List Document
  | [] => []
  | item :: rest => item.document :: itemDocuments rest

def memberDocuments : List (String × Value) → List Member
  | [] => []
  | (key, value) :: rest => (units key, value.document) :: memberDocuments rest

end

theorem memberDocuments_eq_map (members : List (String × Value)) :
    memberDocuments members = members.map fun member => (units member.1, member.2.document) := by
  induction members with
  | nil => rfl
  | cons member members ih => rw [memberDocuments, ih, List.map_cons]

theorem itemDocuments_eq_map (items : List Value) : itemDocuments items = items.map document := by
  induction items with
  | nil => rfl
  | cons item items ih => rw [itemDocuments, ih, List.map_cons]

@[simp] theorem document_string (text : String) :
    (string text).document = .string (units text) := rfl

@[simp] theorem document_strings (texts : List String) :
    (strings texts).document = .array (texts.map fun text => .string (units text)) := by
  rw [strings, document, itemDocuments_eq_map, List.map_map]
  rfl

theorem allSpace_newLine (depth : Nat) : AllSpace (newLine depth) := by
  intro c hc
  rcases List.mem_cons.mp hc with rfl | hc
  · simp
  · simp [List.eq_of_mem_replicate hc]

theorem allSpace_blank : AllSpace [' '] := by
  intro c hc
  exact .inl (List.mem_singleton.mp hc)

mutual

theorem spells_prettyAt (depth : Nat) : ∀ value : Value,
    Spells (.value value.document) (value.prettyAt depth)
  | null => .null
  | number value => .number (isNumber_toString value)
  | string text => spells_stringText text
  | array items => by
      have hitems := spells_prettyItems (depth + 1) items (allSpace_newLine depth)
      cases items with
      | nil => exact .emptyArray .nil
      | cons item rest =>
          simpa [document, prettyAt] using Spells.array (hitems (List.cons_ne_nil item rest))
  | object members => by
      have hmembers := spells_prettyMembers (depth + 1) members (allSpace_newLine depth)
      cases members with
      | nil => exact .emptyObject .nil
      | cons member rest =>
          simpa [document, prettyAt] using Spells.object (hmembers (List.cons_ne_nil member rest))

theorem spells_prettyItems (depth : Nat) {after : List Char} :
    ∀ items : List Value, AllSpace after → items ≠ [] →
      Spells (.items (itemDocuments items)) (prettyItems depth items ++ after)
  | [], _, hne => absurd rfl hne
  | [item], hafter, _ =>
      .lastItem (.padded (allSpace_newLine depth) (item.spells_prettyAt depth) hafter)
  | item :: next :: rest, hafter, _ => by
      have hitem := Spells.padded (allSpace_newLine depth) (item.spells_prettyAt depth) .nil
      have hitems := spells_prettyItems depth (next :: rest) hafter (List.cons_ne_nil next rest)
      simpa [itemDocuments, prettyItems] using Spells.item hitem hitems

theorem spells_prettyMembers (depth : Nat) {after : List Char} :
    ∀ members : List (String × Value), AllSpace after → members ≠ [] →
      Spells (.members (memberDocuments members)) (prettyMembers depth members ++ after)
  | [], _, hne => absurd rfl hne
  | [(key, value)], hafter, _ => by
      have hkey := spellsKey_stringText key (allSpace_newLine depth) .nil
      have hvalue := Spells.padded (allSpace_blank) (value.spells_prettyAt depth) hafter
      simpa [memberDocuments, prettyMembers] using Spells.lastMember hkey hvalue
  | (key, value) :: next :: rest, hafter, _ => by
      have hkey := spellsKey_stringText key (allSpace_newLine depth) .nil
      have hvalue := Spells.padded (allSpace_blank) (value.spells_prettyAt depth) .nil
      have hmembers := spells_prettyMembers depth (next :: rest) hafter (List.cons_ne_nil next rest)
      simpa [memberDocuments, prettyMembers] using Spells.member hkey hvalue hmembers

end

/-- The pretty text of a value, and blanks behind it, is the value. -/
theorem spells_pretty_append (value : Value) {after : List Char} (hafter : AllSpace after) :
    Spells (.padded value.document) (value.pretty.toList ++ after) := by
  rw [pretty, String.toList_ofList]
  exact .padded .nil (value.spells_prettyAt 0) hafter

theorem spells_pretty (value : Value) : Spells (.padded value.document) value.pretty.toList := by
  simpa using value.spells_pretty_append .nil

theorem spellsObject_pretty_append (members : List (String × Value)) {after : List Char}
    (hafter : AllSpace after) :
    SpellsObject (memberDocuments members) ((object members).pretty.toList ++ after) :=
  (object members).spells_pretty_append hafter

theorem spellsObject_pretty (members : List (String × Value)) :
    SpellsObject (memberDocuments members) (object members).pretty.toList :=
  (object members).spells_pretty

end Value

end DispatchAudit.Json
