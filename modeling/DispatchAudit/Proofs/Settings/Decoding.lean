import DispatchAudit.Proofs.Json.Uniqueness
import DispatchAudit.Proofs.Settings.Acceptable

/-!
# Which configurations are accepted

A configuration that begins like an object is accepted exactly if it is an object of the grammar
whose members can be taken. What the settings are then is said by the members alone, whatever
their order and however they are written.
-/

namespace DispatchAudit

open Audit Json

variable {members : List Member} {draft : Draft} {settings : Settings}

/-! ### Whole texts -/

namespace Configuration

variable {text rest : List Char}

theorem isBlank_of_isSpace {c : Char} (hc : isSpace c = true) : Text.isBlank c = true := by
  rcases isSpace_iff.mp hc with rfl | rfl | rfl | rfl <;> decide

theorem dropBlanks_skipSpace (text : List Char) :
    Text.dropBlanks (skipSpace text) = Text.dropBlanks text := by
  obtain ⟨blanks, hblanks, htext⟩ := exists_blanks_append_skipSpace text
  rw [htext, skipSpace_append hblanks, skipSpace_skipSpace]
  exact (List.dropWhile_append_of_pos fun c hmem => isBlank_of_isSpace (hblanks.isSpace c hmem)).symm

theorem exists_members_of_readDraft (hobject : (Text.dropBlanks text).head? = some '\x7b')
    (hread : readDraft text = .ok (draft, rest)) :
    ∃ before members inner, AllSpace before ∧ IsInner .members true members inner ∧
      Draft.empty.TakesAll members draft ∧
      text = before ++ ('\x7b' :: inner ++ ['\x7d']) ++ rest := by
  revert hread
  fun_cases readDraft text <;> intro hread <;> try cases hread
  case case2 hspace =>
    obtain ⟨members, inner, hmembers, htakesAll, rfl⟩ := exists_members_of_readMembers hread
    obtain ⟨before, hbefore, rfl⟩ := exists_blanks_of_skipSpace hspace
    exact ⟨before, members, inner, hbefore, hmembers, htakesAll, by simp⟩
  case case3 hspace _ =>
    rw [← dropBlanks_skipSpace, hspace] at hobject
    cases hobject

theorem readSettings_eq_ok_iff : readSettings text = .ok settings ↔
    ∃ draft rest, readDraft text = .ok (draft, rest) ∧ AllSpace rest ∧
      settings = draft.settings := by
  constructor
  · fun_cases readSettings text <;> intro hread <;> cases hread
    case mp.case2 draft rest hdraft hend =>
      obtain ⟨blanks, hblanks, rfl⟩ := exists_blanks_of_skipSpace hend
      exact ⟨draft, _, hdraft, by rwa [List.append_nil], rfl⟩
  · rintro ⟨draft, rest, hdraft, hblanks, rfl⟩
    rw [readSettings, hdraft]
    simp only [skipSpace_of_allSpace hblanks]

theorem exists_draft_of_readSettings (hobject : (Text.dropBlanks text).head? = some '\x7b')
    (hread : readSettings text = .ok settings) :
    ∃ members draft, SpellsObject members text ∧ Draft.empty.TakesAll members draft ∧
      settings = draft.settings := by
  obtain ⟨draft, after, hdraft, hafter, rfl⟩ := readSettings_eq_ok_iff.mp hread
  obtain ⟨before, members, inner, hbefore, hmembers, htakesAll, rfl⟩ :=
    exists_members_of_readDraft hobject hdraft
  have hvalue := spells_object_iff.mpr ⟨inner, hmembers, rfl⟩
  exact ⟨members, draft, .padded hbefore hvalue hafter, htakesAll, rfl⟩

theorem readSettings_of_spells (hspells : SpellsObject members text)
    (htakesAll : Draft.empty.TakesAll members draft) :
    readSettings text = .ok draft.settings := by
  cases hspells with
  | @padded _ before raw after hbefore hvalue hafter =>
      obtain ⟨inner, hmembers, rfl⟩ := spells_object_iff.mp hvalue
      have hspace : skipSpace (before ++ ('\x7b' :: inner ++ ['\x7d']) ++ after) =
          '\x7b' :: (inner ++ '\x7d' :: after) := by
        rw [List.append_assoc, skipSpace_append hbefore]
        simp [skipSpace_cons, isSpace]
      have hdraft : readDraft (before ++ ('\x7b' :: inner ++ ['\x7d']) ++ after) =
          .ok (draft, after) := by
        rw [readDraft, hspace]
        exact readMembers_append htakesAll hmembers after
      exact readSettings_eq_ok_iff.mpr ⟨draft, after, hdraft, hafter, rfl⟩

end Configuration

namespace Settings

variable {text : String}

theorem ofText_eq_ok_iff :
    Settings.ofText text = .ok settings ↔ Configuration.readSettings text.toList = .ok settings := by
  unfold ofText
  cases Configuration.readSettings text.toList <;> simp

theorem exists_of_ofText (hobject : (Text.dropBlanks text.toList).head? = some '\x7b')
    (hread : Settings.ofText text = .ok settings) :
    ∃ members, SpellsObject members text.toList ∧ Acceptable members ∧
      FieldsOf members settings := by
  obtain ⟨members, draft, hspells, htakesAll, rfl⟩ :=
    Configuration.exists_draft_of_readSettings hobject (ofText_eq_ok_iff.mp hread)
  have hrecords := Draft.empty_records.takesAll acceptable_nil htakesAll
  exact ⟨members, hspells, hrecords.1, hrecords.2.fieldsOf⟩

theorem ofText_of_spells (hspells : SpellsObject members text.toList)
    (hacceptable : Acceptable members) (hfields : FieldsOf members settings) :
    Settings.ofText text = .ok settings := by
  obtain ⟨draft, htakesAll⟩ := exists_takesAll_iff.mpr hacceptable
  have hrecords := (Draft.empty_records.takesAll acceptable_nil htakesAll).2
  rw [ofText_eq_ok_iff, Configuration.readSettings_of_spells hspells htakesAll,
    FieldsOf.unique hacceptable hrecords.fieldsOf hfields]

theorem exists_fieldsOf (hacceptable : Acceptable members) :
    ∃ settings, FieldsOf members settings := by
  obtain ⟨draft, htakesAll⟩ := exists_takesAll_iff.mpr hacceptable
  exact ⟨draft.settings, (Draft.empty_records.takesAll acceptable_nil htakesAll).2.fieldsOf⟩

/-- A text that begins like an object is accepted exactly if it is an object with acceptable
members. The settings are then those that the members give, so two texts whose members for
settings are the same up to their order give the same. -/
theorem ofText_object_iff_acceptable (hobject : (Text.dropBlanks text.toList).head? = some '\x7b') :
    ((∃ settings, Settings.ofText text = .ok settings) ↔
      ∃ members, SpellsObject members text.toList ∧ Acceptable members) ∧
    (∀ members settings, SpellsObject members text.toList → Settings.ofText text = .ok settings →
      FieldsOf members settings) ∧
    ∀ (other : String) (members members' : List Member), SpellsObject members text.toList →
      SpellsObject members' other.toList → Acceptable members → Acceptable members' →
      (knownMembers members).Perm (knownMembers members') →
      Settings.ofText text = Settings.ofText other := by
  refine ⟨⟨?_, ?_⟩, ?_, ?_⟩
  · rintro ⟨settings, hread⟩
    obtain ⟨members, hspells, hacceptable, _⟩ := exists_of_ofText hobject hread
    exact ⟨members, hspells, hacceptable⟩
  · rintro ⟨members, hspells, hacceptable⟩
    obtain ⟨settings, hfields⟩ := exists_fieldsOf hacceptable
    exact ⟨settings, ofText_of_spells hspells hacceptable hfields⟩
  · intro members settings hspells hread
    obtain ⟨members', hspells', _, hfields⟩ := exists_of_ofText hobject hread
    rwa [hspells.unique hspells']
  · intro other members members' hspells hspells' hacceptable hacceptable' hperm
    obtain ⟨settings, hfields⟩ := exists_fieldsOf hacceptable
    rw [ofText_of_spells hspells hacceptable hfields,
      ofText_of_spells hspells' hacceptable' (hfields.of_perm hperm)]

/-- A configuration with one setting, whose key and value are written with escapes, and with an
unknown member that holds half a surrogate pair and a number out of range. -/
def sampleConfiguration : String :=
  " \x7b\"endMarke\\u0072\": \"\\uD83D\\ude00\" ,\"x\":[\"\\udc00\",-1e999]\x7d\n"

def sampleMembers : List Member :=
  [(units "endMarker", .string (units "😀")),
    (units "x", .array [.string [0xDC00], .number ['-', '1', 'e', '9', '9', '9']])]

theorem stringBody_append {front body : List Char} {written : List Nat}
    (hplain : front.all (fun c => 0x20 ≤ c.toNat ∧ c ≠ '"' ∧ c ≠ '\\') = true)
    (hbody : StringBody body written) :
    StringBody (front ++ body) (front.flatMap charUnits ++ written) := by
  induction front with
  | nil => exact hbody
  | cons c front ih =>
      rw [List.all_cons, Bool.and_eq_true, decide_eq_true_eq] at hplain
      obtain ⟨⟨hcontrol, hquote, hbackslash⟩, hfront⟩ := hplain
      rw [List.flatMap_cons, List.append_assoc]
      exact .plain hcontrol hquote hbackslash (ih hfront)

theorem hexUnit_of_readHex {digits : List Char} {unit : Nat}
    (hread : readHex digits = .ok (unit, [])) : HexUnit digits unit := by
  obtain ⟨digits', hunit, rfl⟩ := exists_hexUnit_of_readHex hread
  rwa [List.append_nil]

theorem spells_sampleMembers : SpellsObject sampleMembers sampleConfiguration.toList := by
  have hblank : AllSpace [' '] := by simp [AllSpace]
  have hfeed : AllSpace ['\n'] := by simp [AllSpace]
  have hr : HexUnit ['0', '0', '7', '2'] 0x72 := hexUnit_of_readHex rfl
  have hhigh : HexUnit ['D', '8', '3', 'D'] 0xD83D := hexUnit_of_readHex rfl
  have hlow : HexUnit ['d', 'e', '0', '0'] 0xDE00 := hexUnit_of_readHex rfl
  have hhalf : HexUnit ['d', 'c', '0', '0'] 0xDC00 := hexUnit_of_readHex rfl
  have hplain : "endMarke".toList.all (fun c => 0x20 ≤ c.toNat ∧ c ≠ '"' ∧ c ≠ '\\') = true := by
    decide
  have hkey : StringBody "endMarke\\u0072".toList (units "endMarker") :=
    stringBody_append hplain (.unit hr .nil)
  have hx : StringBody ['x'] (units "x") := .plain (by decide) (by decide) (by decide) .nil
  have hpair : StringBody "\\uD83D\\ude00".toList (units "😀") := .unit hhigh (.unit hlow .nil)
  have hone : IsDigits ['1'] := ⟨by decide, List.all_eq_true.mp rfl⟩
  have hnines : IsDigits ['9', '9', '9'] := ⟨by decide, List.all_eq_true.mp rfl⟩
  have hnumber : IsNumber ['-', '1', 'e', '9', '9', '9'] :=
    ⟨['-'], ['1'], [], ['e', '9', '9', '9'], .inr rfl, .inr ⟨hone, by decide⟩, .inl rfl,
      .inr ⟨'e', [], ['9', '9', '9'], .inl rfl, .inl rfl, hnines, rfl⟩, rfl⟩
  have hitems := Spells.item (.padded .nil (.string (.unit hhalf .nil)) .nil)
    (.lastItem (.padded .nil (.number hnumber) .nil))
  have hmembers := Spells.member ⟨[], _, [], .nil, hkey, .nil, rfl⟩
    (.padded hblank (.string hpair) hblank)
    (.lastMember ⟨[], _, [], .nil, hx, .nil, rfl⟩ (.padded .nil (.array hitems) .nil))
  exact .padded hblank (.object hmembers) hfeed

theorem acceptable_sampleMembers : Acceptable sampleMembers := by
  constructor
  · intro member hmem
    rcases List.mem_cons.mp hmem with rfl | hmem
    · exact ⟨_, rfl⟩
    · rw [List.mem_singleton.mp hmem]
      exact ⟨_, rfl⟩
  · intro key
    cases key with
    | text setting => cases setting <;> decide
    | duplicateCheck => decide
  · intro setting value hmem
    rcases List.mem_cons.mp hmem with heq | hmem
    · exact ⟨_, (Prod.mk.inj heq).2⟩
    · have hkey := units_inj.mp (Prod.mk.inj (List.mem_singleton.mp hmem)).1
      exact absurd hkey (by cases setting <;> decide)
  · intro value hmem
    rcases List.mem_cons.mp hmem with heq | hmem
    · exact absurd (units_inj.mp (Prod.mk.inj heq).1) (by decide)
    · exact absurd (units_inj.mp (Prod.mk.inj (List.mem_singleton.mp hmem)).1) (by decide)

theorem ofText_sampleConfiguration :
    (Text.dropBlanks sampleConfiguration.toList).head? = some '\x7b' ∧
      ∃ settings, Settings.ofText sampleConfiguration = .ok settings ∧
        settings.endMarker = "😀" ∧ settings.startMarker = TextSetting.startMarker.fallback := by
  have hobject : (Text.dropBlanks sampleConfiguration.toList).head? = some '\x7b' := by decide
  obtain ⟨haccepted, hfields, _⟩ := ofText_object_iff_acceptable hobject
  obtain ⟨settings, hread⟩ :=
    haccepted.mpr ⟨sampleMembers, spells_sampleMembers, acceptable_sampleMembers⟩
  have hfields := hfields sampleMembers settings spells_sampleMembers hread
  refine ⟨hobject, settings, hread, ?_, ?_⟩
  · exact hfields.text_given .endMarker "😀" List.mem_cons_self
  · exact hfields.text_default .startMarker (by decide)

end Settings

end DispatchAudit
