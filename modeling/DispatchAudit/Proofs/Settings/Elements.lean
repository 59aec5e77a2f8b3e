import DispatchAudit.Proofs.Json.Printing
import DispatchAudit.Proofs.Settings.Decoding
import Mathlib.Data.List.Perm.Lattice

/-!
# Configurations by position

An array gives the settings in their order, and as many of them as it has elements. It is read by
other functions than an object: elements are not checked for being given before, and an array of
all settings must end where one of fewer may go on. What it gives is nevertheless what the object
gives whose members are the settings in order with the elements for values. Each element that is
read is one that the draft takes for the next setting, and each that it takes is read, as the
settings still to come are never in the draft.
-/

namespace DispatchAudit

open Audit Json

variable {draft result : Draft} {key key' : SettingKey} {keys : List SettingKey}
  {value : Document} {values : List Document} {settings : Settings}

/-! ### Members by position -/

/-- The members that give the values for the keys, one each, for as long as there are both. -/
def membersFor (keys : List SettingKey) (values : List Document) : List Member :=
  List.zipWith (fun key value => (units key.word, value)) keys values

/-- The members of the object that gives the values for the settings in their order. -/
def positional (values : List Document) : List Member := membersFor SettingKey.all values

def Settings.HasDefault (settings : Settings) : SettingKey → Prop
  | .text setting => settings.text setting = setting.fallback
  | .duplicateCheck => settings.duplicateCheck = .length

theorem SettingKey.nodup_all : SettingKey.all.Nodup := by
  decide

theorem keys_positional (values : List Document) :
    (positional values).map Prod.fst =
      (SettingKey.all.take values.length).map fun key => units key.word := by
  rw [positional, membersFor, List.map_zipWith]
  generalize SettingKey.all = keys
  induction keys generalizing values with
  | nil => simp
  | cons key keys ih =>
      cases values with
      | nil => rfl
      | cons value values => simp [ih]

theorem FieldsOf.hasDefault (hfields : FieldsOf (positional values) settings)
    (hlater : key ∈ SettingKey.all.drop values.length) : settings.HasDefault key := by
  have hnot : units key.word ∉ (positional values).map Prod.fst := by
    rw [keys_positional, List.mem_map]
    rintro ⟨key', hearlier, hword⟩
    obtain rfl := units_word_inj.mp hword
    exact List.disjoint_take_drop SettingKey.nodup_all (Nat.le_refl _) hearlier hlater
  cases key with
  | text setting => exact hfields.text_default setting hnot
  | duplicateCheck => exact hfields.rule_default hnot

theorem Draft.has_text_cons (draft : Draft) (setting : TextSetting) (text : String) :
    Draft.has { draft with texts := (setting, text) :: draft.texts } key =
      (key == .text setting || draft.has key) := by
  cases key with
  | text setting' =>
      by_cases hsame : setting' = setting
      · simp [has, hsame]
      · simp [has, List.lookup_cons, beq_false_of_ne hsame, hsame]
  | duplicateCheck => rfl

theorem Draft.has_rule (draft : Draft) (rule : DuplicateRule) :
    Draft.has { draft with duplicateCheck? := some rule } key =
      (key == .duplicateCheck || draft.has key) := by
  cases key <;> rfl

/-- What the draft takes for one setting does not give another. -/
theorem Draft.Takes.has_eq_false (htakes : draft.Takes (units key.word, value) result)
    (hne : key' ≠ key) (hnew : draft.has key' = false) : result.has key' = false := by
  generalize hmember : (units key.word, value) = member at htakes
  cases htakes with
  | unknown hunknown => exact absurd (Prod.mk.inj hmember).1.symm (units_word_ne hunknown key)
  | @text setting text _ =>
      obtain rfl : key = .text setting := units_word_inj.mp (Prod.mk.inj hmember).1
      simp [Draft.has_text_cons, hne, hnew]
  | rule _ _ =>
      obtain rfl : key = .duplicateCheck := units_word_inj.mp (Prod.mk.inj hmember).1
      simp [Draft.has_rule, hne, hnew]

namespace Configuration

variable {text rest raw inner front before blanks : List Char} {isFirst : Bool}

/-! ### Elements -/

theorem spells_items_cons_iff (text : List Char) : Spells (.items (value :: values)) text ↔
    ∃ before rest, AllSpace before ∧ (∃ raw inner, Spells (.value value) raw ∧
      IsInner .items false values inner ∧ rest = raw ++ inner) ∧ text = before ++ rest := by
  constructor
  · intro hitems
    cases hitems with
    | lastItem hitem =>
        cases hitem with
        | padded hbefore hvalue hafter =>
            exact ⟨_, _, hbefore, ⟨_, _, hvalue, .inl ⟨rfl, hafter⟩, rfl⟩, List.append_assoc _ _ _⟩
    | item hitem hitems =>
        cases hitem with
        | padded hbefore hvalue hafter =>
            exact ⟨_, _, hbefore, ⟨_, _, hvalue, .inr ⟨_, _, hafter, hitems, rfl⟩, rfl⟩, by simp⟩
  · rintro ⟨before, _, hbefore, ⟨raw, inner, hvalue, hinner, rfl⟩, rfl⟩
    rcases hinner with ⟨rfl, hafter⟩ | ⟨after, more, hafter, hmore, rfl⟩
    · simpa using Spells.lastItem (.padded hbefore hvalue hafter)
    · simpa using Spells.item (.padded hbefore hvalue hafter) hmore

theorem isInner_items_cons_iff : IsInner .items isFirst (value :: values) text ↔
    ∃ front rest, OpensItem isFirst front ∧ (∃ raw inner, Spells (.value value) raw ∧
      IsInner .items false values inner ∧ rest = raw ++ inner) ∧ text = front ++ rest :=
  isInner_cons_iff spells_items_cons_iff

/-! ### What begins an element -/

theorem exists_of_startElement_closed (hstart : startElement isFirst text = .ok (.closed rest)) :
    ∃ blanks, AllSpace blanks ∧ text = blanks ++ ']' :: rest := by
  revert hstart
  fun_cases startElement isFirst text <;> intro hstart <;> cases hstart
  case case2 hspace => exact exists_blanks_of_skipSpace hspace

theorem exists_of_startElement_item (hstart : startElement isFirst text = .ok (.item rest)) :
    ∃ front, OpensItem isFirst front ∧ text = front ++ rest := by
  revert hstart
  fun_cases startElement isFirst text <;> intro hstart <;> cases hstart
  case case3 hspace _ hfirst =>
    obtain ⟨blanks, hblanks, rfl⟩ := exists_blanks_of_skipSpace hspace
    subst hfirst
    exact ⟨blanks, hblanks, rfl⟩
  case case6 hfirst _ _ hbehind _ hspace _ =>
    obtain ⟨blanks, hblanks, rfl⟩ := exists_blanks_of_skipSpace hspace
    obtain ⟨before, hbefore, rfl⟩ := exists_blanks_of_skipSpace hbehind
    obtain rfl : isFirst = false := Bool.not_eq_true _ ▸ hfirst
    exact ⟨_, ⟨blanks, before, hblanks, hbefore, rfl⟩, by simp⟩

theorem exists_of_skipArrayEnd (hskip : skipArrayEnd text = .ok rest) :
    ∃ blanks, AllSpace blanks ∧ text = blanks ++ ']' :: rest := by
  revert hskip
  fun_cases skipArrayEnd text <;> intro hskip <;> cases hskip
  case case2 hspace => exact exists_blanks_of_skipSpace hspace

theorem startElement_closed (hblanks : AllSpace blanks) (rest : List Char) :
    startElement isFirst (blanks ++ ']' :: rest) = .ok (.closed rest) := by
  rw [startElement, skipSpace_append hblanks, skipSpace_cons (by decide)]
  rfl

theorem skipArrayEnd_append (hblanks : AllSpace blanks) (rest : List Char) :
    skipArrayEnd (blanks ++ ']' :: rest) = .ok rest := by
  rw [skipArrayEnd, skipSpace_append hblanks, skipSpace_cons (by decide)]
  rfl

theorem startElement_item (hfront : OpensItem isFirst front)
    (hvalue : Spells (.value value) raw) (rest : List Char) :
    startElement isFirst (front ++ (raw ++ rest)) = .ok (.item (raw ++ rest)) := by
  obtain ⟨c, more, rfl, hspace, hclosing⟩ := exists_head_of_value hvalue
  cases isFirst with
  | true =>
      rw [startElement, skipSpace_append hfront, List.cons_append, skipSpace_cons hspace]
      simp only [if_neg hclosing, if_true]
  | false =>
      obtain ⟨blanks, before, hblanks, hbefore, rfl⟩ := hfront
      rw [startElement, List.append_assoc, skipSpace_append hblanks, List.cons_append,
        skipSpace_cons (by decide)]
      simp only [Bool.false_eq_true, if_false, if_true]
      rw [skipSpace_append hbefore, List.cons_append, skipSpace_cons hspace]
      simp only [if_neg hclosing]
      rfl

theorem readSetting_append (htakes : draft.Takes (units key.word, value) result)
    (hbefore : AllSpace before) (hvalue : Spells (.value value) raw) (rest : List Char) :
    readSetting draft key (before ++ raw ++ rest) = .ok (result, rest) := by
  generalize hmember : (units key.word, value) = member at htakes
  cases htakes with
  | unknown hunknown => exact absurd (Prod.mk.inj hmember).1.symm (units_word_ne hunknown key)
  | @text setting text _ =>
      obtain ⟨hkey, rfl⟩ := Prod.mk.inj hmember
      obtain rfl : key = .text setting := units_word_inj.mp hkey
      rw [readSetting, readText_append hbefore hvalue]
      rfl
  | rule _ hrule =>
      obtain ⟨hkey, rfl⟩ := Prod.mk.inj hmember
      obtain rfl : key = .duplicateCheck := units_word_inj.mp hkey
      rw [readSetting, readRule_append hrule hbefore hvalue]
      rfl

/-! ### Arrays -/

theorem exists_elements_of_readElements (hnodup : keys.Nodup)
    (hnew : ∀ key ∈ keys, draft.has key = false)
    (hread : readElements keys draft isFirst text = .ok (result, rest)) :
    ∃ values inner, values.length ≤ keys.length ∧ IsInner .items isFirst values inner ∧
      draft.TakesAll (membersFor keys values) result ∧ text = inner ++ ']' :: rest := by
  fun_induction readElements keys draft isFirst text with
  | case1 draft isFirst text =>
      obtain ⟨after, hskip, heq⟩ := map_eq_ok_iff.mp hread
      cases heq
      obtain ⟨blanks, hblanks, rfl⟩ := exists_of_skipArrayEnd hskip
      exact ⟨[], blanks, Nat.le_refl _, isInner_no_items_iff.mpr hblanks, .nil, rfl⟩
  | case2 => cases hread
  | case3 key keys draft isFirst text after hstart =>
      cases hread
      obtain ⟨blanks, hblanks, rfl⟩ := exists_of_startElement_closed hstart
      exact ⟨[], blanks, Nat.zero_le _, isInner_no_items_iff.mpr hblanks, .nil, rfl⟩
  | case4 => cases hread
  | case5 key keys draft isFirst text element hstart middle behind hsetting ih =>
      obtain ⟨hkey, hnodup⟩ := List.nodup_cons.mp hnodup
      obtain ⟨before, value, raw, hbefore, hvalue, htakes, rfl⟩ :=
        exists_value_of_readSetting (hnew key List.mem_cons_self) hsetting
      have hnew' : ∀ key' ∈ keys, middle.has key' = false := by
        intro key' hmem
        have hne : key' ≠ key := by
          rintro rfl
          exact hkey hmem
        exact htakes.has_eq_false hne (hnew key' (List.mem_cons_of_mem _ hmem))
      obtain ⟨values, inner, hlength, helements, htakesAll, rfl⟩ := ih hnodup hnew' hread
      obtain ⟨front, hfront, rfl⟩ := exists_of_startElement_item hstart
      refine ⟨value :: values, front ++ before ++ (raw ++ inner), Nat.succ_le_succ hlength, ?_,
        .cons htakes htakesAll, by simp⟩
      exact isInner_items_cons_iff.mpr
        ⟨_, _, hfront.append hbefore, ⟨raw, inner, hvalue, helements, rfl⟩, rfl⟩

theorem readElements_append (hlength : values.length ≤ keys.length)
    (helements : IsInner .items isFirst values inner)
    (htakesAll : draft.TakesAll (membersFor keys values) result) (rest : List Char) :
    readElements keys draft isFirst (inner ++ ']' :: rest) = .ok (result, rest) := by
  induction keys generalizing values draft isFirst inner with
  | nil =>
      obtain rfl := List.eq_nil_of_length_eq_zero (Nat.le_zero.mp hlength)
      cases htakesAll
      rw [readElements, skipArrayEnd_append (isInner_no_items_iff.mp helements)]
      rfl
  | cons key keys ih =>
      cases values with
      | nil =>
          cases htakesAll
          rw [readElements, startElement_closed (isInner_no_items_iff.mp helements)]
      | cons value values =>
          obtain ⟨front, _, hfront, ⟨raw, inner, hvalue, hinner, rfl⟩, rfl⟩ :=
            isInner_items_cons_iff.mp helements
          cases htakesAll with
          | cons htakes hlater =>
              have hsetting := readSetting_append htakes .nil hvalue (inner ++ ']' :: rest)
              rw [List.nil_append] at hsetting
              rw [List.append_assoc, List.append_assoc, readElements,
                startElement_item hfront hvalue]
              simp only [hsetting]
              exact ih (Nat.le_of_succ_le_succ hlength) hinner hlater

/-! ### Whole texts -/

theorem readDraft_array (hbefore : AllSpace before) (after : List Char) :
    readDraft (before ++ ('[' :: inner ++ [']']) ++ after) =
      readElements SettingKey.all .empty true (inner ++ ']' :: after) := by
  have hspace : skipSpace (before ++ ('[' :: inner ++ [']']) ++ after) =
      '[' :: (inner ++ ']' :: after) := by
    rw [List.append_assoc, skipSpace_append hbefore]
    simp [skipSpace_cons, isSpace]
  rw [readDraft, hspace]
  rfl

/-- An array is accepted exactly if it has no more elements than there are settings and these can
be taken for the settings in their order. -/
theorem readSettings_array_iff (harray : Spells (.padded (.array values)) text) :
    readSettings text = .ok settings ↔ values.length ≤ SettingKey.all.length ∧
      ∃ draft, Draft.empty.TakesAll (positional values) draft ∧ settings = draft.settings := by
  cases harray with
  | padded hbefore hvalue hafter =>
      obtain ⟨inner, hinner, rfl⟩ := spells_array_iff.mp hvalue
      rw [readSettings_eq_ok_iff, readDraft_array hbefore]
      constructor
      · rintro ⟨draft, rest, hread, hrest, rfl⟩
        have hnone : ∀ key ∈ SettingKey.all, Draft.empty.has key = false := by decide
        obtain ⟨values', inner', hlength, helements, htakesAll, heq⟩ :=
          exists_elements_of_readElements SettingKey.nodup_all hnone hread
        -- what was read is an array of the whole text, so it is the given one
        have hvalue' := spells_array_iff.mpr ⟨inner', helements, rfl⟩
        have harray' := Spells.padded hbefore hvalue' hrest
        have harray := Spells.padded hbefore hvalue hafter
        simp only [List.append_assoc, List.cons_append, List.nil_append, ← heq] at harray harray'
        obtain rfl : values' = values := Document.array.inj (harray'.padded_unique harray)
        exact ⟨hlength, draft, htakesAll, rfl⟩
      · rintro ⟨hlength, draft, htakesAll, rfl⟩
        exact ⟨draft, _, readElements_append hlength hinner htakesAll _, hafter, rfl⟩

theorem head?_dropBlanks_of_spellsObject {members : List Member}
    (hobject : SpellsObject members text) : (Text.dropBlanks text).head? = some '\x7b' := by
  cases hobject with
  | padded hbefore hvalue hafter =>
      obtain ⟨inner, _, rfl⟩ := spells_object_iff.mp hvalue
      rw [← dropBlanks_skipSpace, List.append_assoc, skipSpace_append hbefore]
      rfl

theorem readSettings_object_iff {members : List Member} (hobject : SpellsObject members text) :
    readSettings text = .ok settings ↔
      ∃ draft, Draft.empty.TakesAll members draft ∧ settings = draft.settings := by
  constructor
  · intro hread
    obtain ⟨members', draft, hspells, htakesAll, rfl⟩ :=
      exists_draft_of_readSettings (head?_dropBlanks_of_spellsObject hobject) hread
    rw [hobject.unique hspells]
    exact ⟨draft, htakesAll, rfl⟩
  · rintro ⟨draft, htakesAll, rfl⟩
    exact readSettings_of_spells hobject htakesAll

end Configuration

namespace Settings

/-- An array of up to seven values means what the object means that gives the values for the
settings in their order: both are accepted or neither is, and both give the same settings, where
those that come later are the defaults. An array of more values is never accepted. -/
theorem ofText_array_iff_positional {array : String}
    (harray : Spells (.padded (.array values)) array.toList) :
    (values.length ≤ 7 → ∀ object : String, SpellsObject (positional values) object.toList →
      ∀ settings, Settings.ofText array = .ok settings ↔ Settings.ofText object = .ok settings) ∧
    (∀ settings, Settings.ofText array = .ok settings →
      ∀ key ∈ SettingKey.all.drop values.length, settings.HasDefault key) ∧
    (7 < values.length → ∀ settings, Settings.ofText array ≠ .ok settings) := by
  refine ⟨?_, ?_, ?_⟩
  · intro hlength object hobject settings
    rw [ofText_eq_ok_iff, ofText_eq_ok_iff, Configuration.readSettings_array_iff harray,
      Configuration.readSettings_object_iff hobject]
    exact and_iff_right hlength
  · intro settings hread key hlater
    obtain ⟨_, draft, htakesAll, rfl⟩ :=
      (Configuration.readSettings_array_iff harray).mp (ofText_eq_ok_iff.mp hread)
    have hrecords := (Draft.empty_records.takesAll acceptable_nil htakesAll).2
    exact hrecords.fieldsOf.hasDefault hlater
  · intro hlength settings hread
    have hread := ofText_eq_ok_iff.mp hread
    obtain ⟨hmost, _⟩ := (Configuration.readSettings_array_iff harray).mp hread
    exact absurd hmost (Nat.not_le_of_gt hlength)

def sampleArray : Value := .array [.string "T", .string "c", .string "S"]

def sampleObject : Value :=
  .object [("returnType", .string "T"), ("callingConvention", .string "c"),
    ("startMarker", .string "S")]

def longArray : Value := .array (List.replicate 8 .null)

theorem ofText_sampleArray :
    (∃ settings, Settings.ofText sampleArray.pretty = .ok settings ∧
      settings.startMarker = "S" ∧ settings.HasDefault (.text .endMarker)) ∧
    ∀ settings, Settings.ofText longArray.pretty ≠ .ok settings := by
  obtain ⟨hsame, hdefault, _⟩ := ofText_array_iff_positional (Value.spells_pretty sampleArray)
  obtain ⟨_, _, hlong⟩ := ofText_array_iff_positional (Value.spells_pretty longArray)
  have hobject : SpellsObject (positional [.string (units "T"), .string (units "c"),
      .string (units "S")]) sampleObject.pretty.toList := Value.spells_pretty sampleObject
  have htakesAll : Draft.empty.TakesAll (positional [.string (units "T"), .string (units "c"),
      .string (units "S")]) ⟨[(.startMarker, "S"), (.callingConvention, "c"),
        (.returnType, "T")], none⟩ := .cons (.text rfl) (.cons (.text rfl) (.cons (.text rfl) .nil))
  have hread : Settings.ofText sampleObject.pretty = .ok _ :=
    ofText_eq_ok_iff.mpr (Configuration.readSettings_of_spells hobject htakesAll)
  have harray := (hsame (by decide) _ hobject _).mpr hread
  exact ⟨⟨_, harray, rfl, hdefault _ harray _ (by decide)⟩, hlong (by decide)⟩

end Settings

end DispatchAudit
