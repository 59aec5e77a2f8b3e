import DispatchAudit.Proofs.Json.Printing
import DispatchAudit.Proofs.Settings.Decoding
import DispatchAudit.Settings.Encode

/-!
# Settings survive being written

The text of settings is an object that gives every setting once, so it is accepted, and what it
gives is the settings themselves.
-/

namespace DispatchAudit

open Audit Json

namespace Settings

variable {setting : TextSetting} {value : Document} {settings : Settings}

def writtenMembers (settings : Settings) : List Member :=
  TextSetting.all.map (fun setting => (units setting.key, .string (units (settings.text setting)))) ++
    [(units SettingKey.duplicateCheck.word, .string (units settings.duplicateCheck.word))]

theorem spells_toText (settings : Settings) :
    SpellsObject settings.writtenMembers settings.toText.toList := by
  have hspells := Value.spellsObject_pretty
    (TextSetting.all.map (fun setting => (setting.key, .string (settings.text setting))) ++
      [(SettingKey.duplicateCheck.word, .string settings.duplicateCheck.word)])
  rwa [Value.memberDocuments_eq_map, List.map_append, List.map_map] at hspells

theorem mem_writtenMembers_text_iff :
    (units setting.key, value) ∈ settings.writtenMembers ↔
      value = .string (units (settings.text setting)) := by
  rw [writtenMembers, mem_append_of_key_ne (units_word_ne_duplicateCheck setting), List.mem_map]
  constructor
  · rintro ⟨other, _, heq⟩
    obtain ⟨hkey, rfl⟩ := Prod.mk.inj heq
    have hkeys : SettingKey.text other = .text setting := units_word_inj.mp hkey
    rw [SettingKey.text.inj hkeys]
  · rintro rfl
    exact ⟨setting, TextSetting.mem_all setting, rfl⟩

theorem mem_writtenMembers_rule_iff :
    (units SettingKey.duplicateCheck.word, value) ∈ settings.writtenMembers ↔
      value = .string (units settings.duplicateCheck.word) := by
  rw [writtenMembers, List.mem_append, List.mem_map, List.mem_singleton, Prod.mk.injEq]
  constructor
  · rintro (⟨setting, _, heq⟩ | ⟨_, rfl⟩)
    · exact absurd (Prod.mk.inj heq).1 (units_word_ne_duplicateCheck setting)
    · rfl
  · rintro rfl
    exact .inr ⟨rfl, rfl⟩

theorem keys_writtenMembers (settings : Settings) :
    settings.writtenMembers.map Prod.fst = SettingKey.all.map fun key => units key.word := rfl

theorem mem_keys_writtenMembers (settings : Settings) (key : SettingKey) :
    units key.word ∈ settings.writtenMembers.map Prod.fst := by
  rw [keys_writtenMembers]
  exact List.mem_map_of_mem (SettingKey.mem_all key)

theorem nodup_keys : (SettingKey.all.map fun key => units key.word).Nodup := by
  decide

theorem acceptable_writtenMembers (settings : Settings) : Acceptable settings.writtenMembers where
  key_is_text member hmem := by
    have hkey := List.mem_map_of_mem (f := Prod.fst) hmem
    rw [keys_writtenMembers] at hkey
    obtain ⟨key, _, hkey⟩ := List.mem_map.mp hkey
    exact ⟨key.word, hkey.symm⟩
  given_once key := by
    rw [keys_writtenMembers]
    exact List.nodup_iff_count.mp nodup_keys _
  text_of_text setting value hmem := ⟨_, mem_writtenMembers_text_iff.mp hmem⟩
  rule_of_rule value hmem := ⟨settings.duplicateCheck, .inl (mem_writtenMembers_rule_iff.mp hmem)⟩

theorem fieldsOf_writtenMembers (settings : Settings) :
    FieldsOf settings.writtenMembers settings where
  text_given setting text hmem := by
    have hvalue := mem_writtenMembers_text_iff.mp hmem
    exact (units_inj.mp (Document.string.inj hvalue)).symm
  text_default setting hnot :=
    absurd (settings.mem_keys_writtenMembers (.text setting)) hnot
  rule_given value rule hmem hrule :=
    NamesRule.unique (.inl (mem_writtenMembers_rule_iff.mp hmem)) hrule
  rule_default hnot := absurd (settings.mem_keys_writtenMembers .duplicateCheck) hnot

theorem ofText_toText (settings : Settings) : Settings.ofText settings.toText = .ok settings :=
  ofText_of_spells settings.spells_toText settings.acceptable_writtenMembers
    settings.fieldsOf_writtenMembers

end Settings

end DispatchAudit
