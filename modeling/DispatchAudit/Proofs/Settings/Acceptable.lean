import DispatchAudit.Proofs.Settings.Members

/-!
# Members that can be taken

The members of a configuration can be taken if every key is a text, no setting is given twice and
what is given for a setting is of its kind. While the members are taken the draft records exactly
those that are taken already, so it takes the next one exactly if the members stay acceptable, and
the settings in the end are those that the members give.
-/

namespace DispatchAudit

open Audit Json

variable {members before : List Member} {member : Member} {draft result : Draft}
  {settings : Settings}

/-! ### What is asked of the members -/

/-- Whether the members of a configuration can be taken. -/
structure Acceptable (members : List Member) : Prop where
  key_is_text : ∀ member ∈ members, ∃ word, member.1 = units word
  given_once : ∀ key : SettingKey, (members.map Prod.fst).count (units key.word) ≤ 1
  text_of_text : ∀ (setting : TextSetting) (value : Document),
    (units setting.key, value) ∈ members → ∃ text, value = .string (units text)
  rule_of_rule : ∀ value : Document, (units SettingKey.duplicateCheck.word, value) ∈ members →
    ∃ rule, NamesRule value rule

/-- Whether the settings are those that the members give, with defaults for the others. -/
structure FieldsOf (members : List Member) (settings : Settings) : Prop where
  text_given : ∀ (setting : TextSetting) (text : String),
    (units setting.key, .string (units text)) ∈ members → settings.text setting = text
  text_default : ∀ setting : TextSetting, units setting.key ∉ members.map Prod.fst →
    settings.text setting = setting.fallback
  rule_given : ∀ (value : Document) (rule : DuplicateRule),
    (units SettingKey.duplicateCheck.word, value) ∈ members → NamesRule value rule →
    settings.duplicateCheck = rule
  rule_default : units SettingKey.duplicateCheck.word ∉ members.map Prod.fst →
    settings.duplicateCheck = .length

def knownMembers (members : List Member) : List Member :=
  members.filter fun member => SettingKey.all.any fun key => member.1 == units key.word

/-! ### What the draft records -/

/-- Whether the draft records the members that were taken. -/
structure Draft.Records (draft : Draft) (members : List Member) : Prop where
  lookup_iff : ∀ (setting : TextSetting) (text : String), draft.texts.lookup setting = some text ↔
    (units setting.key, .string (units text)) ∈ members
  rule_iff : ∀ rule : DuplicateRule, draft.duplicateCheck? = some rule ↔
    ∃ value, (units SettingKey.duplicateCheck.word, value) ∈ members ∧ NamesRule value rule

theorem NamesRule.unique {value : Document} {rule rule' : DuplicateRule}
    (hrule : NamesRule value rule) (hrule' : NamesRule value rule') : rule = rule' := by
  have hword : units rule.word = units rule'.word := by
    rcases hrule with rfl | rfl <;> rcases hrule' with h | h <;> simp at h <;> exact h
  have hrule := DuplicateRule.ofWord?_word rule
  rw [units_inj.mp hword, DuplicateRule.ofWord?_word] at hrule
  exact (Option.some.inj hrule).symm

theorem SettingKey.word_inj {key key' : SettingKey} : key.word = key'.word ↔ key = key' := by
  constructor
  · intro hword
    have hkey := SettingKey.ofWord?_word key
    rw [hword, SettingKey.ofWord?_word] at hkey
    exact (Option.some.inj hkey).symm
  · rintro rfl
    rfl

theorem units_word_inj {key key' : SettingKey} : units key.word = units key'.word ↔ key = key' :=
  units_inj.trans SettingKey.word_inj

theorem units_word_ne_duplicateCheck (setting : TextSetting) :
    units setting.key ≠ units SettingKey.duplicateCheck.word := by
  intro hkey
  have hkeys : SettingKey.text setting = .duplicateCheck := units_word_inj.mp hkey
  cases hkeys

/-- A draft that records acceptable members has a setting exactly if they give it. -/
theorem Draft.Records.has_iff (hrecords : draft.Records members) (hacceptable : Acceptable members)
    (key : SettingKey) : draft.has key = true ↔ units key.word ∈ members.map Prod.fst := by
  cases key with
  | text setting =>
      rw [Draft.has, Option.isSome_iff_exists]
      constructor
      · rintro ⟨text, hlookup⟩
        exact List.mem_map_of_mem ((hrecords.lookup_iff setting text).mp hlookup)
      · intro hmem
        obtain ⟨⟨_, value⟩, hmem, rfl⟩ := List.mem_map.mp hmem
        obtain ⟨text, rfl⟩ := hacceptable.text_of_text setting value hmem
        exact ⟨text, (hrecords.lookup_iff setting text).mpr hmem⟩
  | duplicateCheck =>
      rw [Draft.has, Option.isSome_iff_exists]
      constructor
      · rintro ⟨rule, hrule⟩
        obtain ⟨value, hmem, _⟩ := (hrecords.rule_iff rule).mp hrule
        exact List.mem_map_of_mem hmem
      · intro hmem
        obtain ⟨⟨_, value⟩, hmem, rfl⟩ := List.mem_map.mp hmem
        obtain ⟨rule, hrule⟩ := hacceptable.rule_of_rule value hmem
        exact ⟨rule, (hrecords.rule_iff rule).mpr ⟨value, hmem, hrule⟩⟩

/-- Whether the member can be taken when the members were taken before. -/
structure CanFollow (members : List Member) (member : Member) : Prop where
  key_is_text : ∃ word, member.1 = units word
  new : ∀ key : SettingKey, member.1 = units key.word → units key.word ∉ members.map Prod.fst
  text_of_text : ∀ setting : TextSetting, member.1 = units setting.key →
    ∃ text, member.2 = .string (units text)
  rule_of_rule : member.1 = units SettingKey.duplicateCheck.word → ∃ rule, NamesRule member.2 rule

theorem acceptable_nil : Acceptable [] where
  key_is_text _ hmem := absurd hmem List.not_mem_nil
  given_once _ := Nat.zero_le 1
  text_of_text _ _ hmem := absurd hmem List.not_mem_nil
  rule_of_rule _ hmem := absurd hmem List.not_mem_nil

theorem Acceptable.of_append_left {left right : List Member}
    (hacceptable : Acceptable (left ++ right)) : Acceptable left where
  key_is_text member hmem := hacceptable.key_is_text member (List.mem_append_left _ hmem)
  given_once key := by
    have honce := hacceptable.given_once key
    rw [List.map_append, List.count_append] at honce
    exact Nat.le_trans (Nat.le_add_right _ _) honce
  text_of_text setting value hmem :=
    hacceptable.text_of_text setting value (List.mem_append_left _ hmem)
  rule_of_rule value hmem := hacceptable.rule_of_rule value (List.mem_append_left _ hmem)

theorem acceptable_append_singleton_iff :
    Acceptable (members ++ [member]) ↔ Acceptable members ∧ CanFollow members member := by
  constructor
  · intro hacceptable
    have hmember : member ∈ members ++ [member] := by simp
    refine ⟨hacceptable.of_append_left, ⟨hacceptable.key_is_text member hmember, ?_, ?_, ?_⟩⟩
    · intro key hkey hmem
      have honce := hacceptable.given_once key
      have hcount := List.count_pos_iff.mpr hmem
      rw [List.map_append, List.count_append, List.map_singleton, hkey, List.count_singleton_self]
        at honce
      omega
    · intro setting hkey
      exact hacceptable.text_of_text setting member.2 (hkey ▸ hmember)
    · intro hkey
      exact hacceptable.rule_of_rule member.2 (hkey ▸ hmember)
  · rintro ⟨hacceptable, hfollow⟩
    constructor
    · intro other hmem
      rcases List.mem_append.mp hmem with hmem | hmem
      · exact hacceptable.key_is_text other hmem
      · rw [List.mem_singleton.mp hmem]
        exact hfollow.key_is_text
    · intro key
      rw [List.map_append, List.count_append, List.map_singleton]
      by_cases hkey : member.1 = units key.word
      · apply Nat.le_of_eq
        rw [List.count_eq_zero.mpr (hfollow.new key hkey), hkey, List.count_singleton_self]
      · have honce := hacceptable.given_once key
        rwa [List.count_singleton, if_neg (by simpa using hkey)]
    · intro setting value hmem
      rcases List.mem_append.mp hmem with hmem | hmem
      · exact hacceptable.text_of_text setting value hmem
      · obtain rfl := List.mem_singleton.mp hmem
        exact hfollow.text_of_text setting rfl
    · intro value hmem
      rcases List.mem_append.mp hmem with hmem | hmem
      · exact hacceptable.rule_of_rule value hmem
      · obtain rfl := List.mem_singleton.mp hmem
        exact hfollow.rule_of_rule rfl

/-! ### One member -/

theorem units_word_ne {word : String} (hunknown : SettingKey.ofWord? word = none)
    (key : SettingKey) : units word ≠ units key.word := by
  intro hword
  rw [units_inj.mp hword, SettingKey.ofWord?_word] at hunknown
  cases hunknown

theorem Draft.Records.not_mem_of_new (hrecords : draft.Records members)
    (hacceptable : Acceptable members) {key : SettingKey} (hnew : draft.has key = false) :
    units key.word ∉ members.map Prod.fst := by
  rw [← hrecords.has_iff hacceptable, hnew]
  exact Bool.false_ne_true

theorem Draft.Records.canFollow (hrecords : draft.Records members)
    (hacceptable : Acceptable members) (htakes : draft.Takes member result) :
    CanFollow members member := by
  cases htakes with
  | @unknown word value hunknown =>
      have hne := units_word_ne hunknown
      refine ⟨⟨word, rfl⟩, fun key hkey => absurd hkey (hne key), fun setting hkey => ?_,
        fun hkey => absurd hkey (hne _)⟩
      exact absurd hkey (hne (.text setting))
  | @text setting value hnew =>
      refine ⟨⟨setting.key, rfl⟩, ?_, fun _ _ => ⟨value, rfl⟩, ?_⟩
      · intro key hkey
        rw [← hkey]
        exact hrecords.not_mem_of_new hacceptable hnew
      · exact fun hkey => absurd hkey (units_word_ne_duplicateCheck setting)
  | @rule value rule hnew hrule =>
      refine ⟨⟨_, rfl⟩, ?_, ?_, fun _ => ⟨rule, hrule⟩⟩
      · intro key hkey
        rw [← hkey]
        exact hrecords.not_mem_of_new hacceptable hnew
      · exact fun setting hkey => absurd hkey.symm (units_word_ne_duplicateCheck setting)

theorem mem_append_of_key_ne {key key' : List Nat} {value value' : Document} (hne : key ≠ key') :
    (key, value) ∈ members ++ [(key', value')] ↔ (key, value) ∈ members := by
  simp [hne]

theorem Draft.Records.takes (hrecords : draft.Records members)
    (hacceptable : Acceptable members) (htakes : draft.Takes member result) :
    result.Records (members ++ [member]) := by
  cases htakes with
  | @unknown word value hunknown =>
      constructor
      · intro setting text
        have hne : units setting.key ≠ units word := (units_word_ne hunknown (.text setting)).symm
        rw [mem_append_of_key_ne hne, hrecords.lookup_iff]
      · intro rule
        have hne := (units_word_ne hunknown .duplicateCheck).symm
        simp only [mem_append_of_key_ne hne, hrecords.rule_iff]
  | @text setting value hnew =>
      have hnot := hrecords.not_mem_of_new hacceptable hnew
      constructor
      · intro setting' text
        by_cases hsame : setting' = setting
        · subst hsame
          have hearlier : (units setting'.key, Document.string (units text)) ∉ members :=
            fun hmem => hnot (List.mem_map_of_mem hmem)
          simp [hearlier, units_inj, eq_comm]
        · have hne : units setting'.key ≠ units setting.key := by
            intro hkey
            have hkeys : SettingKey.text setting' = .text setting := units_word_inj.mp hkey
            exact hsame (SettingKey.text.inj hkeys)
          rw [mem_append_of_key_ne hne, ← hrecords.lookup_iff, List.lookup_cons,
            beq_false_of_ne hsame]
      · intro rule
        have hne := (units_word_ne_duplicateCheck setting).symm
        simp only [mem_append_of_key_ne hne, hrecords.rule_iff]
  | @rule value rule hnew hrule =>
      have hnot := hrecords.not_mem_of_new hacceptable hnew
      constructor
      · intro setting text
        rw [mem_append_of_key_ne (units_word_ne_duplicateCheck setting), hrecords.lookup_iff]
      · intro rule'
        constructor
        · intro hsame
          cases hsame
          exact ⟨value, by simp, hrule⟩
        · rintro ⟨value', hmem, hrule'⟩
          rcases List.mem_append.mp hmem with hmem | hmem
          · exact absurd (List.mem_map_of_mem hmem) hnot
          · cases List.mem_singleton.mp hmem
            rw [hrule.unique hrule']

theorem Draft.Records.exists_takes (hrecords : draft.Records members)
    (hacceptable : Acceptable members) (hfollow : CanFollow members member) :
    ∃ result, draft.Takes member result := by
  obtain ⟨key, value⟩ := member
  obtain ⟨word, rfl⟩ := hfollow.key_is_text
  cases hknown : SettingKey.ofWord? word with
  | none => exact ⟨draft, .unknown hknown⟩
  | some key =>
      obtain rfl := SettingKey.word_of_ofWord? hknown
      have hnew : draft.has key = false := by
        rw [← Bool.not_eq_true, hrecords.has_iff hacceptable]
        exact hfollow.new key rfl
      cases key with
      | text setting =>
          obtain ⟨text, rfl⟩ := hfollow.text_of_text setting rfl
          exact ⟨_, .text hnew⟩
      | duplicateCheck =>
          obtain ⟨rule, hrule⟩ := hfollow.rule_of_rule rfl
          exact ⟨_, .rule hnew hrule⟩

/-! ### All members -/

theorem Draft.Records.takesAll (hrecords : draft.Records before) (hacceptable : Acceptable before)
    (htakesAll : draft.TakesAll members result) :
    Acceptable (before ++ members) ∧ result.Records (before ++ members) := by
  induction htakesAll generalizing before with
  | nil =>
      rw [List.append_nil]
      exact ⟨hacceptable, hrecords⟩
  | @cons _ _ _ member members htakes _ ih =>
      rw [List.append_cons]
      have hfollow := hrecords.canFollow hacceptable htakes
      exact ih (hrecords.takes hacceptable htakes)
        (acceptable_append_singleton_iff.mpr ⟨hacceptable, hfollow⟩)

theorem Draft.Records.exists_takesAll (hrecords : draft.Records before)
    (hacceptable : Acceptable (before ++ members)) : ∃ result, draft.TakesAll members result := by
  induction members generalizing before draft with
  | nil => exact ⟨draft, .nil⟩
  | cons member members ih =>
      rw [List.append_cons] at hacceptable
      obtain ⟨hbefore, hfollow⟩ := acceptable_append_singleton_iff.mp hacceptable.of_append_left
      obtain ⟨middle, htakes⟩ := hrecords.exists_takes hbefore hfollow
      obtain ⟨result, htakesAll⟩ := ih (hrecords.takes hbefore htakes) hacceptable
      exact ⟨result, .cons htakes htakesAll⟩

theorem Draft.empty_records : Draft.empty.Records [] where
  lookup_iff _ _ := by simp [Draft.empty]
  rule_iff _ := by simp [Draft.empty]

theorem exists_takesAll_iff :
    (∃ result, Draft.empty.TakesAll members result) ↔ Acceptable members := by
  constructor
  · rintro ⟨result, htakesAll⟩
    exact (Draft.empty_records.takesAll acceptable_nil htakesAll).1
  · intro hacceptable
    have hall : Acceptable ([] ++ members) := hacceptable
    exact Draft.empty_records.exists_takesAll hall

/-! ### The settings of the members -/

theorem Settings.text_ofTexts (texts : TextSetting → String) (rule : DuplicateRule)
    (setting : TextSetting) : (Settings.ofTexts texts rule).text setting = texts setting := by
  cases setting <;> rfl

theorem Draft.Records.fieldsOf (hrecords : draft.Records members) :
    FieldsOf members draft.settings := by
  constructor
  · intro setting text hmem
    rw [Draft.settings, Settings.text_ofTexts, (hrecords.lookup_iff setting text).mpr hmem]
    rfl
  · intro setting hnot
    have hnone : draft.texts.lookup setting = none := by
      cases hlookup : draft.texts.lookup setting with
      | none => rfl
      | some text =>
          exact absurd (List.mem_map_of_mem ((hrecords.lookup_iff setting text).mp hlookup)) hnot
    rw [Draft.settings, Settings.text_ofTexts, hnone]
    rfl
  · intro value rule hmem hrule
    have hsome := (hrecords.rule_iff rule).mpr ⟨value, hmem, hrule⟩
    simp [Draft.settings, Settings.ofTexts, hsome]
  · intro hnot
    have hnone : draft.duplicateCheck? = none := by
      cases hcheck : draft.duplicateCheck? with
      | none => rfl
      | some rule =>
          obtain ⟨value, hmem, _⟩ := (hrecords.rule_iff rule).mp hcheck
          exact absurd (List.mem_map_of_mem hmem) hnot
    simp [Draft.settings, Settings.ofTexts, hnone]

theorem FieldsOf.unique {other : Settings} (hacceptable : Acceptable members)
    (hfields : FieldsOf members settings) (hother : FieldsOf members other) :
    settings = other := by
  have htexts : ∀ setting, settings.text setting = other.text setting := by
    intro setting
    by_cases hmem : units setting.key ∈ members.map Prod.fst
    · obtain ⟨⟨_, value⟩, hmem, rfl⟩ := List.mem_map.mp hmem
      obtain ⟨text, rfl⟩ := hacceptable.text_of_text setting value hmem
      rw [hfields.text_given setting text hmem, hother.text_given setting text hmem]
    · rw [hfields.text_default setting hmem, hother.text_default setting hmem]
  have hrule : settings.duplicateCheck = other.duplicateCheck := by
    by_cases hmem : units SettingKey.duplicateCheck.word ∈ members.map Prod.fst
    · obtain ⟨⟨_, value⟩, hmem, rfl⟩ := List.mem_map.mp hmem
      obtain ⟨rule, hrule⟩ := hacceptable.rule_of_rule value hmem
      rw [hfields.rule_given value rule hmem hrule, hother.rule_given value rule hmem hrule]
    · rw [hfields.rule_default hmem, hother.rule_default hmem]
  rw [← Settings.ofTexts_text settings, ← Settings.ofTexts_text other, funext htexts, hrule]

theorem TextSetting.mem_all (setting : TextSetting) : setting ∈ TextSetting.all := by
  cases setting <;> decide

theorem SettingKey.mem_all (key : SettingKey) : key ∈ SettingKey.all := by
  cases key with
  | text setting => exact List.mem_append_left _ (List.mem_map_of_mem (TextSetting.mem_all setting))
  | duplicateCheck => decide

theorem mem_knownMembers_iff {key : SettingKey} {value : Document} :
    (units key.word, value) ∈ knownMembers members ↔ (units key.word, value) ∈ members := by
  have hknown : SettingKey.all.any (fun other => units key.word == units other.word) = true :=
    List.any_eq_true.mpr ⟨key, SettingKey.mem_all key, beq_self_eq_true _⟩
  rw [knownMembers, List.mem_filter]
  exact ⟨And.left, fun hmem => ⟨hmem, hknown⟩⟩

/-- The settings go by the members that name settings, in any order. -/
theorem FieldsOf.of_perm {other : List Member} (hfields : FieldsOf members settings)
    (hperm : (knownMembers members).Perm (knownMembers other)) : FieldsOf other settings := by
  have hmem : ∀ (key : SettingKey) value,
      (units key.word, value) ∈ other ↔ (units key.word, value) ∈ members := by
    intro key value
    rw [← mem_knownMembers_iff, ← hperm.mem_iff, mem_knownMembers_iff]
  have hkeys : ∀ key : SettingKey,
      units key.word ∈ other.map Prod.fst ↔ units key.word ∈ members.map Prod.fst := by
    intro key
    simp only [List.mem_map, Prod.exists, exists_and_right, exists_eq_right, hmem]
  constructor
  · exact fun setting text hmem' => hfields.text_given setting text ((hmem (.text setting) _).mp hmem')
  · exact fun setting hnot =>
      hfields.text_default setting fun hmem' => hnot ((hkeys (.text setting)).mpr hmem')
  · exact fun value rule hmem' => hfields.rule_given value rule ((hmem .duplicateCheck _).mp hmem')
  · exact fun hnot => hfields.rule_default fun hmem' => hnot ((hkeys .duplicateCheck).mpr hmem')

end DispatchAudit
