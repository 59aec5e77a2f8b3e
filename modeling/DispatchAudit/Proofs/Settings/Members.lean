import DispatchAudit.Proofs.Json.Skipping
import DispatchAudit.Settings.Decode

/-!
# The members of a configuration

A configuration is read member by member into a draft. What one member does to the draft is said
by its key and its value alone, and reading does that exactly: each member that is read is a
member of the grammar that the draft takes, and each member that the draft takes is read. The
members of an object follow by induction.
-/

namespace DispatchAudit

open Audit Json

/-! ### What a member does -/

/-- Whether a value names the rule: by its word, or as an object whose only key is its word and
whose only value is null. -/
def NamesRule (value : Document) (rule : DuplicateRule) : Prop :=
  value = .string (units rule.word) ∨ value = .object [(units rule.word, .null)]

/-- Whether the draft takes the member, and what it is then. -/
inductive Draft.Takes (draft : Draft) : Member → Draft → Prop where
  | unknown {word : String} {value : Document} (hunknown : SettingKey.ofWord? word = none) :
      Takes draft (units word, value) draft
  | text {setting : TextSetting} {value : String} (hnew : draft.has (.text setting) = false) :
      Takes draft (units setting.key, .string (units value))
        { draft with texts := (setting, value) :: draft.texts }
  | rule {value : Document} {rule : DuplicateRule} (hnew : draft.has .duplicateCheck = false)
      (hrule : NamesRule value rule) :
      Takes draft (units SettingKey.duplicateCheck.word, value)
        { draft with duplicateCheck? := some rule }

inductive Draft.TakesAll : Draft → List Member → Draft → Prop where
  | nil {draft : Draft} : TakesAll draft [] draft
  | cons {draft middle result : Draft} {member : Member} {members : List Member}
      (hmember : draft.Takes member middle) (hmembers : middle.TakesAll members result) :
      TakesAll draft (member :: members) result

/-! ### Words -/

theorem SettingKey.word_of_ofWord? {word : String} {key : SettingKey}
    (hword : SettingKey.ofWord? word = some key) : key.word = word := by
  have hfound := List.find?_some hword
  simpa using hfound

theorem DuplicateRule.word_of_ofWord? {word : String} {rule : DuplicateRule}
    (hword : DuplicateRule.ofWord? word = some rule) : rule.word = word := by
  unfold DuplicateRule.ofWord? at hword
  split at hword
  · next h =>
      cases hword
      exact h.symm
  · split at hword
    · next h =>
        cases hword
        exact h.symm
    · cases hword

namespace Configuration

variable {text rest body after before raw inner blanks : List Char} {key : List Nat}
  {value : Document} {members : List Member} {draft result : Draft} {isFirst : Bool}

/-! ### Values of settings -/

theorem exists_body_of_readText {value : String} (hread : readText text = .ok (value, rest)) :
    ∃ before raw, AllSpace before ∧ Spells (.value (.string (units value))) raw ∧
      text = before ++ raw ++ rest := by
  unfold readText at hread
  split at hread
  · cases hread
  · next c more hspace =>
      split at hread
      · next hc =>
          obtain ⟨before, hbefore, rfl⟩ := exists_blanks_of_skipSpace hspace
          obtain ⟨body, hbody, rfl⟩ := exists_body_of_readString hread
          exact ⟨before, _, hbefore, .string hbody, by simp [hc]⟩
      · cases hread

theorem exists_body_of_readRuleWord {rule : DuplicateRule}
    (hread : readRuleWord text = .ok (rule, rest)) :
    ∃ body, StringBody body (units rule.word) ∧ text = body ++ '"' :: rest := by
  unfold readRuleWord at hread
  split at hread
  · cases hread
  · next word after hword =>
      split at hread
      · next found hrule =>
          cases hread
          rw [DuplicateRule.word_of_ofWord? hrule]
          exact exists_body_of_readString hword
      · cases hread

theorem exists_blanks_of_startOnlyMember (hread : startOnlyMember text = .ok rest) :
    ∃ blanks, AllSpace blanks ∧ text = blanks ++ '"' :: rest := by
  unfold startOnlyMember at hread
  split at hread
  · cases hread
  · next c more hspace =>
      split at hread
      · next hc =>
          cases hread
          rw [hc] at hspace
          exact exists_blanks_of_skipSpace hspace
      · cases hread

theorem exists_blanks_of_skipNull (hread : skipNull text = .ok rest) :
    ∃ blanks, AllSpace blanks ∧ text = blanks ++ ['n', 'u', 'l', 'l'] ++ rest := by
  unfold skipNull at hread
  split at hread
  · cases hread
  · next c more hspace =>
      split at hread
      · next hc =>
          obtain ⟨blanks, hblanks, rfl⟩ := exists_blanks_of_skipSpace hspace
          refine ⟨blanks, hblanks, ?_⟩
          simp [hc, eq_append_of_readWord hread]
      · cases hread

theorem exists_blanks_of_skipObjectEnd (hread : skipObjectEnd text = .ok rest) :
    ∃ blanks, AllSpace blanks ∧ text = blanks ++ '\x7d' :: rest := by
  unfold skipObjectEnd at hread
  split at hread
  · cases hread
  · next c more hspace =>
      split at hread
      · next hc =>
          cases hread
          rw [hc] at hspace
          exact exists_blanks_of_skipSpace hspace
      · cases hread

theorem exists_value_of_readRule {rule : DuplicateRule}
    (hread : readRule text = .ok (rule, rest)) :
    ∃ before value raw, AllSpace before ∧ Spells (.value value) raw ∧ NamesRule value rule ∧
      text = before ++ raw ++ rest := by
  revert hread
  fun_cases readRule text <;> intro hread <;> try cases hread
  case case2 hspace =>
    obtain ⟨before, hbefore, rfl⟩ := exists_blanks_of_skipSpace hspace
    obtain ⟨body, hbody, rfl⟩ := exists_body_of_readRuleWord hread
    exact ⟨before, _, _, hbefore, .string hbody, .inl rfl, by simp⟩
  case case5 behind hspace _ hkey hend =>
    obtain ⟨key, hstart, hword⟩ := bind_eq_ok_iff.mp hkey
    obtain ⟨item, hitem, hclosing⟩ := bind_eq_ok_iff.mp hend
    obtain ⟨colon, hcolon, hnull⟩ := bind_eq_ok_iff.mp hitem
    obtain ⟨before, hbefore, rfl⟩ := exists_blanks_of_skipSpace hspace
    obtain ⟨front, hfront, rfl⟩ := exists_blanks_of_startOnlyMember hstart
    obtain ⟨body, hbody, rfl⟩ := exists_body_of_readRuleWord hword
    obtain ⟨after, hafter, rfl⟩ := exists_blanks_of_skipColon hcolon
    obtain ⟨between, hbetween, rfl⟩ := exists_blanks_of_skipNull hnull
    obtain ⟨trail, htrail, rfl⟩ := exists_blanks_of_skipObjectEnd hclosing
    have hkey : SpellsKey _ (front ++ '"' :: body ++ '"' :: after) :=
      ⟨front, body, after, hfront, hbody, hafter, rfl⟩
    exact ⟨before, _, _, hbefore, .object (.lastMember hkey (.padded hbetween .null htrail)),
      .inr rfl, by simp⟩

theorem skipSpace_append_quote (hbefore : AllSpace before) (body rest : List Char) :
    skipSpace (before ++ ('"' :: body ++ ['"']) ++ rest) = '"' :: (body ++ '"' :: rest) := by
  rw [List.append_assoc, skipSpace_append hbefore]
  simp [skipSpace_cons, isSpace]

theorem readText_append {value : String} (hbefore : AllSpace before)
    (hvalue : Spells (.value (.string (units value))) raw) (rest : List Char) :
    readText (before ++ raw ++ rest) = .ok (value, rest) := by
  obtain ⟨body, hbody, rfl⟩ := exists_body_of_spells_string hvalue
  rw [readText]
  simp only [skipSpace_append_quote hbefore, if_true]
  exact hbody.readString rest

theorem readRuleWord_append {rule : DuplicateRule} (hbody : StringBody body (units rule.word))
    (rest : List Char) : readRuleWord (body ++ '"' :: rest) = .ok (rule, rest) := by
  rw [readRuleWord, hbody.readString]
  simp only [DuplicateRule.ofWord?_word]

theorem startOnlyMember_append (hblanks : AllSpace blanks) (rest : List Char) :
    startOnlyMember (blanks ++ '"' :: rest) = .ok rest := by
  rw [startOnlyMember, skipSpace_append hblanks, skipSpace_cons (by decide)]
  rfl

theorem skipNull_append (hblanks : AllSpace blanks) (rest : List Char) :
    skipNull (blanks ++ ['n', 'u', 'l', 'l'] ++ rest) = .ok rest := by
  rw [skipNull, List.append_assoc, skipSpace_append hblanks, List.cons_append,
    skipSpace_cons (by decide)]
  exact readWord_append ['u', 'l', 'l'] rest

theorem skipObjectEnd_append (hblanks : AllSpace blanks) (rest : List Char) :
    skipObjectEnd (blanks ++ '\x7d' :: rest) = .ok rest := by
  rw [skipObjectEnd, skipSpace_append hblanks, skipSpace_cons (by decide)]
  rfl

theorem exists_of_spells_only_null
    (hvalue : Spells (.value (.object [(key, .null)])) raw) :
    ∃ front body after between trail, AllSpace front ∧ StringBody body key ∧ AllSpace after ∧
      AllSpace between ∧ AllSpace trail ∧ raw = '\x7b' :: (front ++ '"' :: (body ++ '"' ::
        (after ++ ':' :: (between ++ ['n', 'u', 'l', 'l'] ++ (trail ++ ['\x7d']))))) := by
  cases hvalue with
  | object hmembers =>
      cases hmembers with
      | lastMember hkey hnull =>
          obtain ⟨front, body, after, hfront, hbody, hafter, rfl⟩ := hkey
          cases hnull with
          | @padded _ between _ trail hbetween hnull htrail =>
              cases hnull
              exact ⟨front, body, after, between, trail, hfront, hbody, hafter, hbetween, htrail,
                by simp⟩
      | member _ _ hnone => cases hnone

theorem readRule_append {rule : DuplicateRule} (hrule : NamesRule value rule)
    (hbefore : AllSpace before) (hvalue : Spells (.value value) raw) (rest : List Char) :
    readRule (before ++ raw ++ rest) = .ok (rule, rest) := by
  rcases hrule with rfl | rfl
  · obtain ⟨body, hbody, rfl⟩ := exists_body_of_spells_string hvalue
    rw [readRule]
    simp only [skipSpace_append_quote hbefore, if_true]
    exact readRuleWord_append hbody rest
  · obtain ⟨front, body, after, between, trail, hfront, hbody, hafter, hbetween, htrail, rfl⟩ :=
      exists_of_spells_only_null hvalue
    let behind := after ++ ':' :: (between ++ ['n', 'u', 'l', 'l'] ++ (trail ++ '\x7d' :: rest))
    have hkey : (startOnlyMember (front ++ '"' :: (body ++ '"' :: behind))).bind readRuleWord =
        .ok (rule, behind) := by
      rw [startOnlyMember_append hfront]
      exact readRuleWord_append hbody behind
    have hend : ((skipColon behind).bind skipNull).bind skipObjectEnd = .ok rest := by
      rw [skipColon_append hafter]
      change (skipNull (between ++ ['n', 'u', 'l', 'l'] ++ (trail ++ '\x7d' :: rest))).bind
        skipObjectEnd = .ok rest
      rw [skipNull_append hbetween]
      exact skipObjectEnd_append htrail rest
    have hspace : skipSpace (before ++ '\x7b' :: (front ++ '"' :: (body ++ '"' :: behind))) =
        '\x7b' :: (front ++ '"' :: (body ++ '"' :: behind)) := by
      rw [skipSpace_append hbefore, skipSpace_cons (by decide)]
    have htext : readRule (before ++ '\x7b' :: (front ++ '"' :: (body ++ '"' :: behind))) =
        .ok (rule, rest) := by
      rw [readRule, hspace]
      simp [hkey, hend]
    simpa [behind] using htext

/-! ### Members -/

/-- Whether the text is a member behind the opening quote of its key. -/
def IsMember (key : List Nat) (value : Document) (text : List Char) : Prop :=
  ∃ body after before raw, StringBody body key ∧ AllSpace after ∧ AllSpace before ∧
    Spells (.value value) raw ∧ text = body ++ '"' :: (after ++ ':' :: (before ++ raw))

theorem exists_value_of_readSetting {key : SettingKey} (hnew : draft.has key = false)
    (hread : readSetting draft key text = .ok (result, rest)) :
    ∃ before value raw, AllSpace before ∧ Spells (.value value) raw ∧
      draft.Takes (units key.word, value) result ∧ text = before ++ raw ++ rest := by
  unfold readSetting at hread
  split at hread
  · obtain ⟨⟨value, after⟩, hvalue, heq⟩ := map_eq_ok_iff.mp hread
    cases heq
    obtain ⟨before, raw, hbefore, hraw, rfl⟩ := exists_body_of_readText hvalue
    exact ⟨before, _, raw, hbefore, hraw, .text hnew, rfl⟩
  · obtain ⟨⟨rule, after⟩, hvalue, heq⟩ := map_eq_ok_iff.mp hread
    cases heq
    obtain ⟨before, value, raw, hbefore, hraw, hrule, rfl⟩ := exists_value_of_readRule hvalue
    exact ⟨before, value, raw, hbefore, hraw, .rule hnew hrule, rfl⟩

theorem exists_member_of_readMember (hread : readMember draft text = .ok (result, rest)) :
    ∃ key value raw, IsMember key value raw ∧ draft.Takes (key, value) result ∧
      text = raw ++ rest := by
  revert hread
  fun_cases readMember draft text <;> intro hread <;> try cases hread
  case case2 word behind hword hunknown =>
    obtain ⟨body, hbody, rfl⟩ := exists_body_of_readString hword
    obtain ⟨_, hskip, heq⟩ := map_eq_ok_iff.mp hread
    cases heq
    obtain ⟨colon, hcolon, hvalue⟩ := bind_eq_ok_iff.mp hskip
    obtain ⟨after, hafter, rfl⟩ := exists_blanks_of_skipColon hcolon
    obtain ⟨before, value, raw, hbefore, hraw, rfl⟩ := exists_value_of_skipValue hvalue
    exact ⟨units word, value, _, ⟨body, after, before, raw, hbody, hafter, hbefore, hraw, rfl⟩,
      .unknown hunknown, by simp⟩
  case case4 word behind hword key hknown hnew =>
    obtain ⟨body, hbody, rfl⟩ := exists_body_of_readString hword
    obtain ⟨colon, hcolon, hvalue⟩ := bind_eq_ok_iff.mp hread
    obtain ⟨after, hafter, rfl⟩ := exists_blanks_of_skipColon hcolon
    obtain ⟨before, value, raw, hbefore, hraw, htakes, rfl⟩ :=
      exists_value_of_readSetting (Bool.not_eq_true _ ▸ hnew) hvalue
    rw [← SettingKey.word_of_ofWord? hknown] at hbody
    exact ⟨units key.word, value, _,
      ⟨body, after, before, raw, hbody, hafter, hbefore, hraw, rfl⟩, htakes, by simp⟩

theorem readMember_append (hmember : IsMember key value raw)
    (htakes : draft.Takes (key, value) result) (hends : EndsNumber rest) :
    readMember draft (raw ++ rest) = .ok (result, rest) := by
  obtain ⟨body, after, before, raw, hbody, hafter, hbefore, hvalue, rfl⟩ := hmember
  have htext : body ++ '"' :: (after ++ ':' :: (before ++ raw)) ++ rest =
      body ++ '"' :: (after ++ ':' :: (before ++ raw ++ rest)) := by simp
  rw [htext, readMember]
  cases htakes with
  | unknown hunknown =>
      rw [hbody.readString]
      simp only [hunknown]
      rw [skipColon_append hafter]
      change Except.map _ (skipValue (before ++ raw ++ rest)) = _
      rw [skipValue_append hbefore hvalue hends]
      rfl
  | @text setting _ hnew =>
      have hword : SettingKey.ofWord? setting.key = some (.text setting) :=
        SettingKey.ofWord?_word (.text setting)
      rw [hbody.readString]
      simp only [hword, hnew, Bool.false_eq_true, if_false]
      rw [skipColon_append hafter]
      change readSetting draft (.text setting) (before ++ raw ++ rest) = _
      rw [readSetting, readText_append hbefore hvalue]
      rfl
  | rule hnew hrule =>
      rw [hbody.readString]
      simp only [SettingKey.ofWord?_word, hnew, Bool.false_eq_true, if_false]
      rw [skipColon_append hafter]
      change readSetting draft .duplicateCheck (before ++ raw ++ rest) = _
      rw [readSetting, readRule_append hrule hbefore hvalue]
      rfl

/-! ### Objects -/

theorem exists_of_startMember_closed (hstart : startMember isFirst text = .ok (.closed rest)) :
    ∃ blanks, AllSpace blanks ∧ text = blanks ++ '\x7d' :: rest := by
  revert hstart
  fun_cases startMember isFirst text <;> intro hstart <;> cases hstart
  case case2 hspace => exact exists_blanks_of_skipSpace hspace

theorem exists_of_startMember_item (hstart : startMember isFirst text = .ok (.item rest)) :
    ∃ front, OpensItem isFirst front ∧ text = front ++ '"' :: rest := by
  revert hstart
  fun_cases startMember isFirst text <;> intro hstart <;> cases hstart
  case case3 hfirst _ hspace =>
    obtain ⟨blanks, hblanks, rfl⟩ := exists_blanks_of_skipSpace hspace
    subst hfirst
    exact ⟨blanks, hblanks, rfl⟩
  case case6 hfirst hspace _ hbehind =>
    obtain ⟨blanks, hblanks, rfl⟩ := exists_blanks_of_skipSpace hspace
    obtain ⟨before, hbefore, rfl⟩ := exists_blanks_of_skipSpace hbehind
    obtain rfl : isFirst = false := Bool.not_eq_true _ ▸ hfirst
    exact ⟨_, ⟨blanks, before, hblanks, hbefore, rfl⟩, by simp⟩

theorem spells_members_cons_iff (text : List Char) :
    Spells (.members ((key, value) :: members)) text ↔ ∃ before rest, AllSpace before ∧
      (∃ raw inner, IsMember key value raw ∧ IsInner .members false members inner ∧
        rest = '"' :: (raw ++ inner)) ∧ text = before ++ rest := by
  constructor
  · intro hspells
    cases hspells with
    | lastMember hkey hvalue =>
        obtain ⟨before, body, after, hbefore, hbody, hafter, rfl⟩ := hkey
        cases hvalue with
        | padded hbetween hvalue htrail =>
            exact ⟨before, _, hbefore, ⟨_, _, ⟨body, after, _, _, hbody, hafter, hbetween, hvalue,
              rfl⟩, .inl ⟨rfl, htrail⟩, rfl⟩, by simp⟩
    | member hkey hvalue hmembers =>
        obtain ⟨before, body, after, hbefore, hbody, hafter, rfl⟩ := hkey
        cases hvalue with
        | padded hbetween hvalue htrail =>
            exact ⟨before, _, hbefore, ⟨_, _, ⟨body, after, _, _, hbody, hafter, hbetween, hvalue,
              rfl⟩, .inr ⟨_, _, htrail, hmembers, rfl⟩, rfl⟩, by simp⟩
  · rintro ⟨before, _, hbefore, ⟨_, inner, hmember, hinner, rfl⟩, rfl⟩
    obtain ⟨body, after, between, raw, hbody, hafter, hbetween, hvalue, rfl⟩ := hmember
    have hkey : SpellsKey key (before ++ '"' :: body ++ '"' :: after) :=
      ⟨before, body, after, hbefore, hbody, hafter, rfl⟩
    rcases hinner with ⟨rfl, hblanks⟩ | ⟨blanks, more, hblanks, hmore, rfl⟩
    · simpa using Spells.lastMember hkey (.padded hbetween hvalue hblanks)
    · simpa using Spells.member hkey (.padded hbetween hvalue hblanks) hmore

theorem isInner_members_cons_iff : IsInner .members isFirst ((key, value) :: members) text ↔
    ∃ front rest, OpensItem isFirst front ∧
      (∃ raw inner, IsMember key value raw ∧ IsInner .members false members inner ∧
        rest = '"' :: (raw ++ inner)) ∧ text = front ++ rest :=
  isInner_cons_iff spells_members_cons_iff

theorem exists_members_of_readMembers
    (hread : readMembers draft isFirst text = .ok (result, rest)) :
    ∃ members inner, IsInner .members isFirst members inner ∧ draft.TakesAll members result ∧
      text = inner ++ '\x7d' :: rest := by
  fun_induction readMembers draft isFirst text with
  | case1 => cases hread
  | case2 draft isFirst text after hstart =>
      cases hread
      obtain ⟨blanks, hblanks, rfl⟩ := exists_of_startMember_closed hstart
      exact ⟨[], blanks, isInner_no_members_iff.mpr hblanks, .nil, rfl⟩
  | case3 => cases hread
  | case4 draft isFirst text item hstart middle behind hmember _ ih =>
      obtain ⟨members, inner, hmembers, htakesAll, rfl⟩ := ih hread
      obtain ⟨key, value, raw, hraw, htakes, rfl⟩ := exists_member_of_readMember hmember
      obtain ⟨front, hfront, rfl⟩ := exists_of_startMember_item hstart
      exact ⟨(key, value) :: members, _,
        isInner_members_cons_iff.mpr ⟨front, _, hfront, ⟨raw, inner, hraw, hmembers, rfl⟩, rfl⟩,
        .cons htakes htakesAll, by simp⟩

theorem startMember_closed (hblanks : AllSpace blanks) (rest : List Char) :
    startMember isFirst (blanks ++ '\x7d' :: rest) = .ok (.closed rest) := by
  rw [startMember, skipSpace_append hblanks, skipSpace_cons (by decide)]
  rfl

theorem startMember_item {front : List Char} (hfront : OpensItem isFirst front)
    (rest : List Char) : startMember isFirst (front ++ '"' :: rest) = .ok (.item rest) := by
  cases isFirst with
  | true =>
      rw [startMember, skipSpace_append hfront, skipSpace_cons (by decide)]
      rfl
  | false =>
      obtain ⟨blanks, before, hblanks, hbefore, rfl⟩ := hfront
      rw [startMember, List.append_assoc, skipSpace_append hblanks, List.cons_append,
        skipSpace_cons (by decide)]
      simp only [Bool.false_eq_true, if_false, if_true]
      rw [skipSpace_append hbefore, skipSpace_cons (by decide)]
      rfl

theorem endsNumber_of_isInner (hmembers : IsInner .members false members inner) (rest : List Char) :
    EndsNumber (inner ++ '\x7d' :: rest) := by
  rcases hmembers with ⟨_, hblanks⟩ | ⟨blanks, more, hblanks, _, rfl⟩
  · exact (endsNumber_closing .curly rest).append_left hblanks
  · rw [List.append_assoc]
    exact EndsNumber.append_left hblanks (endsNumber_cons (by decide) _)

theorem readMembers_closed (hstart : startMember isFirst text = .ok (.closed rest)) :
    readMembers draft isFirst text = .ok (draft, rest) := by
  rw [readMembers]
  split
  · next h => cases hstart.symm.trans h
  · next h =>
      cases hstart.symm.trans h
      rfl
  · next h => cases hstart.symm.trans h

theorem readMembers_item {item : List Char} {middle : Draft}
    (hstart : startMember isFirst text = .ok (.item item))
    (hmember : readMember draft item = .ok (middle, rest)) :
    readMembers draft isFirst text = readMembers middle false rest := by
  rw [readMembers.eq_def draft]
  split
  · next h => cases hstart.symm.trans h
  · next h => cases hstart.symm.trans h
  · next h =>
      cases hstart.symm.trans h
      split
      · next h => cases hmember.symm.trans h
      · next h =>
          cases hmember.symm.trans h
          rfl

theorem readMembers_append (htakesAll : draft.TakesAll members result)
    (hmembers : IsInner .members isFirst members inner) (rest : List Char) :
    readMembers draft isFirst (inner ++ '\x7d' :: rest) = .ok (result, rest) := by
  -- behind the first member the text begins with a comma, so the place is generalised too
  induction htakesAll generalizing isFirst inner with
  | nil => exact readMembers_closed (startMember_closed (isInner_no_members_iff.mp hmembers) rest)
  | cons htakes htakesAll ih =>
      obtain ⟨front, _, hfront, ⟨raw, inner, hraw, hinner, rfl⟩, rfl⟩ :=
        isInner_members_cons_iff.mp hmembers
      have hstart := startMember_item hfront (raw ++ (inner ++ '\x7d' :: rest))
      have hmember := readMember_append hraw htakes (endsNumber_of_isInner hinner rest)
      have hread := readMembers_item hstart hmember
      rw [ih hinner] at hread
      simpa using hread

end Configuration

end DispatchAudit
