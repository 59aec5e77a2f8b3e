import DispatchAudit.Proofs.Json.Scalars

/-!
# Values that are skipped

A value is skipped without recursion: the brackets that are open are kept in a list. What the
grammar says about a whole value is therefore put in terms of the open brackets: for each of them
the text still has to go on behind an item and to close it. Skipping goes on exactly as far as a
text of that form.
-/

namespace DispatchAudit.Json

variable {text rest blanks body inner front : List Char} {written : List Nat}
  {bracket : Bracket} {opened outer : List Bracket} {awaited : Awaited} {document : Document}
  {c : Char}

/-! ### What open brackets ask for -/

def Bracket.opening : Bracket → Char
  | square => '['
  | curly => '\x7b'

/-- Whether the text is the items that stand in the bracket, one or more. -/
def Bracket.Holds : Bracket → List Char → Prop
  | square, text => ∃ items, Spells (.items items) text
  | curly, text => ∃ members, Spells (.members members) text

/-- Whether the text stands in front of the value of an item in the bracket. -/
def Bracket.Leads : Bracket → List Char → Prop
  | square, text => text = []
  | curly, text => ∃ key keyText, SpellsKey key keyText ∧ text = keyText ++ [':']

/-- Whether the text can stand between an item and the end of the bracket. -/
def Bracket.Trails (bracket : Bracket) (text : List Char) : Prop :=
  AllSpace text ∨ ∃ blanks more, AllSpace blanks ∧ bracket.Holds more ∧ text = blanks ++ ',' :: more

/-- Whether the text closes the open brackets, the innermost of which stands behind an item. -/
def Closes : List Bracket → List Char → Prop
  | [], text => text = []
  | bracket :: outer, text => ∃ trail more, bracket.Trails trail ∧ Closes outer more ∧
      text = trail ++ bracket.closing :: more

/-- Whether the text is what is awaited inside the open brackets, and their ends. -/
def Meets (opened : List Bracket) : Awaited → List Char → Prop
  | .value, text => ∃ before document raw more, AllSpace before ∧ Spells (.value document) raw ∧
      Closes opened more ∧ text = before ++ raw ++ more
  | .separator, text => Closes opened text
  | .firstItem, text =>
    match opened with
    | [] => text = []
    | bracket :: outer => ∃ inner more, (AllSpace inner ∨ bracket.Holds inner) ∧ Closes outer more ∧
        text = inner ++ bracket.closing :: more

theorem Bracket.exists_spells (hinner : AllSpace inner ∨ bracket.Holds inner) :
    ∃ document, Spells (.value document) (bracket.opening :: inner ++ [bracket.closing]) := by
  cases bracket with
  | square =>
      rcases hinner with hblanks | ⟨items, hitems⟩
      · exact ⟨_, .emptyArray hblanks⟩
      · exact ⟨_, .array hitems⟩
  | curly =>
      rcases hinner with hblanks | ⟨members, hmembers⟩
      · exact ⟨_, .emptyObject hblanks⟩
      · exact ⟨_, .object hmembers⟩

theorem Bracket.Leads.holds {lead before raw trail : List Char} (hlead : bracket.Leads lead)
    (hbefore : AllSpace before) (hvalue : Spells (.value document) raw)
    (htrail : bracket.Trails trail) : bracket.Holds (lead ++ (before ++ raw ++ trail)) := by
  -- the blanks behind the value belong to it, whatever follows them
  obtain ⟨after, hafter, htrail⟩ : ∃ after, AllSpace after ∧ (trail = after ∨
      ∃ more, bracket.Holds more ∧ trail = after ++ ',' :: more) := by
    rcases htrail with hblanks | ⟨blanks, more, hblanks, hmore, rfl⟩
    · exact ⟨trail, hblanks, .inl rfl⟩
    · exact ⟨blanks, hblanks, .inr ⟨more, hmore, rfl⟩⟩
  have hpadded : Spells (.padded document) (before ++ raw ++ after) :=
    .padded hbefore hvalue hafter
  cases bracket with
  | square =>
      obtain rfl : lead = [] := hlead
      rcases htrail with rfl | ⟨more, ⟨items, hitems⟩, rfl⟩
      · exact ⟨_, .lastItem hpadded⟩
      · exact ⟨_, by simpa using Spells.item hpadded hitems⟩
  | curly =>
      obtain ⟨key, keyText, hkey, rfl⟩ := hlead
      rcases htrail with rfl | ⟨more, ⟨members, hmembers⟩, rfl⟩
      · exact ⟨_, by simpa using Spells.lastMember hkey hpadded⟩
      · exact ⟨_, by simpa using Spells.member hkey hpadded hmembers⟩

theorem exists_lead_of_skipKey (hblanks : AllSpace blanks)
    (hskip : skipKey bracket text = .ok rest) :
    ∃ lead before, bracket.Leads lead ∧ AllSpace before ∧
      blanks ++ text = lead ++ before ++ rest := by
  cases bracket with
  | square =>
      cases hskip
      exact ⟨[], blanks, rfl, hblanks, rfl⟩
  | curly =>
      unfold skipKey at hskip
      simp only at hskip
      split at hskip
      · cases hskip
      · next c more hspace =>
          split at hskip
          · next hc =>
              obtain ⟨tail, hstring, hcolon⟩ := bind_eq_ok_iff.mp hskip
              obtain ⟨body, written, hbody, rfl⟩ := exists_body_of_skipString hstring
              obtain ⟨before, hbefore, rfl⟩ := exists_blanks_of_skipSpace hspace
              obtain ⟨after, hafter, rfl⟩ := exists_blanks_of_skipColon hcolon
              refine ⟨_, [], ⟨written, _, ⟨blanks ++ before, body, after, hblanks.append hbefore,
                hbody, hafter, rfl⟩, rfl⟩, .nil, ?_⟩
              simp [hc]
          · cases hskip

theorem Meets.exists_items {lead : List Char} (hlead : bracket.Leads lead)
    (hblanks : AllSpace blanks) (hmeets : Meets (bracket :: outer) .value front) :
    ∃ inner more, bracket.Holds inner ∧ Closes outer more ∧
      lead ++ blanks ++ front = inner ++ bracket.closing :: more := by
  obtain ⟨before, document, raw, _, hbefore, hvalue, ⟨trail, more, htrail, hmore, rfl⟩, rfl⟩ :=
    hmeets
  exact ⟨_, more, hlead.holds (hblanks.append hbefore) hvalue htrail, hmore, by simp⟩

theorem Meets.exists_value (hblanks : AllSpace blanks)
    (hmeets : Meets (bracket :: opened) .firstItem front) :
    Meets opened .value (blanks ++ bracket.opening :: front) := by
  obtain ⟨inner, more, hinner, hmore, rfl⟩ := hmeets
  obtain ⟨document, hvalue⟩ := Bracket.exists_spells hinner
  exact ⟨blanks, document, _, more, hblanks, hvalue, hmore, by simp⟩

/-! ### Whatever is skipped is a value -/

theorem exists_front_of_skipAwaited (hskip : skipAwaited opened awaited text = .ok rest) :
    ∃ front, Meets opened awaited front ∧ text = front ++ rest := by
  -- each step puts something in front of a text that the brackets left open ask for
  fun_induction skipAwaited opened awaited text with
  | case1 opened text more hspace _ ih | case2 opened text more hspace _ ih =>
      obtain ⟨front, hfront, rfl⟩ := ih hskip
      obtain ⟨blanks, hblanks, rfl⟩ := exists_blanks_of_skipSpace hspace
      exact ⟨_, hfront.exists_value hblanks, by simp [Bracket.opening]⟩
  | case3 => cases hskip
  | case4 opened text more _ _ hscalar _ ih =>
      obtain ⟨front, hfront, rfl⟩ := ih hskip
      obtain ⟨document, raw, hvalue, hspace⟩ := exists_scalar_of_skipScalar hscalar
      obtain ⟨blanks, hblanks, rfl⟩ := exists_blanks_of_skipSpace hspace
      exact ⟨_, ⟨blanks, document, raw, front, hblanks, hvalue, hfront, rfl⟩, by simp⟩
  | case5 =>
      cases hskip
      exact ⟨[], rfl, rfl⟩
  | case6 => cases hskip
  | case7 text bracket outer more hspace _ ih =>
      obtain ⟨front, hfront, rfl⟩ := ih hskip
      obtain ⟨blanks, hblanks, rfl⟩ := exists_blanks_of_skipSpace hspace
      exact ⟨_, ⟨blanks, front, .inl hblanks, hfront, rfl⟩, by simp⟩
  | case8 => cases hskip
  | case9 text bracket outer more item hkey hspace _ _ _ ih =>
      obtain ⟨front, hfront, rfl⟩ := ih hskip
      obtain ⟨lead, before, hlead, hbefore, hmore⟩ := exists_lead_of_skipKey .nil hkey
      obtain ⟨inner, behind, hinner, hbehind, hitems⟩ := hfront.exists_items hlead hbefore
      obtain ⟨blanks, hblanks, rfl⟩ := exists_blanks_of_skipSpace hspace
      refine ⟨_, ⟨_, behind, .inr ⟨blanks, inner, hblanks, hinner, rfl⟩, hbehind, rfl⟩, ?_⟩
      rw [List.nil_append, ← List.append_assoc, hitems] at hmore
      simp [hmore]
  | case10 => cases hskip
  | case11 =>
      cases hskip
      exact ⟨[], rfl, rfl⟩
  | case12 => cases hskip
  | case13 text bracket outer more hspace _ ih =>
      obtain ⟨front, hfront, rfl⟩ := ih hskip
      obtain ⟨blanks, hblanks, rfl⟩ := exists_blanks_of_skipSpace hspace
      exact ⟨_, ⟨blanks, front, .inl hblanks, hfront, rfl⟩, by simp⟩
  | case14 => cases hskip
  | case15 text bracket outer c more hspace _ _ item hkey _ ih =>
      obtain ⟨front, hfront, rfl⟩ := ih hskip
      obtain ⟨blanks, hblanks, rfl⟩ := exists_blanks_of_skipSpace hspace
      obtain ⟨lead, before, hlead, hbefore, hmore⟩ := exists_lead_of_skipKey hblanks hkey
      obtain ⟨inner, behind, hinner, hbehind, hitems⟩ := hfront.exists_items hlead hbefore
      refine ⟨_, ⟨inner, behind, .inr hinner, hbehind, rfl⟩, ?_⟩
      rw [hmore, ← List.append_assoc, hitems]

theorem exists_value_of_skipValue (hskip : skipValue text = .ok rest) :
    ∃ before document raw, AllSpace before ∧ Spells (.value document) raw ∧
      text = before ++ raw ++ rest := by
  obtain ⟨front, ⟨before, document, raw, more, hbefore, hvalue, hmore, rfl⟩, rfl⟩ :=
    exists_front_of_skipAwaited hskip
  obtain rfl : more = [] := hmore
  exact ⟨before, document, raw, hbefore, hvalue, by simp⟩

/-! ### Steps inside open brackets -/

theorem skipAwaited_opening (hspace : skipSpace text = bracket.opening :: rest) :
    skipAwaited opened .value text = skipAwaited (bracket :: opened) .firstItem rest := by
  rw [skipAwaited]
  cases bracket with
  | square =>
      split
      · next h =>
          cases hspace.symm.trans h
          rfl
      · next h => cases hspace.symm.trans h
      · next h _ => exact absurd hspace (h rest)
  | curly =>
      split
      · next h => cases hspace.symm.trans h
      · next h =>
          cases hspace.symm.trans h
          rfl
      · next h => exact absurd hspace (h rest)

theorem skipAwaited_scalar (hscalar : IsScalar inner) (hblanks : AllSpace blanks)
    (hends : EndsNumber rest) :
    skipAwaited opened .value (blanks ++ inner ++ rest) = skipAwaited opened .separator rest := by
  have hskip := hscalar.skip rest hends
  obtain ⟨c, more, rfl, hc, hbracket⟩ := hscalar.exists_cons
  have hspace : skipSpace (blanks ++ c :: more ++ rest) = c :: more ++ rest := by
    rw [List.append_assoc, skipSpace_append hblanks, List.cons_append, skipSpace_cons hc]
  rw [skipAwaited]
  split
  · next h =>
      cases hspace.symm.trans h
      exact absurd (by decide) hbracket
  · next h =>
      cases hspace.symm.trans h
      exact absurd (by decide) hbracket
  · split
    · next h =>
        rw [hspace, hskip] at h
        cases h
    · next h =>
        rw [hspace, hskip] at h
        cases h
        rfl

theorem skipAwaited_closing (hspace : skipSpace text = bracket.closing :: rest) :
    skipAwaited (bracket :: outer) .separator text = skipAwaited outer .separator rest := by
  rw [skipAwaited]
  split
  · next h => cases hspace.symm.trans h
  · next h =>
      obtain ⟨rfl, rfl⟩ := List.cons.inj (hspace.symm.trans h)
      rw [if_pos rfl]

theorem skipAwaited_empty (hspace : skipSpace text = bracket.closing :: rest) :
    skipAwaited (bracket :: outer) .firstItem text = skipAwaited outer .separator rest := by
  rw [skipAwaited]
  split
  · next h => cases hspace.symm.trans h
  · next h =>
      obtain ⟨rfl, rfl⟩ := List.cons.inj (hspace.symm.trans h)
      rw [if_pos rfl]

theorem skipAwaited_comma (hspace : skipSpace text = ',' :: rest) {item : List Char}
    (hkey : skipKey bracket rest = .ok item) :
    skipAwaited (bracket :: outer) .separator text = skipAwaited (bracket :: outer) .value item := by
  have hne : ',' ≠ bracket.closing := by cases bracket <;> decide
  conv =>
    lhs
    rw [skipAwaited]
  split
  · next h => cases hspace.symm.trans h
  · next h =>
      obtain ⟨rfl, rfl⟩ := List.cons.inj (hspace.symm.trans h)
      rw [if_neg hne, if_pos rfl]
      split
      · next h => cases hkey.symm.trans h
      · next h =>
          cases hkey.symm.trans h
          rfl

theorem skipAwaited_first (hspace : skipSpace text = c :: rest) (hc : c ≠ bracket.closing)
    {item : List Char} (hkey : skipKey bracket (c :: rest) = .ok item) :
    skipAwaited (bracket :: outer) .firstItem text = skipAwaited (bracket :: outer) .value item := by
  conv =>
    lhs
    rw [skipAwaited]
  split
  · next h => cases hspace.symm.trans h
  · next h =>
      obtain ⟨rfl, rfl⟩ := List.cons.inj (hspace.symm.trans h)
      rw [if_neg hc]
      split
      · next h => cases hkey.symm.trans h
      · next h =>
          cases hkey.symm.trans h
          rfl

theorem skipSpace_skipSpace (text : List Char) : skipSpace (skipSpace text) = skipSpace text := by
  cases hspace : skipSpace text with
  | nil => rfl
  | cons c rest => exact skipSpace_cons (isSpace_of_skipSpace_eq_cons hspace) rest

theorem skipAwaited_congr {left right : List Char} (heq : skipSpace left = skipSpace right)
    (opened : List Bracket) :
    skipAwaited opened .value left = skipAwaited opened .value right := by
  rw [skipAwaited.eq_def, skipAwaited.eq_def opened .value right]
  simp only
  rw [heq]

theorem endsNumber_cons (hc : c ∈ [',', ']', '\x7d', ' ', '\t', '\n', '\r']) (rest : List Char) :
    EndsNumber (c :: rest) := by
  intro d hd
  cases hd
  simp only [List.mem_cons, List.not_mem_nil, or_false] at hc
  rcases hc with rfl | rfl | rfl | rfl | rfl | rfl | rfl <;> decide

theorem endsNumber_closing (bracket : Bracket) (rest : List Char) :
    EndsNumber (bracket.closing :: rest) := by
  apply endsNumber_cons
  cases bracket <;> decide

theorem EndsNumber.append_left (hblanks : AllSpace blanks) (hends : EndsNumber rest) :
    EndsNumber (blanks ++ rest) := by
  cases blanks with
  | nil => exact hends
  | cons c more =>
      apply endsNumber_cons
      have hc := hblanks c List.mem_cons_self
      simp [hc]

/-! ### Items, and the brackets that hold them -/

def SkipsValue (text : List Char) : Prop :=
  ∀ opened blanks rest, AllSpace blanks → EndsNumber rest →
    skipAwaited opened .value (blanks ++ text ++ rest) = skipAwaited opened .separator rest

/-- Whether skipping goes on behind the value, with blanks around it of which some may be left. -/
def SkipsPadded (text : List Char) : Prop :=
  ∀ opened rest, EndsNumber rest → ∃ blanks, AllSpace blanks ∧
    skipAwaited opened .value (text ++ rest) = skipAwaited opened .separator (blanks ++ rest)

def Bracket.SkipsItems (bracket : Bracket) (text : List Char) : Prop :=
  ∀ outer rest, ∃ item, skipKey bracket (text ++ bracket.closing :: rest) = .ok item ∧
    skipAwaited (bracket :: outer) .value item = skipAwaited outer .separator rest

theorem IsScalar.skipsValue (hscalar : IsScalar text) : SkipsValue text :=
  fun _ _ _ hblanks hends => skipAwaited_scalar hscalar hblanks hends

theorem Bracket.skipSpace_opening (bracket : Bracket) (hblanks : AllSpace blanks)
    (text : List Char) :
    skipSpace (blanks ++ bracket.opening :: text) = bracket.opening :: text := by
  rw [skipSpace_append hblanks]
  apply skipSpace_cons
  cases bracket <;> decide

theorem Bracket.skipSpace_closing (bracket : Bracket) (hblanks : AllSpace blanks)
    (text : List Char) :
    skipSpace (blanks ++ bracket.closing :: text) = bracket.closing :: text := by
  rw [skipSpace_append hblanks]
  apply skipSpace_cons
  cases bracket <;> decide

theorem Bracket.skipsValue (hinner : ∀ outer rest,
      skipAwaited (bracket :: outer) .firstItem (inner ++ bracket.closing :: rest) =
        skipAwaited outer .separator rest) :
    SkipsValue (bracket.opening :: inner ++ [bracket.closing]) := by
  intro opened blanks rest hblanks _
  have hspace : skipSpace (blanks ++ (bracket.opening :: inner ++ [bracket.closing]) ++ rest) =
      bracket.opening :: (inner ++ bracket.closing :: rest) := by
    simpa using bracket.skipSpace_opening hblanks (inner ++ bracket.closing :: rest)
  rw [skipAwaited_opening hspace, hinner]

theorem Bracket.skipsValue_empty (bracket : Bracket) (hblanks : AllSpace blanks) :
    SkipsValue (bracket.opening :: blanks ++ [bracket.closing]) :=
  Bracket.skipsValue fun _ rest => skipAwaited_empty (bracket.skipSpace_closing hblanks rest)

theorem exists_skipKey_skipSpace {item : List Char} (hkey : skipKey bracket text = .ok item) :
    ∃ item', skipKey bracket (skipSpace text) = .ok item' ∧ skipSpace item' = skipSpace item := by
  cases bracket with
  | square =>
      cases hkey
      exact ⟨_, rfl, skipSpace_skipSpace text⟩
  | curly =>
      refine ⟨item, ?_, rfl⟩
      rwa [skipKey, skipSpace_skipSpace]

theorem Bracket.SkipsItems.skipsValue (hitems : bracket.SkipsItems inner)
    (hfirst : ∀ rest, ∃ c more, skipSpace (inner ++ rest) = c :: more ∧ c ≠ bracket.closing) :
    SkipsValue (bracket.opening :: inner ++ [bracket.closing]) := by
  apply Bracket.skipsValue
  intro outer rest
  obtain ⟨c, more, hspace, hc⟩ := hfirst (bracket.closing :: rest)
  obtain ⟨item, hkey, hskip⟩ := hitems outer rest
  obtain ⟨item', hkey', hitem⟩ := exists_skipKey_skipSpace hkey
  rw [hspace] at hkey'
  rw [skipAwaited_first hspace hc hkey', skipAwaited_congr hitem, hskip]

theorem Bracket.Leads.skipKey {lead : List Char} (hlead : bracket.Leads lead) (rest : List Char) :
    skipKey bracket (lead ++ rest) = .ok rest := by
  cases bracket with
  | square =>
      obtain rfl : lead = [] := hlead
      rfl
  | curly =>
      obtain ⟨key, _, ⟨before, body, after, hbefore, hbody, hafter, rfl⟩, rfl⟩ := hlead
      have hspace : skipSpace (before ++ '"' :: body ++ '"' :: after ++ [':'] ++ rest) =
          '"' :: (body ++ '"' :: (after ++ ':' :: rest)) := by
        simp only [List.append_assoc, List.cons_append, List.nil_append]
        rw [skipSpace_append hbefore, skipSpace_cons (by decide)]
      rw [Json.skipKey]
      simp only [hspace, if_true]
      rw [hbody.skipString]
      exact skipColon_append hafter rest

theorem Bracket.Leads.skipsItems_last {lead : List Char} (hlead : bracket.Leads lead)
    (hpadded : SkipsPadded text) : bracket.SkipsItems (lead ++ text) := by
  intro outer rest
  obtain ⟨blanks, hblanks, hskip⟩ :=
    hpadded (bracket :: outer) _ (endsNumber_closing bracket rest)
  refine ⟨text ++ bracket.closing :: rest, ?_, ?_⟩
  · rw [List.append_assoc, hlead.skipKey]
  · rw [hskip, skipAwaited_closing (bracket.skipSpace_closing hblanks rest)]

theorem Bracket.Leads.skipsItems_cons {lead more : List Char} (hlead : bracket.Leads lead)
    (hpadded : SkipsPadded text) (hmore : bracket.SkipsItems more) :
    bracket.SkipsItems (lead ++ text ++ ',' :: more) := by
  intro outer rest
  have hends : EndsNumber (',' :: (more ++ bracket.closing :: rest)) :=
    endsNumber_cons (by decide) _
  obtain ⟨blanks, hblanks, hskip⟩ := hpadded (bracket :: outer) _ hends
  obtain ⟨item, hkey, hitem⟩ := hmore outer rest
  have hspace : skipSpace (blanks ++ ',' :: (more ++ bracket.closing :: rest)) =
      ',' :: (more ++ bracket.closing :: rest) := by
    rw [skipSpace_append hblanks, skipSpace_cons (by decide)]
  refine ⟨text ++ ',' :: (more ++ bracket.closing :: rest), ?_, ?_⟩
  · simpa using hlead.skipKey (text ++ ',' :: (more ++ bracket.closing :: rest))
  · rw [hskip, skipAwaited_comma hspace hkey, hitem]

/-! ### Every value is skipped -/

theorem exists_head_of_value (hvalue : Spells (.value document) text) :
    ∃ c more, text = c :: more ∧ isSpace c = false ∧ c ≠ ']' := by
  cases hvalue with
  | null => exact isScalar_null.exists_head
  | true => exact isScalar_true.exists_head
  | false => exact isScalar_false.exists_head
  | number hnumber => exact hnumber.isScalar.exists_head
  | string hbody => exact hbody.isScalar.exists_head
  | emptyArray | array => exact ⟨'[', _, rfl, by decide, by decide⟩
  | emptyObject | object => exact ⟨'\x7b', _, rfl, by decide, by decide⟩

theorem exists_first_of_padded (hpadded : Spells (.padded document) text) (rest : List Char) :
    ∃ c more, skipSpace (text ++ rest) = c :: more ∧ c ≠ ']' := by
  cases hpadded with
  | @padded _ before _ after hbefore hvalue _ =>
      obtain ⟨c, more, rfl, hc, hne⟩ := exists_head_of_value hvalue
      refine ⟨c, more ++ after ++ rest, ?_, hne⟩
      simp only [List.append_assoc, List.cons_append]
      rw [skipSpace_append hbefore, skipSpace_cons hc]

theorem exists_first_of_items {items : List Document} (hitems : Spells (.items items) text)
    (rest : List Char) : ∃ c more, skipSpace (text ++ rest) = c :: more ∧ c ≠ ']' := by
  cases hitems with
  | lastItem hitem => exact exists_first_of_padded hitem rest
  | item hitem _ =>
      rw [List.append_assoc]
      exact exists_first_of_padded hitem _

theorem SpellsKey.exists_first {key : List Nat} (hkey : SpellsKey key text) (rest : List Char) :
    ∃ more, skipSpace (text ++ rest) = '"' :: more := by
  obtain ⟨before, body, after, hbefore, _, _, rfl⟩ := hkey
  refine ⟨body ++ '"' :: (after ++ rest), ?_⟩
  simp only [List.append_assoc, List.cons_append]
  rw [skipSpace_append hbefore, skipSpace_cons (by decide)]

theorem exists_first_of_members {members : List Member}
    (hmembers : Spells (.members members) text) (rest : List Char) :
    ∃ c more, skipSpace (text ++ rest) = c :: more ∧ c ≠ '\x7d' := by
  obtain ⟨more, hspace⟩ : ∃ more, skipSpace (text ++ rest) = '"' :: more := by
    cases hmembers with
    | lastMember hkey _ =>
        rw [List.append_assoc]
        exact hkey.exists_first _
    | member hkey _ _ =>
        rw [List.append_assoc, List.append_assoc]
        exact hkey.exists_first _
  exact ⟨'"', more, hspace, by decide⟩

/-- What skipping makes of each part of a text. -/
def Skips : Phrase → List Char → Prop
  | .value _ => SkipsValue
  | .padded _ => SkipsPadded
  | .items _ => Bracket.square.SkipsItems
  | .members _ => Bracket.curly.SkipsItems

theorem Spells.skips {phrase : Phrase} (hspells : Spells phrase text) : Skips phrase text := by
  induction hspells with
  | null => exact isScalar_null.skipsValue
  | true => exact isScalar_true.skipsValue
  | false => exact isScalar_false.skipsValue
  | number hnumber => exact hnumber.isScalar.skipsValue
  | string hbody => exact hbody.isScalar.skipsValue
  | emptyArray hblanks => exact Bracket.square.skipsValue_empty hblanks
  | array hitems ih => exact Bracket.SkipsItems.skipsValue ih (exists_first_of_items hitems)
  | emptyObject hblanks => exact Bracket.curly.skipsValue_empty hblanks
  | object hmembers ih =>
      exact Bracket.SkipsItems.skipsValue ih (exists_first_of_members hmembers)
  | padded hbefore hvalue hafter ih =>
      intro opened rest hends
      refine ⟨_, hafter, ?_⟩
      rw [List.append_assoc]
      exact ih opened _ _ hbefore (hends.append_left hafter)
  | lastItem hitem ih =>
      have hlead : Bracket.square.Leads [] := rfl
      exact hlead.skipsItems_last ih
  | item hitem hitems ih ih' =>
      have hlead : Bracket.square.Leads [] := rfl
      exact hlead.skipsItems_cons ih ih'
  | lastMember hkey hvalue ih =>
      have hlead : Bracket.curly.Leads (_ ++ [':']) := ⟨_, _, hkey, rfl⟩
      simpa [Skips] using hlead.skipsItems_last ih
  | member hkey hvalue hmembers ih ih' =>
      have hlead : Bracket.curly.Leads (_ ++ [':']) := ⟨_, _, hkey, rfl⟩
      simpa [Skips] using hlead.skipsItems_cons ih ih'

theorem skipValue_append (hblanks : AllSpace blanks) (hvalue : Spells (.value document) text)
    (hends : EndsNumber rest) : skipValue (blanks ++ text ++ rest) = .ok rest := by
  rw [skipValue, hvalue.skips [] blanks rest hblanks hends, skipAwaited]

end DispatchAudit.Json
