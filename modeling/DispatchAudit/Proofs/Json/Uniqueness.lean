import DispatchAudit.Proofs.Json.Skipping

/-!
# A text says one thing

A text spells at most one document. Where a part of a text ends is where skipping it ends, so it
does not depend on how the part is spelled, and the first character of a value tells its kind.
What a part says then follows by induction on how it is spelled.
-/

namespace DispatchAudit.Json

variable {text text' rest rest' body body' : List Char} {written written' : List Nat}
  {document document' : Document} {c : Char}

/-! ### Strings and keys -/

theorem StringBody.end_unique (hbody : StringBody body written)
    (hbody' : StringBody body' written') (heq : body ++ '"' :: rest = body' ++ '"' :: rest') :
    body = body' ∧ rest = rest' := by
  have hskip := hbody.skipString rest
  rw [heq, hbody'.skipString] at hskip
  obtain rfl : rest' = rest := Except.ok.inj hskip
  exact ⟨List.append_cancel_right heq, rfl⟩

theorem HexUnit.unique {digits digits' : List Char} {unit unit' : Nat}
    (hunit : HexUnit digits unit) (hunit' : HexUnit digits' unit')
    (heq : digits ++ rest = digits' ++ rest') : unit = unit' ∧ rest = rest' := by
  have hread := hunit.readHex rest
  rw [heq, hunit'.readHex] at hread
  cases hread
  exact ⟨rfl, rfl⟩

theorem shortEscapes_unique {letter d : Char} (hescape : (letter, c) ∈ shortEscapes)
    (hescape' : (letter, d) ∈ shortEscapes) : c = d := by
  have hread := shortEscape?_eq_some_iff.mpr hescape
  rw [shortEscape?_eq_some_iff.mpr hescape'] at hread
  exact (Option.some.inj hread).symm

theorem StringBody.unique (hbody : StringBody body written) (hbody' : StringBody body written') :
    written = written' := by
  induction hbody generalizing written' with
  | nil =>
      generalize hnone : [] = none at hbody'
      cases hbody' with
      | nil => rfl
      | plain | short | unit => cases hnone
  | @plain c rest _ _ _ hbackslash _ ih =>
      generalize hall : c :: rest = all at hbody'
      cases hbody' with
      | nil => cases hall
      | plain _ _ _ hrest' =>
          cases hall
          rw [ih hrest']
      | short => exact absurd (List.cons.inj hall).1 hbackslash
      | unit => exact absurd (List.cons.inj hall).1 hbackslash
  | @short letter c rest _ hescape _ ih =>
      generalize hall : '\\' :: letter :: rest = all at hbody'
      cases hbody' with
      | nil => cases hall
      | plain _ _ hbackslash' _ => exact absurd (List.cons.inj hall).1.symm hbackslash'
      | short hescape' hrest' =>
          cases hall
          rw [shortEscapes_unique hescape hescape', ih hrest']
      | unit =>
          simp only [List.cons_append, List.cons.injEq, true_and] at hall
          exact absurd hall.1 (ne_u_of_mem_shortEscapes hescape)
  | @unit digits rest _ _ hunit _ ih =>
      generalize hall : '\\' :: 'u' :: digits ++ rest = all at hbody'
      cases hbody' with
      | nil => cases hall
      | plain _ _ hbackslash' _ => exact absurd (List.cons.inj hall).1.symm hbackslash'
      | short hescape' _ =>
          simp only [List.cons_append, List.cons.injEq, true_and] at hall
          exact absurd hall.1.symm (ne_u_of_mem_shortEscapes hescape')
      | unit hunit' hrest' =>
          simp only [List.cons_append, List.cons.injEq, true_and] at hall
          obtain ⟨rfl, rfl⟩ := hunit.unique hunit' hall
          rw [ih hrest']

theorem SpellsKey.unique {key key' : List Nat} (hkey : SpellsKey key text)
    (hkey' : SpellsKey key' text') (heq : text ++ ':' :: rest = text' ++ ':' :: rest') :
    key = key' ∧ rest = rest' := by
  obtain ⟨before, body, after, hbefore, hbody, hafter, rfl⟩ := hkey
  obtain ⟨before', body', after', hbefore', hbody', hafter', rfl⟩ := hkey'
  have hspace := congrArg skipSpace heq
  simp only [List.append_assoc, List.cons_append] at hspace
  rw [skipSpace_append hbefore, skipSpace_append hbefore', skipSpace_cons (by decide),
    skipSpace_cons (by decide)] at hspace
  obtain ⟨rfl, hbehind⟩ := hbody.end_unique hbody' (List.cons.inj hspace).2
  have hcolon := skipColon_append hafter rest
  rw [hbehind, skipColon_append hafter'] at hcolon
  exact ⟨hbody.unique hbody', (Except.ok.inj hcolon).symm⟩

/-! ### Where a value ends -/

theorem value_end_unique (hvalue : Spells (.value document) text)
    (hvalue' : Spells (.value document') text') (hends : EndsNumber rest)
    (hends' : EndsNumber rest') (heq : text ++ rest = text' ++ rest') :
    text = text' ∧ rest = rest' := by
  have hskip := skipValue_append .nil hvalue hends
  rw [List.nil_append, heq, ← List.nil_append text', skipValue_append .nil hvalue' hends'] at hskip
  obtain rfl : rest' = rest := Except.ok.inj hskip
  exact ⟨List.append_cancel_right heq, rfl⟩

/-- Whether nothing but a comma can come next. -/
def EndsItem (text : List Char) : Prop := ∀ c ∈ text.head?, c = ','

theorem EndsItem.endsNumber (hends : EndsItem text) : EndsNumber text := by
  intro c hc
  obtain rfl := hends c hc
  decide

theorem EndsItem.skipSpace (hends : EndsItem text) : skipSpace text = text := by
  cases text with
  | nil => rfl
  | cons c rest =>
      obtain rfl := hends c rfl
      exact skipSpace_cons (by decide) rest

theorem padded_end_unique {before before' raw raw' after after' : List Char}
    (hbefore : AllSpace before) (hvalue : Spells (.value document) raw) (hafter : AllSpace after)
    (hbefore' : AllSpace before') (hvalue' : Spells (.value document') raw')
    (hafter' : AllSpace after') (hends : EndsItem rest) (hends' : EndsItem rest')
    (heq : before ++ raw ++ after ++ rest = before' ++ raw' ++ after' ++ rest') :
    raw = raw' ∧ rest = rest' := by
  have hspace := congrArg skipSpace heq
  simp only [List.append_assoc] at hspace
  obtain ⟨c, more, rfl, hc, _⟩ := exists_head_of_value hvalue
  obtain ⟨c', more', rfl, hc', _⟩ := exists_head_of_value hvalue'
  rw [skipSpace_append hbefore, skipSpace_append hbefore', List.cons_append, List.cons_append,
    skipSpace_cons hc, skipSpace_cons hc'] at hspace
  obtain ⟨hraw, hbehind⟩ := value_end_unique hvalue hvalue' (hends.endsNumber.append_left hafter)
    (hends'.endsNumber.append_left hafter') hspace
  have hrest := congrArg skipSpace hbehind
  rw [skipSpace_append hafter, skipSpace_append hafter', hends.skipSpace, hends'.skipSpace] at hrest
  exact ⟨hraw, hrest⟩

/-! ### What a value says -/

/-- Whether values of the kind begin with the character. -/
def Document.startsWith : Document → Char → Bool
  | .null, c => c == 'n'
  | .boolean true, c => c == 't'
  | .boolean false, c => c == 'f'
  | .number _, c => c == '-' || c.isDigit
  | .string _, c => c == '"'
  | .array _, c => c == '['
  | .object _, c => c == '\x7b'

theorem IsNumber.exists_head (hnumber : IsNumber text) :
    ∃ c more, text = c :: more ∧ (c == '-' || c.isDigit) = true := by
  obtain ⟨sign, whole, fraction, exponent, hsign, hwhole, _, _, rfl⟩ := hnumber
  rcases hsign with rfl | rfl
  · obtain ⟨c, more, rfl, hc, _⟩ := hwhole.exists_cons
    exact ⟨c, more ++ fraction ++ exponent, rfl, by simp [hc]⟩
  · exact ⟨'-', whole ++ fraction ++ exponent, rfl, rfl⟩

theorem startsWith_of_spells (hvalue : Spells (.value document) (c :: rest)) :
    document.startsWith c = true := by
  generalize htext : c :: rest = text at hvalue
  cases hvalue with
  | null | true | false | string | emptyArray | array | emptyObject | object =>
      rw [(List.cons.inj htext).1]
      rfl
  | number hnumber =>
      obtain ⟨d, more, rfl, hd⟩ := hnumber.exists_head
      rwa [(List.cons.inj htext).1]

theorem exists_number_of_startsWith (hc : (c == '-' || c.isDigit) = true)
    (hstarts : document.startsWith c = true) : ∃ text, document = .number text := by
  have hother : ∀ d : Char, (d == '-' || d.isDigit) = false → ¬ (c == d) = true := by
    intro d hd hsame
    rw [eq_of_beq hsame, hd] at hc
    cases hc
  cases document with
  | number text => exact ⟨text, rfl⟩
  | boolean value =>
      cases value with
      | true => exact absurd hstarts (hother 't' (by decide))
      | false => exact absurd hstarts (hother 'f' (by decide))
  | null => exact absurd hstarts (hother 'n' (by decide))
  | string => exact absurd hstarts (hother '"' (by decide))
  | array => exact absurd hstarts (hother '[' (by decide))
  | object => exact absurd hstarts (hother '\x7b' (by decide))

theorem not_allSpace_of_items {items : List Document} (hitems : Spells (.items items) text) :
    ¬ AllSpace text := by
  intro hblanks
  obtain ⟨c, more, hspace, _⟩ := exists_first_of_items hitems []
  rw [List.append_nil, skipSpace_of_allSpace hblanks] at hspace
  cases hspace

theorem not_allSpace_of_members {members : List Member}
    (hmembers : Spells (.members members) text) : ¬ AllSpace text := by
  intro hblanks
  obtain ⟨c, more, hspace, _⟩ := exists_first_of_members hmembers []
  rw [List.append_nil, skipSpace_of_allSpace hblanks] at hspace
  cases hspace

/-- What each part of a text says, it says alone. -/
def SaysOnly : Phrase → List Char → Prop
  | .value document, text => ∀ document', Spells (.value document') text → document' = document
  | .padded document, text => ∀ document' text' rest rest', Spells (.padded document') text' →
      EndsItem rest → EndsItem rest' → text ++ rest = text' ++ rest' →
        document' = document ∧ rest' = rest
  | .items items, text => ∀ items', Spells (.items items') text → items' = items
  | .members members, text => ∀ members', Spells (.members members') text → members' = members

theorem endsItem_nil : EndsItem [] := by
  intro c hc
  cases hc

theorem endsItem_comma (rest : List Char) : EndsItem (',' :: rest) := by
  intro c hc
  cases hc
  rfl

theorem inner_unique {opening closing : Char} {inner inner' : List Char}
    (heq : opening :: inner ++ [closing] = opening :: inner' ++ [closing]) : inner = inner' :=
  List.append_cancel_right (List.cons.inj heq).2

theorem saysOnly_number (hnumber : IsNumber text) : SaysOnly (.value (.number text)) text := by
  intro document' hother
  obtain ⟨c, more, rfl, hc⟩ := hnumber.exists_head
  obtain ⟨text, rfl⟩ := exists_number_of_startsWith hc (startsWith_of_spells hother)
  cases hother with
  | number => rfl

theorem saysOnly_string (hbody : StringBody body written) :
    SaysOnly (.value (.string written)) ('"' :: body ++ ['"']) := by
  intro document' hother
  have hstarts := startsWith_of_spells hother
  cases document' with
  | string written =>
      obtain ⟨body', hbody', heq⟩ := exists_body_of_spells_string hother
      obtain rfl := inner_unique heq
      rw [hbody.unique hbody']
  | boolean value => cases value <;> cases hstarts
  | _ => cases hstarts

theorem saysOnly_array {items : List Document}
    (hinner : IsInner .items true items text)
    (honly : SaysOnly (.items items) text) :
    SaysOnly (.value (.array items)) ('[' :: text ++ [']']) := by
  intro document' hother
  have hstarts := startsWith_of_spells hother
  cases document' with
  | array items' =>
      obtain ⟨inner, hinner', heq⟩ := spells_array_iff.mp hother
      obtain rfl := inner_unique heq
      rcases hinner' with ⟨rfl, hblanks⟩ | hitems'
      · rcases hinner with ⟨rfl, _⟩ | hitems
        · rfl
        · exact absurd hblanks (not_allSpace_of_items hitems)
      · rw [honly items' hitems']
  | boolean value => cases value <;> cases hstarts
  | _ => cases hstarts

theorem saysOnly_object {members : List Member}
    (hinner : IsInner .members true members text)
    (honly : SaysOnly (.members members) text) :
    SaysOnly (.value (.object members)) ('\x7b' :: text ++ ['\x7d']) := by
  intro document' hother
  have hstarts := startsWith_of_spells hother
  cases document' with
  | object members' =>
      obtain ⟨inner, hinner', heq⟩ := spells_object_iff.mp hother
      obtain rfl := inner_unique heq
      rcases hinner' with ⟨rfl, hblanks⟩ | hmembers'
      · rcases hinner with ⟨rfl, _⟩ | hmembers
        · rfl
        · exact absurd hblanks (not_allSpace_of_members hmembers)
      · rw [honly members' hmembers']
  | boolean value => cases value <;> cases hstarts
  | _ => cases hstarts

theorem saysOnly_lastItem {item : Document} (honly : SaysOnly (.padded item) text) :
    SaysOnly (.items [item]) text := by
  intro items' hother
  cases hother with
  | lastItem hitem' => rw [(honly _ _ [] [] hitem' endsItem_nil endsItem_nil rfl).1]
  | @item item' _ text' rest hitem' _ =>
      have hnone := (honly _ _ [] _ hitem' endsItem_nil (endsItem_comma rest)
        (List.append_nil _)).2
      cases hnone

theorem saysOnly_item {item : Document} {items : List Document}
    (honly : SaysOnly (.padded item) text) (hrest : SaysOnly (.items items) rest) :
    SaysOnly (.items (item :: items)) (text ++ ',' :: rest) := by
  intro items' hother
  generalize hwhole : text ++ ',' :: rest = whole at hother
  cases hother with
  | lastItem hitem' =>
      have hnone := (honly _ _ _ [] hitem' (endsItem_comma rest) endsItem_nil
        (hwhole.trans (List.append_nil _).symm)).2
      cases hnone
  | item hitem' hitems' =>
      obtain ⟨rfl, hsame⟩ := honly _ _ _ _ hitem' (endsItem_comma rest) (endsItem_comma _) hwhole
      cases hsame
      rw [hrest _ hitems']

theorem saysOnly_lastMember {key : List Nat} {value : Document} (hkey : SpellsKey key text)
    (honly : SaysOnly (.padded value) rest) :
    SaysOnly (.members [(key, value)]) (text ++ ':' :: rest) := by
  intro members' hother
  generalize hwhole : text ++ ':' :: rest = whole at hother
  cases hother with
  | lastMember hkey' hvalue' =>
      obtain ⟨rfl, rfl⟩ := hkey.unique hkey' hwhole
      rw [(honly _ _ [] [] hvalue' endsItem_nil endsItem_nil rfl).1]
  | member hkey' hvalue' _ =>
      rw [List.append_assoc, List.cons_append] at hwhole
      have hnone := (honly _ _ [] _ hvalue' endsItem_nil (endsItem_comma _)
        ((List.append_nil _).trans (hkey.unique hkey' hwhole).2)).2
      cases hnone

theorem saysOnly_member {key : List Nat} {value : Document} {members : List Member}
    {more : List Char} (hkey : SpellsKey key text) (honly : SaysOnly (.padded value) rest)
    (hmore : SaysOnly (.members members) more) :
    SaysOnly (.members ((key, value) :: members)) (text ++ ':' :: rest ++ ',' :: more) := by
  intro members' hother
  generalize hwhole : text ++ ':' :: rest ++ ',' :: more = whole at hother
  rw [List.append_assoc, List.cons_append] at hwhole
  cases hother with
  | lastMember hkey' hvalue' =>
      have hnone := (honly _ _ _ [] hvalue' (endsItem_comma more) endsItem_nil
        ((hkey.unique hkey' hwhole).2.trans (List.append_nil _).symm)).2
      cases hnone
  | member hkey' hvalue' hmembers' =>
      rw [List.append_assoc, List.cons_append] at hwhole
      obtain ⟨rfl, htext⟩ := hkey.unique hkey' hwhole
      obtain ⟨rfl, hsame⟩ := honly _ _ _ _ hvalue' (endsItem_comma more) (endsItem_comma _) htext
      cases hsame
      rw [hmore _ hmembers']

theorem Spells.saysOnly {phrase : Phrase} (hspells : Spells phrase text) :
    SaysOnly phrase text := by
  -- the induction is on one way of spelling; the other one is taken apart in each case
  induction hspells with
  | null =>
      intro document' hother
      have hstarts := startsWith_of_spells hother
      cases document' with
      | null => rfl
      | boolean value => cases value <;> cases hstarts
      | _ => cases hstarts
  | true | false =>
      intro document' hother
      have hstarts := startsWith_of_spells hother
      cases document' with
      | boolean value =>
          cases value <;> first
            | rfl
            | cases hstarts
      | _ => cases hstarts
  | number hnumber => exact saysOnly_number hnumber
  | string hbody => exact saysOnly_string hbody
  | emptyArray hblanks =>
      exact saysOnly_array (.inl ⟨rfl, hblanks⟩) fun _ hitems =>
        absurd hblanks (not_allSpace_of_items hitems)
  | array hitems ih => exact saysOnly_array (.inr hitems) ih
  | emptyObject hblanks =>
      exact saysOnly_object (.inl ⟨rfl, hblanks⟩) fun _ hmembers =>
        absurd hblanks (not_allSpace_of_members hmembers)
  | object hmembers ih => exact saysOnly_object (.inr hmembers) ih
  | padded hbefore hvalue hafter ih =>
      rintro document' text' rest rest' hother hends hends' heq
      cases hother with
      | padded hbefore' hvalue' hafter' =>
          obtain ⟨rfl, rfl⟩ := padded_end_unique hbefore hvalue hafter hbefore' hvalue' hafter'
            hends hends' heq
          exact ⟨ih document' hvalue', rfl⟩
  | lastItem _ ih => exact saysOnly_lastItem ih
  | item _ _ ih ih' => exact saysOnly_item ih ih'
  | lastMember hkey _ ih => exact saysOnly_lastMember hkey ih
  | member hkey _ _ ih ih' => exact saysOnly_member hkey ih ih'

/-- A whole text says one thing only. -/
theorem Spells.padded_unique {document document' : Document}
    (hspells : Spells (.padded document) text) (hspells' : Spells (.padded document') text) :
    document = document' :=
  (hspells.saysOnly _ _ [] [] hspells' endsItem_nil endsItem_nil rfl).1.symm

theorem SpellsObject.unique {members members' : List Member} (hspells : SpellsObject members text)
    (hspells' : SpellsObject members' text) : members = members' :=
  Document.object.inj (Spells.padded_unique hspells hspells')

end DispatchAudit.Json
