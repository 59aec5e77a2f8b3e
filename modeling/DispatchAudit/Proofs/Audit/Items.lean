import DispatchAudit.Audit.Diagnosis
import DispatchAudit.Proofs.Text.Digits
import DispatchAudit.Proofs.Text.Runs
import DispatchAudit.Proofs.Text.Separated

/-!
# Items and counts in a note

A note lists items behind fixed words, or it says two counts. Both can be read back. The items of
a list are apart because none of them holds a comma, and a tally is a name up to its first blank
and a number behind it. Lists of several kinds are apart if the words of no kind begin those of
another, although a list without items leaves no note.
-/

namespace DispatchAudit

open Text

/-! ### Tallies -/

namespace Tally

variable {tally tally' : Tally}

theorem toList_text (tally : Tally) : tally.text.toList =
    tally.name.toList ++ ' ' :: ("(x".toList ++ (toString tally.count).toList ++ [')']) := by
  simp [text]

theorem text_inj (hname : IsName tally.name.toList) (hname' : IsName tally'.name.toList)
    (heq : tally.text = tally'.text) : tally = tally' := by
  obtain ⟨name, count⟩ := tally
  obtain ⟨name', count'⟩ := tally'
  have hchars := congrArg String.toList heq
  rw [toList_text, toList_text] at hchars
  obtain ⟨hsame, hbehind⟩ := append_separator_inj (hname.not_mem (by decide))
    (hname'.not_mem (by decide)) hchars
  obtain rfl : name = name' := String.toList_inj.mp hsame
  obtain rfl : count = count' :=
    toList_toString_inj (List.append_cancel_left (List.append_cancel_right hbehind))
  rfl

theorem not_mem_text {c : Char} (hname : c ∉ tally.name.toList) (hc : c.isDigit = false)
    (hfixed : c ∉ [' ', '(', 'x', ')']) : c ∉ tally.text.toList := by
  have hcount : c ∉ (toString tally.count).toList := not_mem_toString hc
  have hopening : "(x".toList = ['(', 'x'] := by decide
  rw [toList_text, hopening]
  simp only [List.mem_append, List.mem_cons, List.not_mem_nil, or_false] at hfixed ⊢
  tauto

end Tally

namespace Audit

/-! ### Items -/

/-- Whether the text can be one of several items in a line. -/
structure IsItem (item : String) : Prop where
  comma_not_mem : ',' ∉ item.toList
  feed_not_mem : '\n' ∉ item.toList

theorem isItem_of_isName {name : String} (hname : IsName name.toList) : IsItem name where
  comma_not_mem := hname.not_mem (by decide)
  feed_not_mem := hname.not_mem (by decide)

theorem isItem_text {tally : Tally} (hname : IsName tally.name.toList) : IsItem tally.text where
  comma_not_mem := Tally.not_mem_text (hname.not_mem (by decide)) (by decide) (by decide)
  feed_not_mem := Tally.not_mem_text (hname.not_mem (by decide)) (by decide) (by decide)

theorem enumerated_inj {items items' : List String} (hitems : ∀ item ∈ items, IsItem item)
    (hitems' : ∀ item ∈ items', IsItem item) (hne : items ≠ []) (hne' : items' ≠ [])
    (heq : enumerated items = enumerated items') : items = items' := by
  have hfree : ∀ all : List String, (∀ item ∈ all, IsItem item) →
      ∀ piece ∈ all.map String.toList, ',' ∉ piece := by
    intro all hall piece hpiece
    obtain ⟨item, hitem, rfl⟩ := List.mem_map.mp hpiece
    exact (hall item hitem).comma_not_mem
  have hchars := congrArg String.toList heq
  rw [enumerated, enumerated, String.toList_intercalate, String.toList_intercalate] at hchars
  have hpieces := intercalate_inj (hfree items hitems) (hfree items' hitems') (by simpa using hne)
    (by simpa using hne') hchars
  exact List.map_injective_iff.mpr (fun _ _ => String.toList_inj.mp) hpieces

theorem feed_not_mem_enumerated {items : List String} (hitems : ∀ item ∈ items, IsItem item) :
    '\n' ∉ (enumerated items).toList := by
  rw [enumerated, String.toList_intercalate]
  apply not_mem_intercalate (by decide)
  intro piece hpiece
  obtain ⟨item, hitem, rfl⟩ := List.mem_map.mp hpiece
  exact (hitems item hitem).feed_not_mem

/-! ### Sections -/

variable {words words' : String} {items items' more more' : List String} {note : String}

theorem listing_nil (words : String) : listing words [] = [] := rfl

theorem listing_of_ne_nil (hne : items ≠ []) :
    listing words items = [words ++ enumerated items] :=
  if_neg (by simpa using hne)

theorem begins_of_mem_listing (hnote : note ∈ listing words items) :
    words.toList <+: note.toList := by
  rw [listing] at hnote
  split at hnote
  · cases hnote
  · rw [List.mem_singleton.mp hnote, String.toList_append]
    exact List.prefix_append _ _

theorem feed_not_mem_of_mem_listing (hwords : '\n' ∉ words.toList)
    (hitems : ∀ item ∈ items, IsItem item) (hnote : note ∈ listing words items) :
    '\n' ∉ note.toList := by
  rw [listing] at hnote
  split at hnote
  · cases hnote
  · rw [List.mem_singleton.mp hnote, String.toList_append, List.mem_append]
    rintro (hmem | hmem)
    · exact hwords hmem
    · exact feed_not_mem_enumerated hitems hmem

theorem not_begins_of_mem_listing (hapart : Apart words.toList words'.toList)
    (hnote : note ∈ listing words' items) : ¬ words.toList <+: note.toList := by
  obtain ⟨rest, hrest⟩ := begins_of_mem_listing hnote
  rw [← hrest]
  exact hapart.not_prefix_append rest

theorem ne_listing_append (hmore : ∀ note ∈ more, ¬ words.toList <+: note.toList)
    (hne : items ≠ []) : more ≠ listing words items ++ more' := by
  rintro rfl
  have hnote : words ++ enumerated items ∈ listing words items := by
    rw [listing_of_ne_nil hne]
    exact List.mem_singleton_self _
  exact hmore _ (List.mem_append_left _ hnote) (begins_of_mem_listing hnote)

/-- A section in front of others is settled, since no note behind it can be taken for its own. -/
theorem listing_append_inj (hitems : ∀ item ∈ items, IsItem item)
    (hitems' : ∀ item ∈ items', IsItem item)
    (hmore : ∀ note ∈ more, ¬ words.toList <+: note.toList)
    (hmore' : ∀ note ∈ more', ¬ words.toList <+: note.toList)
    (heq : listing words items ++ more = listing words items' ++ more') :
    items = items' ∧ more = more' := by
  by_cases hne : items = []
  · rw [hne, listing_nil, List.nil_append] at heq
    by_cases hne' : items' = []
    · rw [hne', listing_nil, List.nil_append] at heq
      exact ⟨hne.trans hne'.symm, heq⟩
    · exact absurd heq (ne_listing_append hmore hne')
  · by_cases hne' : items' = []
    · rw [hne', listing_nil, List.nil_append] at heq
      exact absurd heq.symm (ne_listing_append hmore' hne)
    · rw [listing_of_ne_nil hne, listing_of_ne_nil hne', List.singleton_append,
        List.singleton_append, List.cons.injEq, String.append_right_inj] at heq
      exact ⟨enumerated_inj hitems hitems' hne hne' heq.1, heq.2⟩

section Telling

variable {α : Type} {kinds : List α} {wording : α → String} {told told' : α → List String}
  {kind : α}

theorem not_begins_of_mem_telling
    (hapart : ∀ other ∈ kinds, Apart (wording kind).toList (wording other).toList)
    (hmore : ∀ note ∈ more, ¬ (wording kind).toList <+: note.toList) :
    ∀ note ∈ kinds.flatMap (fun other => listing (wording other) (told other)) ++ more,
      ¬ (wording kind).toList <+: note.toList := by
  intro note hnote
  rcases List.mem_append.mp hnote with hnote | hnote
  · obtain ⟨other, hother, hnote⟩ := List.mem_flatMap.mp hnote
    exact not_begins_of_mem_listing (hapart other hother) hnote
  · exact hmore note hnote

/-- Sections of kinds whose words are apart are settled by their notes. -/
theorem telling_inj
    (hapart : kinds.Pairwise fun kind other => Apart (wording kind).toList (wording other).toList)
    (htold : ∀ kind ∈ kinds, ∀ item ∈ told kind, IsItem item)
    (htold' : ∀ kind ∈ kinds, ∀ item ∈ told' kind, IsItem item)
    (hmore : ∀ kind ∈ kinds, ∀ note ∈ more, ¬ (wording kind).toList <+: note.toList)
    (hmore' : ∀ kind ∈ kinds, ∀ note ∈ more', ¬ (wording kind).toList <+: note.toList)
    (heq : kinds.flatMap (fun kind => listing (wording kind) (told kind)) ++ more =
      kinds.flatMap (fun kind => listing (wording kind) (told' kind)) ++ more') :
    (∀ kind ∈ kinds, told kind = told' kind) ∧ more = more' := by
  induction kinds with
  | nil => exact ⟨fun _ hkind => absurd hkind List.not_mem_nil, heq⟩
  | cons kind later ih =>
      rw [List.flatMap_cons, List.flatMap_cons, List.append_assoc, List.append_assoc] at heq
      obtain ⟨hothers, hlater⟩ := List.pairwise_cons.mp hapart
      rw [List.forall_mem_cons] at htold htold' hmore hmore'
      obtain ⟨hsame, hbehind⟩ := listing_append_inj htold.1 htold'.1
        (not_begins_of_mem_telling hothers hmore.1) (not_begins_of_mem_telling hothers hmore'.1) heq
      obtain ⟨hall, hmore⟩ := ih hlater htold.2 htold'.2 hmore.2 hmore'.2 hbehind
      exact ⟨List.forall_mem_cons.mpr ⟨hsame, hall⟩, hmore⟩

end Telling

/-! ### Counts -/

theorem toList_counted_append (n : Nat) (one many : String) (rest : List Char) :
    (counted n one many).toList ++ rest =
      (toString n).toList ++ ' ' :: ((plural n one many).toList ++ rest) := by
  simp [counted]

theorem counted_append_inj {m n : Nat} {one many : String} {rest rest' : List Char}
    (heq : (counted m one many).toList ++ rest = (counted n one many).toList ++ rest') :
    m = n ∧ rest = rest' := by
  rw [toList_counted_append, toList_counted_append] at heq
  obtain ⟨hcount, hbehind⟩ := append_separator_inj (not_mem_toString (by decide))
    (not_mem_toString (by decide)) heq
  obtain rfl := toList_toString_inj hcount
  exact ⟨rfl, List.append_cancel_left hbehind⟩

theorem feed_not_mem_counted {n : Nat} {one many : String} (hone : '\n' ∉ one.toList)
    (hmany : '\n' ∉ many.toList) : '\n' ∉ (counted n one many).toList := by
  have hdigits : '\n' ∉ (toString n).toList := not_mem_toString (by decide)
  have hword : '\n' ∉ (plural n one many).toList := by
    rw [plural]
    split
    · exact hone
    · exact hmany
  rw [counted, String.toList_append, String.toList_append, List.mem_append, List.mem_append]
  rintro ((hmem | hmem) | hmem)
  · exact hdigits hmem
  · exact absurd hmem (by decide)
  · exact hword hmem

/-- A text that begins with a count begins with a digit. -/
theorem not_begins_counted {n : Nat} {one many : String} {beginning : List Char}
    (hfirst : beginning.head?.any (fun c => !c.isDigit) = true) (rest : List Char) :
    ¬ beginning <+: (counted n one many).toList ++ rest := by
  rintro ⟨more, heq⟩
  obtain ⟨d, digits, hdigits⟩ := List.exists_cons_of_ne_nil (toList_toString_ne_nil n)
  rw [toList_counted_append, hdigits] at heq
  cases beginning with
  | nil => cases hfirst
  | cons c behind =>
      obtain rfl : c = d := (List.cons.inj heq).1
      apply not_mem_toString (n := n) (c := c) (by simpa using hfirst)
      rw [hdigits]
      exact List.mem_cons_self

end Audit

end DispatchAudit
