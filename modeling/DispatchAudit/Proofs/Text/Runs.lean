import DispatchAudit.Text.Blank
import DispatchAudit.Text.Word

/-!
# Runs of blanks and names

Lines are described by what they are put together from: runs of blanks, names, and fixed
characters. No character is both a blank and a word character, so where a run of the one kind
meets a run of the other the place is fixed, and taking the longest run finds it.
-/

namespace DispatchAudit.Text

def AllBlank (text : List Char) : Prop := ∀ c ∈ text, isBlank c = true

instance (text : List Char) : Decidable (AllBlank text) := List.decidableBAll _ text

structure IsGap (text : List Char) : Prop where
  ne_nil : text ≠ []
  blank : AllBlank text

structure IsName (text : List Char) : Prop where
  ne_nil : text ≠ []
  isWord : ∀ c ∈ text, isWord c = true

theorem isName_iff {text : List Char} : IsName text ↔ text ≠ [] ∧ text.all isWord = true := by
  rw [List.all_eq_true]
  exact ⟨fun hname => ⟨hname.1, hname.2⟩, fun hname => ⟨hname.1, hname.2⟩⟩

instance (text : List Char) : Decidable (IsName text) := decidable_of_iff _ isName_iff.symm

theorem IsName.not_mem {name : List Char} {c : Char} (hname : IsName name)
    (hc : Text.isWord c = false) : c ∉ name := by
  intro hmem
  rw [hname.isWord c hmem] at hc
  cases hc

def EndsName (text : List Char) : Prop := ∀ c ∈ text.head?, isWord c = false

/-! ### No blank is a word character -/

theorem not_inTable_of_disjoint {left right : List CodeRange}
    (hdisjoint : ∀ range ∈ left, ∀ other ∈ right,
      range.last < other.first ∨ other.last < range.first)
    {c : Char} (hleft : inTable left c = true) : inTable right c = false := by
  obtain ⟨range, hrange, hfirst, hlast⟩ := inTable_iff.mp hleft
  rw [Bool.eq_false_iff]
  intro hright
  obtain ⟨other, hother, hfirst', hlast'⟩ := inTable_iff.mp hright
  rcases hdisjoint range hrange other hother with hbefore | hafter <;> omega

theorem blankTable_disjoint_wordTable :
    ∀ blank ∈ blankTable, ∀ word ∈ wordTable,
      blank.last < word.first ∨ word.last < blank.first := by
  decide +kernel

theorem isAsciiWord_eq_false_of_lt {c : Char} (hlow : c.toNat < 0x30) :
    isAsciiWord c = false := by
  have hall : ∀ n < 0x30, isAsciiWord (Char.ofNat n) = false := by decide
  simpa using hall c.toNat hlow

theorem isBlank_ascii_bound {c : Char} (hblank : isBlank c = true) (hascii : c.toNat < 0x80) :
    c.toNat ≤ 0x20 := by
  obtain ⟨range, hrange, hfirst, hlast⟩ := inTable_iff.mp hblank
  simp only [blankTable, List.mem_cons, List.not_mem_nil, or_false] at hrange
  rcases hrange with rfl | rfl | rfl | rfl | rfl | rfl | rfl | rfl | rfl | rfl <;>
    simp only at hfirst hlast <;> omega

theorem isWord_eq_false_of_isBlank {c : Char} (hblank : isBlank c = true) : isWord c = false := by
  rw [isWord]
  split
  · next hascii =>
      have hlow := isBlank_ascii_bound hblank hascii
      exact isAsciiWord_eq_false_of_lt (by omega)
  · exact not_inTable_of_disjoint blankTable_disjoint_wordTable hblank

theorem isBlank_eq_false_of_isWord {c : Char} (hword : isWord c = true) : isBlank c = false := by
  rw [Bool.eq_false_iff]
  intro hblank
  rw [isWord_eq_false_of_isBlank hblank] at hword
  cases hword

/-! ### Blanks in front of a text -/

theorem AllBlank.nil : AllBlank [] := fun _ hmem => absurd hmem List.not_mem_nil

theorem allBlank_append {left right : List Char} :
    AllBlank (left ++ right) ↔ AllBlank left ∧ AllBlank right :=
  List.forall_mem_append

theorem AllBlank.append {left right : List Char} (hleft : AllBlank left)
    (hright : AllBlank right) : AllBlank (left ++ right) :=
  allBlank_append.mpr ⟨hleft, hright⟩

theorem allBlank_cons {c : Char} {rest : List Char} :
    AllBlank (c :: rest) ↔ isBlank c = true ∧ AllBlank rest :=
  List.forall_mem_cons

theorem AllBlank.perm {left right : List Char} (hblank : AllBlank left)
    (hperm : right.Perm left) : AllBlank right :=
  fun c hmem => hblank c (hperm.mem_iff.mp hmem)

theorem AllBlank.append_gap {blanks gap : List Char} (hblank : AllBlank blanks)
    (hgap : IsGap gap) : IsGap (blanks ++ gap) where
  ne_nil hnil := hgap.ne_nil (List.append_eq_nil_iff.mp hnil).2
  blank := hblank.append hgap.blank

theorem IsGap.cons {c : Char} {blanks : List Char} (hc : isBlank c = true)
    (hblank : AllBlank blanks) : IsGap (c :: blanks) where
  ne_nil := List.cons_ne_nil _ _
  blank := allBlank_cons.mpr ⟨hc, hblank⟩

theorem exists_blanks_append_dropBlanks (text : List Char) :
    ∃ blanks, AllBlank blanks ∧ text = blanks ++ dropBlanks text := by
  refine ⟨text.takeWhile isBlank, ?_, List.takeWhile_append_dropWhile.symm⟩
  exact List.all_eq_true.mp List.all_takeWhile

theorem dropBlanks_append {blanks : List Char} (hblank : AllBlank blanks) (rest : List Char) :
    dropBlanks (blanks ++ rest) = dropBlanks rest :=
  List.dropWhile_append_of_pos hblank

theorem dropBlanks_name_append {name : List Char} (hname : IsName name) (rest : List Char) :
    dropBlanks (name ++ rest) = name ++ rest := by
  obtain ⟨c, more, rfl⟩ := List.exists_cons_of_ne_nil hname.ne_nil
  exact dropBlanks_cons_of_not_blank
    (isBlank_eq_false_of_isWord (hname.isWord c List.mem_cons_self)) _

/-! ### A name in front of a text -/

theorem endsName_afterWord (text : List Char) : EndsName (afterWord text) := by
  intro c hhead
  obtain ⟨rest, hrest⟩ := List.head?_eq_some_iff.mp hhead
  exact isWord_head_afterWord hrest

theorem EndsName.cons {c : Char} (hc : isWord c = false) (rest : List Char) :
    EndsName (c :: rest) := by
  intro d hd
  cases hd
  exact hc

theorem EndsName.append_blank {text : List Char} {c : Char} (hends : EndsName text)
    (hc : isBlank c = true) : EndsName (text ++ [c]) := by
  cases text with
  | nil => exact .cons (isWord_eq_false_of_isBlank hc) []
  | cons d rest => exact hends

theorem EndsName.of_concat {text : List Char} {c : Char} (hends : EndsName (text.concat c)) :
    EndsName text := by
  cases text with
  | nil => exact fun _ hmem => absurd hmem (Option.not_mem_none _)
  | cons d rest => exact hends

theorem leadingWord_append {name rest : List Char} (hname : IsName name) (hrest : EndsName rest) :
    leadingWord (name ++ rest) = name := by
  rw [leadingWord, List.takeWhile_append_of_pos hname.isWord]
  cases rest with
  | nil => simp
  | cons c more => simp [hrest c rfl]

theorem afterWord_append {name rest : List Char} (hname : IsName name) (hrest : EndsName rest) :
    afterWord (name ++ rest) = rest := by
  rw [afterWord, List.dropWhile_append_of_pos hname.isWord]
  cases rest with
  | nil => rfl
  | cons c more => simp [hrest c rfl]

/-! ### Fixed characters in front of a text -/

theorem isPrefixOf?_eq_some_iff {token text rest : List Char} :
    token.isPrefixOf? text = some rest ↔ text = token ++ rest := by
  induction token generalizing text with
  | nil =>
      change some text = some rest ↔ text = rest
      exact Option.some_inj
  | cons c token ih =>
      cases text with
      | nil =>
          change none = some rest ↔ [] = c :: (token ++ rest)
          simp
      | cons d text =>
          change (if c == d then token.isPrefixOf? text else none) = some rest ↔
            d :: text = c :: (token ++ rest)
          by_cases heq : c = d
          · simp [heq, ih]
          · simp [heq, Ne.symm heq]

end DispatchAudit.Text
