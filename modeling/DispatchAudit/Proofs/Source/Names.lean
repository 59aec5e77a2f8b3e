import DispatchAudit.Source.Declaration
import DispatchAudit.Proofs.Text.Runs
import Mathlib.Data.List.Induction

/-!
# Names found line by line

Every extraction reads a source line by line and takes at most one name from a line. What it
finds is described without the reading: a relation says which position gives which name, and
`InLineOrder` says that a list of names is all of these in the order of their positions. There
is never more than one such list.
-/

namespace DispatchAudit.Source

open Text

/-! ### The name in front of a text -/

theorem name?_append {name : String} {rest : List Char} (hname : IsName name.toList)
    (hrest : EndsName rest) : name? (name.toList ++ rest) = some name := by
  have hword : leadingWord (name.toList ++ rest) = name.toList := leadingWord_append hname hrest
  have hne : ¬ name.toList.isEmpty = true := fun hempty =>
    hname.ne_nil (List.isEmpty_iff.mp hempty)
  rw [name?, hword, if_neg hne, String.ofList_toList]

theorem isName_of_name?_eq_some {text : List Char} {name : String}
    (hread : name? text = some name) :
    IsName name.toList ∧ text = name.toList ++ afterWord text := by
  rw [name?] at hread
  split at hread
  · cases hread
  · next hempty =>
      cases hread
      rw [String.toList_ofList]
      have hne : leadingWord text ≠ [] := fun hnil => hempty (List.isEmpty_iff.mpr hnil)
      exact ⟨⟨hne, fun c hmem => isWord_of_mem_leadingWord hmem⟩,
        (leadingWord_append_afterWord text).symm⟩

/-! ### Names in the order of their lines -/

/-- Whether the names are all that some position gives, in the order of the positions. -/
def InLineOrder (gives : Nat → String → Prop) (names : List String) : Prop :=
  ∃ found : List (Nat × String),
    found.Pairwise (fun earlier later => earlier.1 < later.1) ∧
      (∀ position name, (position, name) ∈ found ↔ gives position name) ∧
      names = found.map Prod.snd

namespace InLineOrder

variable {gives extended : Nat → String → Prop} {names others : List String}

private theorem nodup_of_increasing {found : List (Nat × String)}
    (hincreasing : found.Pairwise fun earlier later => earlier.1 < later.1) : found.Nodup := by
  apply hincreasing.imp
  intro earlier later hlt heq
  rw [heq] at hlt
  exact Nat.lt_irrefl _ hlt

theorem unique (hnames : InLineOrder gives names) (hothers : InLineOrder gives others) :
    names = others := by
  obtain ⟨found, hincreasing, hmem, rfl⟩ := hnames
  obtain ⟨found', hincreasing', hmem', rfl⟩ := hothers
  have hperm : found.Perm found' :=
    (List.perm_ext_iff_of_nodup (nodup_of_increasing hincreasing)
      (nodup_of_increasing hincreasing')).mpr
        fun pick => (hmem pick.1 pick.2).trans (hmem' pick.1 pick.2).symm
  have hsame : found = found' :=
    hperm.eq_of_pairwise (fun _ _ _ _ hlt hgt => absurd hgt (Nat.lt_asymm hlt)) hincreasing
      hincreasing'
  rw [hsame]

theorem iff_eq (hnames : InLineOrder gives names) : InLineOrder gives others ↔ others = names := by
  constructor
  · intro hothers
    exact hothers.unique hnames
  · intro hothers
    rwa [hothers]

theorem mem_iff {name : String} (hnames : InLineOrder gives names) :
    name ∈ names ↔ ∃ position, gives position name := by
  obtain ⟨found, _, hmem, rfl⟩ := hnames
  simp [← hmem]

theorem congr (hnames : InLineOrder gives names)
    (hgives : ∀ position name, extended position name ↔ gives position name) :
    InLineOrder extended names := by
  obtain ⟨found, hincreasing, hmem, rfl⟩ := hnames
  exact ⟨found, hincreasing, fun position name =>
    (hmem position name).trans (hgives position name).symm, rfl⟩

theorem nil (hgives : ∀ position name, ¬ gives position name) : InLineOrder gives [] :=
  ⟨[], List.Pairwise.nil, fun position name => by simp [hgives position name], rfl⟩

/-- One more name, from a line behind all lines that gave one before. -/
theorem append_one {next : Nat} {last : String} (hnames : InLineOrder gives names)
    (hbound : ∀ position name, gives position name → position < next)
    (hgives : ∀ position name,
      extended position name ↔ gives position name ∨ position = next ∧ name = last) :
    InLineOrder extended (names ++ [last]) := by
  obtain ⟨found, hincreasing, hmem, rfl⟩ := hnames
  refine ⟨found ++ [(next, last)], ?_, ?_, by simp⟩
  · apply List.pairwise_append.mpr
    refine ⟨hincreasing, List.pairwise_singleton _ _, ?_⟩
    intro pick hpick final hfinal
    rw [List.mem_singleton.mp hfinal]
    exact hbound pick.1 pick.2 ((hmem _ _).mp hpick)
  · intro position name
    rw [hgives, List.mem_append, hmem, List.mem_singleton, Prod.mk.injEq]

end InLineOrder

/-- Whether the line at the position has the shape that the name goes with. -/
def AtLine (shape : List Char → String → Prop) (textLines : List (List Char)) (position : Nat)
    (name : String) : Prop :=
  ∃ line, textLines[position]? = some line ∧ shape line name

theorem AtLine.lt_length {shape : List Char → String → Prop} {textLines : List (List Char)}
    {position : Nat} {name : String} (hgives : AtLine shape textLines position name) :
    position < textLines.length := by
  obtain ⟨line, hline, _⟩ := hgives
  exact (List.getElem?_eq_some_iff.mp hline).1

theorem getElem?_append_singleton_eq_some_iff {textLines : List (List Char)}
    {line found : List Char} {position : Nat} :
    (textLines ++ [line])[position]? = some found ↔
      textLines[position]? = some found ∨ position = textLines.length ∧ found = line := by
  rcases Nat.lt_trichotomy position textLines.length with hlt | heq | hgt
  · rw [List.getElem?_append_left hlt]
    simp [Nat.ne_of_lt hlt]
  · subst heq
    simp [eq_comm]
  · have hbeyond : (textLines ++ [line]).length ≤ position := by
      rw [List.length_append]
      exact hgt
    rw [List.getElem?_eq_none hbeyond, List.getElem?_eq_none (Nat.le_of_lt hgt)]
    simp [Nat.ne_of_gt hgt]

theorem atLine_append_singleton_iff {shape : List Char → String → Prop}
    {textLines : List (List Char)} {line : List Char} {position : Nat} {name : String} :
    AtLine shape (textLines ++ [line]) position name ↔
      AtLine shape textLines position name ∨
        position = textLines.length ∧ shape line name := by
  simp only [AtLine, getElem?_append_singleton_eq_some_iff]
  constructor
  · intro hgives
    obtain ⟨found, hfound | ⟨hposition, rfl⟩, hshape⟩ := hgives
    · exact .inl ⟨found, hfound, hshape⟩
    · exact .inr ⟨hposition, hshape⟩
  · intro hgives
    rcases hgives with ⟨found, hfound, hshape⟩ | ⟨hposition, hshape⟩
    · exact ⟨found, .inl hfound, hshape⟩
    · exact ⟨line, .inr ⟨hposition, rfl⟩, hshape⟩

/-- A reader that takes the name of exactly the lines of a shape finds their names in line
order. -/
theorem inLineOrder_filterMap {shape : List Char → String → Prop}
    {read : List Char → Option String}
    (hread : ∀ line name, read line = some name ↔ shape line name)
    (textLines : List (List Char)) :
    InLineOrder (AtLine shape textLines) (textLines.filterMap read) := by
  induction textLines using List.reverseRecOn with
  | nil =>
      apply InLineOrder.nil
      intro position name hgives
      exact Nat.not_lt_zero _ hgives.lt_length
  | append_singleton before line ih =>
      rw [List.filterMap_append]
      cases hline : read line with
      | none =>
          simp only [List.filterMap_cons, hline, List.filterMap_nil, List.append_nil]
          apply ih.congr
          intro position name
          rw [atLine_append_singleton_iff, ← hread line, hline]
          simp
      | some last =>
          simp only [List.filterMap_cons, hline, List.filterMap_nil]
          apply ih.append_one fun _ _ hgives => hgives.lt_length
          intro position name
          rw [atLine_append_singleton_iff, ← hread line, hline, Option.some.injEq, eq_comm (a := last)]

end DispatchAudit.Source
