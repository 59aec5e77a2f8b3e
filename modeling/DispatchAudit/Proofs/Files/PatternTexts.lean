import DispatchAudit.Proofs.Files.Matching
import DispatchAudit.Proofs.Steps

/-!
# What a pattern text says

Each character of a pattern text that is not special stands for itself, so a component of such
characters only is the name that it spells. The components of a pattern are read from what stands
between the slashes of its text. If none of these is empty or begins with a dot, then the pattern
is relative, its literal components are names of entries, and no wild component reaches the
directory at hand or its parent.
-/

namespace DispatchAudit.Files

open FilePath

variable {text name : List Char} {item : PatternItem} {items : List PatternItem} {c : Char}
  {index : Nat} {before : Option Char} {pattern : Pattern}

/-! ### Items -/

theorem literal?_of_classAfter? {rest after : List Char}
    (hclass : classAfter? rest = some (item, after)) : item.literal? = none := by
  revert hclass
  fun_cases classAfter? rest <;> intro hclass <;> cases hclass <;> rfl

/-- The first item is the first character if it stands for itself. -/
theorem itemsFrom_cases (hitems : itemsFrom index before text = .ok items) :
    (text = [] ∧ items = []) ∨
    (∃ c rest more, text = c :: rest ∧ items = .exactly c :: more ∧
      itemsFrom (index + 1) (some c) rest = .ok more) ∨
    ∃ item more, items = item :: more ∧ item.literal? = none := by
  revert hitems
  fun_cases itemsFrom index before text <;> intro hitems
  case case1 => exact .inl ⟨rfl, (Except.ok.inj hitems).symm⟩
  case case2 | case5 | case6 =>
    obtain ⟨more, _, rfl⟩ := map_eq_ok_iff.mp hitems
    exact .inr (.inr ⟨_, more, rfl, rfl⟩)
  case case3 | case4 | case7 => cases hitems
  case case8 item after hclass _ =>
    obtain ⟨more, _, rfl⟩ := map_eq_ok_iff.mp hitems
    exact .inr (.inr ⟨item, more, rfl, literal?_of_classAfter? hclass⟩)
  case case9 c rest _ _ _ _ _ =>
    obtain ⟨more, hmore, rfl⟩ := map_eq_ok_iff.mp hitems
    exact .inr (.inl ⟨c, rest, more, rfl, rfl, hmore⟩)

theorem eq_nil_of_itemsFrom (hitems : itemsFrom index before text = .ok []) : text = [] := by
  rcases itemsFrom_cases hitems with ⟨hnil, _⟩ | ⟨_, _, _, _, hcons, _⟩ | ⟨_, _, hcons, _⟩
  · exact hnil
  · cases hcons
  · cases hcons

theorem itemsFrom_exactly (hitems : itemsFrom index before text = .ok (item :: items))
    (hliteral : item.literal? = some c) :
    ∃ rest, text = c :: rest ∧ itemsFrom (index + 1) (some c) rest = .ok items := by
  rcases itemsFrom_cases hitems with ⟨_, hnil⟩ | ⟨_, rest, _, rfl, hcons, hrest⟩ |
    ⟨_, _, hcons, hnone⟩
  · cases hnil
  · obtain ⟨rfl, rfl⟩ := List.cons.inj hcons
    obtain rfl := Option.some.inj hliteral
    exact ⟨rest, rfl, hrest⟩
  · obtain ⟨rfl, rfl⟩ := List.cons.inj hcons
    rw [hnone] at hliteral
    cases hliteral

/-- Items that all stand for themselves spell the text that they were read from. -/
theorem eq_of_mapM_literal? (hitems : itemsFrom index before text = .ok items)
    (hname : items.mapM PatternItem.literal? = some name) : name = text := by
  induction items generalizing index before text name with
  | nil =>
      rw [eq_nil_of_itemsFrom hitems]
      exact (Option.some.inj hname).symm
  | cons item items ih =>
      rw [List.mapM_cons] at hname
      obtain ⟨c, hliteral, hname⟩ := Option.bind_eq_some_iff.mp hname
      obtain ⟨more, hmore, hname⟩ := Option.bind_eq_some_iff.mp hname
      obtain ⟨rest, rfl, hrest⟩ := itemsFrom_exactly hitems hliteral
      rw [← ih hrest hmore]
      exact (Option.some.inj hname).symm

/-- Whether a component reaches entries of the directory at hand only. -/
def PatternComponent.IsPlain : PatternComponent → Prop
  | literal name => IsEntryName name
  | component => component.beginsWithDot = false

theorem isEntryName_of_piece (hne : text ≠ []) (hdot : text.head? ≠ some '.')
    (hslash : '/' ∉ text) : FilePath.IsEntryName (String.ofList text) := by
  have hstart : ∀ rest, text ≠ '.' :: rest := by
    rintro rest rfl
    exact hdot rfl
  constructor <;> rw [String.toList_ofList]
  · simp [isIdle, hne, hstart]
  · exact hstart _
  · exact hslash

theorem isPlain_ofItems (hne : text ≠ []) (hdot : text.head? ≠ some '.') (hslash : '/' ∉ text)
    (hitems : itemsOf text = .ok items) : (PatternComponent.ofItems items).IsPlain := by
  rw [PatternComponent.ofItems]
  split
  · exact rfl
  · split
    · next name hname =>
        rw [eq_of_mapM_literal? hitems hname]
        exact isEntryName_of_piece hne hdot hslash
    · change (items.head? == some (.exactly '.')) = false
      rw [beq_eq_false_iff_ne]
      intro hhead
      obtain ⟨more, rfl⟩ := List.head?_eq_some_iff.mp hhead
      obtain ⟨rest, rfl, _⟩ := itemsFrom_exactly hitems rfl
      exact hdot rfl

namespace Pattern

/-- Whether no component of a pattern text is empty or begins with a dot. -/
def IsPlainText (text : List Char) : Prop :=
  ∀ piece ∈ componentTexts text, piece ≠ [] ∧ piece.head? ≠ some '.'

instance (text : List Char) : Decidable (IsPlainText text) :=
  inferInstanceAs (Decidable (∀ piece ∈ componentTexts text, piece ≠ [] ∧ piece.head? ≠ some '.'))

theorem componentTexts_subset (text : List Char) : componentTexts text ⊆ text.splitOn '/' := by
  rw [componentTexts]
  split
  · exact List.dropLast_subset _
  · exact List.Subset.refl _

theorem componentTexts_ne_nil (hne : text ≠ []) : componentTexts text ≠ [] := by
  rw [componentTexts]
  split
  · next hlast =>
      obtain ⟨front, hpieces⟩ := List.getLast?_eq_some_iff.mp hlast
      rw [hpieces, List.dropLast_concat]
      rintro rfl
      have htext : ['/'].intercalate (text.splitOn '/') = text := List.intercalate_splitOn '/'
      rw [hpieces] at htext
      exact hne htext.symm
  · exact List.splitOn_ne_nil '/' text

/-- A text that starts at the root has an empty piece in front. -/
theorem nil_mem_componentTexts (rest : List Char) : [] ∈ componentTexts ('/' :: rest) := by
  have hpieces : ('/' :: rest).splitOn '/' = [] :: rest.splitOn '/' :=
    List.splitOn_append_cons_self [] rest
  have hrest := List.splitOn_ne_nil '/' rest
  rw [componentTexts, hpieces]
  split
  · rw [List.dropLast_cons_of_ne_nil hrest]
    exact List.mem_cons_self
  · exact List.mem_cons_self

/-- What a pattern says is said by its text, component by component. -/
theorem ofText_eq_ok_iff : ofText text = .ok pattern ↔
    (∃ items, itemsOf text = .ok items) ∧
    ∃ components, (componentTexts (text.drop (if text.head? == some '/' then 1 else 0))).mapM
        itemsOf = .ok components ∧
      pattern = ⟨text.head? == some '/', components.map .ofItems, text.getLast? == some '/'⟩ := by
  refine bind_eq_ok_iff.trans ?_
  rw [exists_and_right]
  refine and_congr_right fun _ => bind_eq_ok_iff.trans ?_
  refine exists_congr fun components => and_congr_right fun _ => ?_
  exact ⟨fun hok => (Except.ok.inj hok).symm, fun heq => congrArg Except.ok heq.symm⟩

theorem components_ne_nil (htext : ofText text = .ok pattern) (hwild : isWild text = true) :
    pattern.components ≠ [] := by
  obtain ⟨_, components, hpieces, rfl⟩ := ofText_eq_ok_iff.mp htext
  intro hnil
  rw [List.map_eq_nil_iff.mp hnil, mapM_eq_ok_iff, List.forall₂_nil_right_iff] at hpieces
  refine componentTexts_ne_nil ?_ hpieces
  split
  · next hhead =>
      rw [beq_iff_eq, List.head?_eq_some_iff] at hhead
      obtain ⟨rest, rfl⟩ := hhead
      rintro rfl
      cases hwild
  · rintro rfl
    cases hwild

/-- Whether a pattern leads downwards from the working directory. -/
structure IsPlain (pattern : Pattern) : Prop where
  relative : pattern.absolute = false
  components : ∀ component ∈ pattern.components, component.IsPlain
  ne_nil : pattern.components ≠ []

/-- A plain text with a wild character gives a plain pattern. -/
theorem isPlain_of_ofText (hplain : IsPlainText text) (hwild : isWild text = true)
    (htext : ofText text = .ok pattern) : pattern.IsPlain := by
  have hne := components_ne_nil htext hwild
  obtain ⟨_, components, hpieces, rfl⟩ := ofText_eq_ok_iff.mp htext
  have hrelative : (text.head? == some '/') = false := by
    rw [beq_eq_false_iff_ne]
    intro hhead
    obtain ⟨rest, rfl⟩ := List.head?_eq_some_iff.mp hhead
    exact (hplain [] (nil_mem_componentTexts rest)).1 rfl
  rw [hrelative] at hpieces
  refine ⟨hrelative, List.forall_mem_map.mpr fun items hmem => ?_, hne⟩
  obtain ⟨piece, hpiece, hitems⟩ := exists_left_of_forall₂ (mapM_eq_ok_iff.mp hpieces) hmem
  obtain ⟨hfirst, hdot⟩ := hplain piece hpiece
  exact isPlain_ofItems hfirst hdot
    (slash_not_mem_of_mem_splitOn text piece (componentTexts_subset text hpiece)) hitems

end Pattern

end DispatchAudit.Files
