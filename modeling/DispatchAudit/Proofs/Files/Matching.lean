import DispatchAudit.Files.Pattern
import DispatchAudit.Proofs.Files.Ancestors
import Mathlib.Algebra.GroupWithZero.Nat
import Mathlib.Data.List.Infix

/-!
# What patterns match

Items spell a name if the name can be cut into what the items stand for, one after another. Names
are matched from their end: for each end of a name it is known whether the items that follow match
it, so the answer for one more item is found without trying the ways to cut.

The components of a pattern match the names of a path one by one. The names can be divided among
several components that stand for any number of directories in more than one way, and the number
of ways is what a walk counts.
-/

namespace DispatchAudit.Files

variable {item : PatternItem} {items : List PatternItem} {c : Char} {name : List Char}
  {component : PatternComponent} {components rest : List PatternComponent} {names : List String}
  {isDirectory : Bool}

/-! ### Names -/

inductive Spells : List PatternItem → List Char → Prop where
  | nil : Spells [] []
  | one {item : PatternItem} {items : List PatternItem} {c : Char} {name : List Char}
      (haccepts : item.accepts c = true) (hrest : Spells items name) :
      Spells (item :: items) (c :: name)
  | run {item : PatternItem} {items : List PatternItem} {name : List Char}
      (hrun : item.isRun = true) (taken : List Char) (hrest : Spells items name) :
      Spells (item :: items) (taken ++ name)

/-- What holds of a list of components follows the recursion of a walk. -/
@[elab_as_elim]
theorem PatternComponent.list_induction {motive : List PatternComponent → Prop}
    (nil : motive [])
    (literal : ∀ name rest, motive rest → motive (.literal name :: rest))
    (wild : ∀ items rest, motive rest → motive (.wild items :: rest))
    (last : motive [.directories])
    (again : ∀ rest, motive (.directories :: rest) → motive (.directories :: .directories :: rest))
    (through : ∀ component rest, component ≠ .directories → motive rest →
      motive (.directories :: component :: rest)) :
    ∀ components, motive components
  | [] => nil
  | .literal name :: rest =>
      literal name rest (list_induction nil literal wild last again through rest)
  | .wild items :: rest => wild items rest (list_induction nil literal wild last again through rest)
  | [.directories] => last
  | .directories :: .directories :: rest =>
      again rest (list_induction nil literal wild last again through (.directories :: rest))
  | .directories :: .literal _ :: rest =>
      through _ rest nofun (list_induction nil literal wild last again through rest)
  | .directories :: .wild _ :: rest =>
      through _ rest nofun (list_induction nil literal wild last again through rest)

/-- Whether a component stands for one entry with this name. -/
def PatternComponent.Names : PatternComponent → String → Prop
  | literal expected, name => expected = name
  | directories, _ => False
  | wild items, name => Spells items name.toList

/-- Whether the components match the names that lead to a file or to a directory. Two stars stand
for any number of directories, or for one or more if they come last. -/
inductive Matches (isDirectory : Bool) : List PatternComponent → List String → Prop where
  | nil : Matches isDirectory [] []
  | name {component : PatternComponent} {rest : List PatternComponent} {name : String}
      {names : List String} (hname : component.Names name)
      (hrest : Matches isDirectory rest names) :
      Matches isDirectory (component :: rest) (name :: names)
  | through {rest : List PatternComponent} {names : List String} (hne : rest ≠ [])
      (above : List String) (hrest : Matches isDirectory rest names) :
      Matches isDirectory (.directories :: rest) (above ++ names)
  | last {names : List String} (hne : names ≠ []) (hdirectory : isDirectory = true) :
      Matches isDirectory [.directories] names

/-- In how many ways the names can be divided among the components, where neighbours that stand
for any number of directories count as one. -/
def ways (isDirectory : Bool) : List PatternComponent → List String → Nat
  | [], names => if names.isEmpty then 1 else 0
  | [.directories], names => if !names.isEmpty && isDirectory then 1 else 0
  | .directories :: .directories :: rest, names => ways isDirectory (.directories :: rest) names
  | .directories :: component :: rest, names =>
    (names.tails.map (ways isDirectory (component :: rest))).sum
  | _ :: _, [] => 0
  | component :: rest, name :: names =>
    if component.accepts name then ways isDirectory rest names else 0

theorem ways_cons (hne : component ≠ .directories) (rest : List PatternComponent) (name : String)
    (names : List String) : ways isDirectory (component :: rest) (name :: names) =
      if component.accepts name then ways isDirectory rest names else 0 := by
  rw [ways] <;> intros <;> exact absurd ‹_› hne

theorem ways_cons_nil (hne : component ≠ .directories) (rest : List PatternComponent) :
    ways isDirectory (component :: rest) [] = 0 := by
  rw [ways] <;> intros <;> exact absurd ‹_› hne

theorem ways_again (rest : List PatternComponent) (names : List String) :
    ways isDirectory (.directories :: .directories :: rest) names =
      ways isDirectory (.directories :: rest) names := by
  rw [ways]

theorem ways_through (hne : component ≠ .directories) (rest : List PatternComponent)
    (names : List String) : ways isDirectory (.directories :: component :: rest) names =
      (names.tails.map (ways isDirectory (component :: rest))).sum := by
  rw [ways]
  exact fun hdirectories => absurd hdirectories hne

theorem ways_nil_right (hne : components ≠ []) : ways isDirectory components [] = 0 := by
  induction components using PatternComponent.list_induction with
  | nil => exact absurd rfl hne
  | literal name rest => exact ways_cons_nil PatternComponent.noConfusion rest
  | wild items rest => exact ways_cons_nil PatternComponent.noConfusion rest
  | last => rfl
  | again rest ih =>
      rw [ways_again]
      exact ih (List.cons_ne_nil _ rest)
  | through component rest hdirectories =>
      rw [ways_through hdirectories]
      simpa using ways_cons_nil hdirectories rest

/-- Components that each stand for one name have at most one way, and only for as many names. -/
theorem ways_le_of_no_directories (hnone : .directories ∉ components) :
    ways isDirectory components names ≤ if names.length = components.length then 1 else 0 := by
  induction components generalizing names with
  | nil => cases names <;> simp [ways]
  | cons component rest ih =>
      obtain ⟨hne, hrest⟩ := List.ne_and_not_mem_of_not_mem_cons hnone
      cases names with
      | nil => simp [ways_cons_nil hne.symm]
      | cons name names =>
          rw [ways_cons hne.symm]
          split
          · simpa using ih hrest
          · exact Nat.zero_le _

/-- Only one end of a list has a given length. -/
theorem sum_map_tails_le_one {count : List String → Nat} {length : Nat}
    (hcount : ∀ names : List String, count names ≤ if names.length = length then 1 else 0)
    (names : List String) : (names.tails.map count).sum ≤ 1 := by
  have hzero : ∀ names : List String, names.length < length → (names.tails.map count).sum = 0 := by
    intro names hlt
    rw [List.sum_eq_zero_iff_forall_eq_nat, List.forall_mem_map]
    intro more hmore
    have hle := ((List.mem_tails _ _).mp hmore).length_le
    have := hcount more
    rw [if_neg (by omega)] at this
    omega
  induction names with
  | nil =>
      have := hcount []
      have hsum : (([] : List String).tails.map count).sum = count [] := by simp
      split at this <;> omega
  | cons name names ih =>
      rw [List.tails_cons, List.map_cons, List.sum_cons]
      have hhead := hcount (name :: names)
      split at hhead
      · next hlength =>
          rw [hzero names (by rw [← hlength]; exact Nat.lt_succ_self _)]
          omega
      · omega

/-- With at most one component that stands for any number of directories there is at most one
way. -/
theorem ways_le_one (hone : components.count .directories ≤ 1) (names : List String) :
    ways isDirectory components names ≤ 1 := by
  have hcons : ∀ {component : PatternComponent} {rest : List PatternComponent}
      {names : List String}, component ≠ .directories →
      (rest.count .directories ≤ 1 → ∀ names, ways isDirectory rest names ≤ 1) →
      (component :: rest).count .directories ≤ 1 →
      ways isDirectory (component :: rest) names ≤ 1 := by
    intro component rest names hne ih hone
    rw [List.count_cons_of_ne hne] at hone
    cases names with
    | nil => simp [ways_cons_nil hne]
    | cons name names =>
        rw [ways_cons hne]
        split
        · exact ih hone names
        · exact Nat.zero_le 1
  induction components using PatternComponent.list_induction generalizing names with
  | nil => rw [ways]; split <;> omega
  | literal name rest ih => exact hcons nofun ih hone
  | wild items rest ih => exact hcons nofun ih hone
  | last => rw [ways]; split <;> omega
  | again rest ih => simp at hone
  | through component rest hne ih =>
      rw [ways_through hne]
      refine sum_map_tails_le_one (fun names => ways_le_of_no_directories ?_) names
      rw [List.count_cons_self] at hone
      exact List.count_eq_zero.mp (by omega)

end DispatchAudit.Files
