import DispatchAudit.Proofs.Files.Ancestors
import DispatchAudit.Settings.Load

/-!
# Which configuration is the nearest

The search for a configuration goes up from a directory one part at a time, and looks in each
directory for a configuration before it looks for a repository. So it finds the first configuration
on the way up if no repository lies below it. One in the same directory does not matter, and
nothing above a repository is ever found. The way up ends, whatever the path is, as it has as many
directories as the path has parts below the root.
-/

namespace DispatchAudit.Files

open FilePath

variable {workspace : Workspace} {start parent directory path : FilePath} {k : Nat}

theorem isEntryName_settingsName : IsEntryName settingsName :=
  ⟨by decide, by decide, by decide⟩

namespace Workspace

/-- Whether the directory, so many parts up from the first one, is the first on the way up with a
configuration, and no directory before it is the top of a repository. -/
structure Nearest (workspace : Workspace) (start : FilePath) (k : Nat) (directory : FilePath) :
    Prop where
  reached : start.ancestor? k = some directory
  present : workspace.has (directory.join settingsName) = true
  smallest : ∀ j < k, ∀ lower, start.ancestor? j = some lower →
    workspace.has (lower.join settingsName) = false
  inside : ∀ j < k, ∀ lower, start.ancestor? j = some lower →
    workspace.has (lower.join repositoryName) = false

theorem nearest_zero_iff : workspace.Nearest start 0 directory ↔
    directory = start ∧ workspace.has (start.join settingsName) = true := by
  constructor
  · rintro ⟨hreached, hpresent, _, _⟩
    obtain rfl : start = directory := Option.some.inj hreached
    exact ⟨rfl, hpresent⟩
  · rintro ⟨rfl, hpresent⟩
    exact ⟨rfl, hpresent, fun _ hlt => absurd hlt (Nat.not_lt_zero _),
      fun _ hlt => absurd hlt (Nat.not_lt_zero _)⟩

theorem nearest_succ_iff : workspace.Nearest start (k + 1) directory ↔
    workspace.has (start.join settingsName) = false ∧
      workspace.has (start.join repositoryName) = false ∧
      ∃ parent, start.parent? = some parent ∧ workspace.Nearest parent k directory := by
  constructor
  · rintro ⟨hreached, hpresent, hsmallest, hinside⟩
    obtain ⟨parent, hparent, hreached⟩ := Option.bind_eq_some_iff.mp hreached
    have hstep : ∀ j lower, parent.ancestor? j = some lower →
        start.ancestor? (j + 1) = some lower := fun j lower hlower =>
      Option.bind_eq_some_iff.mpr ⟨parent, hparent, hlower⟩
    refine ⟨hsmallest 0 (Nat.succ_pos k) start rfl, hinside 0 (Nat.succ_pos k) start rfl, parent,
      hparent, hreached, hpresent, ?_, ?_⟩
    · exact fun j hlt lower hlower =>
        hsmallest (j + 1) (Nat.succ_lt_succ hlt) lower (hstep j lower hlower)
    · exact fun j hlt lower hlower =>
        hinside (j + 1) (Nat.succ_lt_succ hlt) lower (hstep j lower hlower)
  · rintro ⟨hsettings, hrepository, parent, hparent, hreached, hpresent, hsmallest, hinside⟩
    have hcases : ∀ {P : FilePath → Prop}, P start →
        (∀ j < k, ∀ lower, parent.ancestor? j = some lower → P lower) →
        ∀ j < k + 1, ∀ lower, start.ancestor? j = some lower → P lower := by
      intro P hstart hlater j hlt lower hlower
      cases j with
      | zero =>
          obtain rfl : start = lower := Option.some.inj hlower
          exact hstart
      | succ j =>
          obtain ⟨parent', hparent', hlower⟩ := Option.bind_eq_some_iff.mp hlower
          obtain rfl : parent = parent' := Option.some.inj (hparent.symm.trans hparent')
          exact hlater j (Nat.lt_of_succ_lt_succ hlt) lower hlower
    exact ⟨Option.bind_eq_some_iff.mpr ⟨parent, hparent, hreached⟩, hpresent,
      hcases hsettings hsmallest, hcases hrepository hinside⟩

/-- The way of the search from one directory on. -/
theorem exists_nearest_iff :
    (∃ k directory, workspace.Nearest start k directory ∧ path = directory.join settingsName) ↔
      workspace.has (start.join settingsName) = true ∧ path = start.join settingsName ∨
      workspace.has (start.join settingsName) = false ∧
        workspace.has (start.join repositoryName) = false ∧
        ∃ parent, start.parent? = some parent ∧
          ∃ k directory, workspace.Nearest parent k directory ∧
            path = directory.join settingsName := by
  constructor
  · rintro ⟨k, directory, hnearest, rfl⟩
    cases k with
    | zero =>
        obtain ⟨rfl, hpresent⟩ := nearest_zero_iff.mp hnearest
        exact .inl ⟨hpresent, rfl⟩
    | succ k =>
        obtain ⟨hsettings, hrepository, parent, hparent, hnearest⟩ := nearest_succ_iff.mp hnearest
        exact .inr ⟨hsettings, hrepository, parent, hparent, k, directory, hnearest, rfl⟩
  · rintro (⟨hpresent, rfl⟩ |
      ⟨hsettings, hrepository, parent, hparent, k, directory, hnearest, rfl⟩)
    · exact ⟨0, start, nearest_zero_iff.mpr ⟨rfl, hpresent⟩, rfl⟩
    · exact ⟨k + 1, directory,
        nearest_succ_iff.mpr ⟨hsettings, hrepository, parent, hparent, hnearest⟩, rfl⟩

theorem findSettings_eq_some_iff : workspace.findSettings start = some path ↔
    ∃ k directory, workspace.Nearest start k directory ∧ path = directory.join settingsName := by
  -- the induction follows the search, whose measure is the length of the path's text
  fun_induction Workspace.findSettings workspace start with
  | case1 start hsettings =>
      rw [exists_nearest_iff, Option.some.injEq]
      constructor
      · rintro rfl
        exact .inl ⟨hsettings, rfl⟩
      · rintro (⟨_, rfl⟩ | ⟨hnone, _⟩)
        · rfl
        · rw [hsettings] at hnone
          cases hnone
  | case2 start hsettings hrepository =>
      rw [exists_nearest_iff]
      simp [hsettings, hrepository]
  | case3 start hsettings hrepository hparent =>
      rw [exists_nearest_iff]
      simp [hsettings, hparent]
  | case4 start hsettings hrepository parent hparent _ ih =>
      rw [exists_nearest_iff, ih]
      simp [hsettings, hrepository, hparent]

theorem findSettings_eq_none_iff : workspace.findSettings start = none ↔
    ∀ k directory, ¬ workspace.Nearest start k directory := by
  rw [Option.eq_none_iff_forall_ne_some]
  simp only [Ne, findSettings_eq_some_iff, not_exists, not_and]
  constructor
  · exact fun hnone k directory hnearest => hnone _ k directory hnearest rfl
  · exact fun hnone path k directory hnearest => absurd hnearest (hnone k directory)

/-- Nothing is found above the top of a repository, as the paths further up have fewer parts. -/
theorem findSettings_ne_of_repository {above : FilePath} {l : Nat}
    (hreached : start.ancestor? k = some directory)
    (hrepository : workspace.has (directory.join repositoryName) = true) (hlt : k < l)
    (habove : start.ancestor? l = some above) :
    workspace.findSettings start ≠ some (above.join settingsName) := by
  intro hfound
  obtain ⟨m, lower, hnearest, hjoin⟩ := findSettings_eq_some_iff.mp hfound
  have hle : m ≤ k := by
    rw [← Nat.not_lt]
    intro hbefore
    have hnone := hnearest.inside k hbefore directory hreached
    rw [hrepository] at hnone
    cases hnone
  exact join_ne_of_ancestor? isEntryName_settingsName hnearest.reached habove
    (Nat.lt_of_le_of_lt hle hlt) hjoin.symm

/-- The way up from a directory leaves out one part at a time until none is left below the root.
The search finds the first configuration on it that no repository lies below, and nothing if there
is none. A configuration beside a repository is still found, one above it is not. -/
theorem findSettings_finds_nearest (workspace : Workspace) (start : FilePath) :
    (∀ k, (start.ancestor? k).isSome = true ↔ k ≤ start.depth) ∧
    (∀ k directory, start.ancestor? k = some directory →
      ∃ cut : List Part, cut.length = k ∧ start.parts = directory.parts ++ cut) ∧
    (∀ path, workspace.findSettings start = some path ↔
      ∃ k directory, workspace.Nearest start k directory ∧ path = directory.join settingsName) ∧
    (workspace.findSettings start = none ↔
      ∀ k directory, ¬ workspace.Nearest start k directory) ∧
    (∀ k directory, start.ancestor? k = some directory →
      workspace.has (directory.join repositoryName) = true →
      (workspace.Nearest start k directory →
        workspace.findSettings start = some (directory.join settingsName)) ∧
      ∀ l above, k < l → start.ancestor? l = some above →
        workspace.findSettings start ≠ some (above.join settingsName)) := by
  refine ⟨fun k => isSome_ancestor?_iff, fun k directory => exists_parts_of_ancestor?,
    fun path => findSettings_eq_some_iff, findSettings_eq_none_iff, ?_⟩
  intro k directory hreached hrepository
  refine ⟨?_, ?_⟩
  · intro hnearest
    exact findSettings_eq_some_iff.mpr ⟨k, directory, hnearest, rfl⟩
  · intro l above hlt habove
    exact findSettings_ne_of_repository hreached hrepository hlt habove

/-- A tree with a repository in a repository. Only the outer one has a configuration. -/
def nestedRepositories : Workspace where
  root := .directory [("a", .directory [(".git", .directory []),
    (".validate-methods.json", .file ByteArray.empty),
    ("b", .directory [(".git", .directory []), ("c", .directory [])])])]
  directory := []

theorem findSettings_nestedRepositories :
    nestedRepositories.findSettings ⟨"a/x/.."⟩ = some ⟨"a/.validate-methods.json"⟩ ∧
      nestedRepositories.findSettings ⟨"/a/b/c"⟩ ≠ some ⟨"/a/.validate-methods.json"⟩ := by
  have houter : nestedRepositories.Nearest ⟨"a"⟩ 0 ⟨"a"⟩ := nearest_zero_iff.mpr ⟨rfl, by decide⟩
  have hbelow : nestedRepositories.Nearest ⟨"a/x"⟩ 1 ⟨"a"⟩ :=
    nearest_succ_iff.mpr ⟨by decide, by decide, ⟨"a"⟩, by decide, houter⟩
  have hnearest : nestedRepositories.Nearest ⟨"a/x/.."⟩ 2 ⟨"a"⟩ :=
    nearest_succ_iff.mpr ⟨by decide, by decide, ⟨"a/x"⟩, by decide, hbelow⟩
  obtain ⟨_, _, _, _, hbeside⟩ := findSettings_finds_nearest nestedRepositories ⟨"a/x/.."⟩
  obtain ⟨_, _, _, _, hinner⟩ := findSettings_finds_nearest nestedRepositories ⟨"/a/b/c"⟩
  refine ⟨(hbeside 2 ⟨"a"⟩ (by decide) (by decide)).1 hnearest, ?_⟩
  exact (hinner 1 ⟨"/a/b"⟩ (by decide) (by decide)).2 2 ⟨"/a"⟩ (by decide) (by decide)

end Workspace

end DispatchAudit.Files
