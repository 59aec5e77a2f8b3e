import DispatchAudit.Proofs.Files.Counting
import DispatchAudit.Proofs.Files.Ordering

/-!
# What a path stands for

A path that is there, or no pattern, stands for itself. Any other path is refused for one of three
reasons, or stands for what the walk finds, sorted. With a plain pattern these are the paths whose
names match, each as often as there are ways to divide its names.
-/

namespace DispatchAudit.Files

open FilePath

variable {workspace : Workspace} {pattern : Pattern} {path found directory : FilePath}
  {block paths : List FilePath} {entry : Entry} {names : List String} {unlisted : Unlisted}
  {fault : ExpansionFault} {onlyDirectories : Bool}

structure Pattern.Matches (pattern : Pattern) (names : List String) (entry : Entry) : Prop where
  components : Files.Matches entry.isDirectory pattern.components names
  isDirectory : pattern.onlyDirectories = true → entry.isDirectory = true

/-- In how many ways the names of an entry match the pattern. -/
def Pattern.ways (pattern : Pattern) (names : List String) (entry : Entry) : Nat :=
  if pattern.onlyDirectories && !entry.isDirectory then 0
  else Files.ways entry.isDirectory pattern.components names

theorem Pattern.ways_le_one (hone : pattern.components.count .directories ≤ 1)
    (names : List String) (entry : Entry) : pattern.ways names entry ≤ 1 := by
  rw [ways]
  split
  · exact Nat.zero_le 1
  · exact Files.ways_le_one hone names

namespace Workspace

def walk (workspace : Workspace) (pattern : Pattern) : List (Except Unlisted Spot) :=
  Walk.finds workspace pattern.components
    (Walk.spotAt workspace ⟨if pattern.absolute then "/" else "."⟩)

def wants (pattern : Pattern) (spot : Spot) : Bool :=
  !pattern.onlyDirectories || spot.entries?.isSome

theorem findAll_eq_ok_iff : workspace.findAll pattern = .ok paths ↔
    ∃ spots : List Spot, workspace.walk pattern = spots.map .ok ∧
      (spots.filter (wants pattern)).map Spot.path = paths := by
  refine bind_eq_ok_iff.trans (exists_congr fun spots => and_congr mapM_id_eq_ok_iff ?_)
  exact ⟨Except.ok.inj, congrArg Except.ok⟩

theorem findAll_eq_error_iff : workspace.findAll pattern = .error unlisted ↔
    ∃ before after, workspace.walk pattern = before ++ .error unlisted :: after ∧
      ∀ find ∈ before, ∃ spot : Spot, find = .ok spot := by
  have hfirst : workspace.findAll pattern = .error unlisted ↔
      (workspace.walk pattern).mapM id = .error unlisted := by
    rw [findAll, ← walk]
    cases (workspace.walk pattern).mapM id with
    | error other => exact ⟨congrArg _ ∘ Except.error.inj, congrArg _ ∘ Except.error.inj⟩
    | ok spots => exact iff_of_false nofun nofun
  rw [hfirst, mapM_eq_error_iff]
  constructor
  · rintro ⟨before, _, after, hwalk, hbefore, rfl⟩
    exact ⟨before, after, hwalk, hbefore⟩
  · rintro ⟨before, after, hwalk, hbefore⟩
    exact ⟨before, _, after, hwalk, hbefore, rfl⟩

/-- A directory that a walk cannot list is one that it reaches, and its path is too long. -/
theorem exists_reached_of_findAll (hfails : workspace.findAll pattern = .error unlisted) :
    ∃ reached, Relation.ReflTransGen (Walk.Step workspace pattern.components)
        (Walk.spotAt workspace ⟨if pattern.absolute then "/" else "."⟩) reached ∧
      reached.path.isTooLong = true ∧ reached.entries?.isSome = true ∧
      unlisted = ⟨reached.path⟩ := by
  obtain ⟨before, after, hwalk, _⟩ := findAll_eq_error_iff.mp hfails
  have hmem : .error unlisted ∈ workspace.walk pattern :=
    hwalk ▸ List.mem_append_right before List.mem_cons_self
  rcases Walk.arrives_of_mem_finds (fun _ hmem => hmem) hmem with
    ⟨_, hspot⟩ | ⟨reached, hreached, hlisted⟩
  · cases hspot
  · exact ⟨reached, hreached, Walk.mem_listed_error_iff.mp hlisted⟩

/-- Whether a path is put in its own place. -/
def StandsAlone (workspace : Workspace) (path : FilePath) : Prop :=
  Pattern.isWild path.text.toList = false ∨ workspace.has path = true

instance (workspace : Workspace) (path : FilePath) : Decidable (workspace.StandsAlone path) :=
  inferInstanceAs (Decidable (_ ∨ _))

theorem expand_of_standsAlone (halone : workspace.StandsAlone path) :
    workspace.expand path = .ok [path] := by
  rw [expand, if_pos]
  rcases halone with hliteral | hhas
  · rw [hliteral]
    rfl
  · rw [hhas, Bool.or_true]

theorem isWild_of_not_standsAlone (halone : ¬ workspace.StandsAlone path) :
    Pattern.isWild path.text.toList = true := by
  rw [StandsAlone, not_or, Bool.not_eq_false] at halone
  exact halone.1

theorem expand_of_not_standsAlone (halone : ¬ workspace.StandsAlone path) :
    workspace.expand path =
      match Pattern.ofText path.text.toList with
      | .error fault => .error (.badPattern fault)
      | .ok pattern =>
        match workspace.findAll pattern with
        | .error unlisted => .error (.unlisted unlisted.path)
        | .ok [] => .error .noMatch
        | .ok paths => .ok (paths.mergeSort FilePath.le) := by
  rw [StandsAlone, not_or, Bool.not_eq_false, Bool.not_eq_true] at halone
  rw [expand]
  exact if_neg (by rw [halone.1, halone.2]; decide)

/-- Why a path cannot be expanded: what stands in its place is no pattern, or the walk comes to a
directory whose path is too long, or nothing is found. -/
inductive Refused (workspace : Workspace) (path : FilePath) : ExpansionFault → Prop where
  | badPattern {fault : PatternFault} (halone : ¬ workspace.StandsAlone path)
      (htext : Pattern.ofText path.text.toList = .error fault) :
      Refused workspace path (.badPattern fault)
  | unlisted {pattern : Pattern} {directory : FilePath} (halone : ¬ workspace.StandsAlone path)
      (htext : Pattern.ofText path.text.toList = .ok pattern)
      (hlong : directory.isTooLong = true)
      (hfirst : workspace.findAll pattern = .error ⟨directory⟩) :
      Refused workspace path (.unlisted directory)
  | noMatch {pattern : Pattern} (halone : ¬ workspace.StandsAlone path)
      (htext : Pattern.ofText path.text.toList = .ok pattern)
      (hnone : workspace.findAll pattern = .ok []) :
      Refused workspace path .noMatch

theorem expand_eq_error_iff :
    workspace.expand path = .error fault ↔ workspace.Refused path fault := by
  by_cases halone : workspace.StandsAlone path
  · rw [expand_of_standsAlone halone]
    refine iff_of_false nofun fun hrefused => ?_
    cases hrefused <;> contradiction
  rw [expand_of_not_standsAlone halone]
  constructor
  · intro hfails
    cases htext : Pattern.ofText path.text.toList with
    | error flaw =>
        rw [htext] at hfails
        obtain rfl := Except.error.inj hfails
        exact .badPattern halone htext
    | ok pattern =>
        cases hfindAll : workspace.findAll pattern with
        | error unlisted =>
            simp only [htext, hfindAll] at hfails
            obtain rfl := Except.error.inj hfails
            obtain ⟨_, _, hlong, _, rfl⟩ := exists_reached_of_findAll hfindAll
            exact .unlisted halone htext hlong hfindAll
        | ok paths =>
            simp only [htext, hfindAll] at hfails
            cases paths with
            | nil =>
                obtain rfl := Except.error.inj hfails
                exact .noMatch halone htext hfindAll
            | cons first rest => cases hfails
  · intro hrefused
    cases hrefused with
    | badPattern _ htext => simp only [htext]
    | unlisted _ htext _ hfirst => simp only [htext, hfirst]
    | noMatch _ htext hnone => simp only [htext, hnone]

theorem expand_eq_ok_iff (halone : ¬ workspace.StandsAlone path) :
    workspace.expand path = .ok block ↔ ∃ pattern paths,
      Pattern.ofText path.text.toList = .ok pattern ∧ workspace.findAll pattern = .ok paths ∧
        paths ≠ [] ∧ paths.mergeSort FilePath.le = block := by
  rw [expand_of_not_standsAlone halone]
  cases Pattern.ofText path.text.toList with
  | error flaw => simp
  | ok pattern =>
      simp only [Except.ok.injEq, exists_and_left, exists_eq_left']
      cases workspace.findAll pattern with
      | error unlisted => simp
      | ok paths => cases paths <;> simp

theorem expand_of_findAll (halone : ¬ workspace.StandsAlone path)
    (htext : Pattern.ofText path.text.toList = .ok pattern)
    (hfindAll : workspace.findAll pattern = .ok paths) (hne : paths ≠ [])
    (hsorted : paths.mergeSort FilePath.le = block) : workspace.expand path = .ok block :=
  (expand_eq_ok_iff halone).mpr ⟨pattern, paths, htext, hfindAll, hne, hsorted⟩

/-- What a path stands for stands for itself. -/
theorem standsAlone_of_mem_expand (hroot : workspace.root.Proper)
    (hexpand : workspace.expand path = .ok block) (hfound : found ∈ block)
    (hshort : found.isTooLong = false) : workspace.StandsAlone found := by
  by_cases halone : workspace.StandsAlone path
  · rw [expand_of_standsAlone halone] at hexpand
    rw [← Except.ok.inj hexpand] at hfound
    exact List.mem_singleton.mp hfound ▸ halone
  · obtain ⟨pattern, paths, htext, hfindAll, _, rfl⟩ := (expand_eq_ok_iff halone).mp hexpand
    obtain ⟨spots, hwalk, rfl⟩ := findAll_eq_ok_iff.mp hfindAll
    rw [List.mem_mergeSort] at hfound
    obtain ⟨spot, hspot, rfl⟩ := List.mem_map.mp hfound
    have hmem : .ok spot ∈ workspace.walk pattern :=
      hwalk ▸ List.mem_map_of_mem (List.mem_of_mem_filter hspot)
    have hne := Pattern.components_ne_nil htext (isWild_of_not_standsAlone halone)
    exact .inr (Walk.has_of_mem_finds hroot hne hmem hshort)

/-! ### Plain patterns -/

/-- Whether the path leads downwards to something that matches the pattern. -/
def Selects (workspace : Workspace) (pattern : Pattern) (path : FilePath) : Prop :=
  ∃ entry, workspace.find path = .ok entry ∧ (∀ name ∈ path.pieceNames, IsEntryName name) ∧
    pattern.Matches path.pieceNames entry

theorem Selects.isTooLong (hselects : workspace.Selects pattern path) : path.isTooLong = false := by
  obtain ⟨entry, hfind, _⟩ := hselects
  obtain ⟨above, hleads⟩ := find_eq_ok_iff.mp hfind
  exact hleads.short

theorem lies_start (workspace : Workspace) (hplain : pattern.IsPlain) :
    Walk.Lies workspace [] (Walk.spotAt workspace ⟨if pattern.absolute then "/" else "."⟩) := by
  rw [hplain.relative]
  exact Walk.lies_start workspace

/-- What a plain pattern finds lies below the working directory. -/
theorem exists_lies_of_mem_walk (hroot : workspace.root.Proper) (hplain : pattern.IsPlain)
    {spot : Spot} (hspot : .ok spot ∈ workspace.walk pattern) :
    ∃ names ≠ [], ∃ entry, Walk.Lies workspace names spot ∧
      workspace.below? names = some entry := by
  rcases Walk.arrives_of_mem_finds (fun _ hmem => hmem) hspot with ⟨hnil, _⟩ | hreached
  · exact absurd hnil hplain.ne_nil
  · exact (lies_start workspace hplain).of_reached hroot hplain.components hreached

/-- A plain pattern finds a path as often as there are ways to match its names. -/
theorem count_findAll (hroot : workspace.root.Proper) (hplain : pattern.IsPlain)
    (hfindAll : workspace.findAll pattern = .ok paths)
    (hentry : workspace.below? names = some entry)
    (hshort : (downwards names).isTooLong = false) :
    paths.count (downwards names) = pattern.ways names entry := by
  obtain ⟨spots, hwalk, rfl⟩ := findAll_eq_ok_iff.mp hfindAll
  have hhits : spots.countP (fun spot => spot.path == downwards names) =
      Files.ways entry.isDirectory pattern.components names := by
    have hcount : Walk.hits (downwards names) (workspace.walk pattern) = _ :=
      Walk.hits_finds hroot hplain.components (lies_start workspace hplain) hentry hshort
    rw [← hcount, hwalk, Walk.hits, List.countP_map]
    rfl
  have hwants : ∀ spot ∈ spots, spot.path = downwards names →
      wants pattern spot = !(pattern.onlyDirectories && !entry.isDirectory) := by
    intro spot hspot hpath
    obtain ⟨others, _, _, hlies, _⟩ := exists_lies_of_mem_walk hroot hplain
      (hwalk ▸ List.mem_map_of_mem hspot)
    obtain rfl := downwards_inj hlies.isEntryName (Walk.isEntryName_of_below? hroot hentry)
      (hlies.path.symm.trans hpath)
    rw [wants, hlies.isSome_entries? hentry, Bool.not_and, Bool.not_not]
  rw [List.count, List.countP_map, List.countP_filter, Pattern.ways]
  split
  · next hfile =>
      rw [List.countP_eq_zero]
      intro spot hspot hcounted
      simp only [Function.comp_apply, Bool.and_eq_true, beq_iff_eq] at hcounted
      rw [hwants spot hspot hcounted.1, hfile] at hcounted
      cases hcounted.2
  · next hwanted =>
      rw [← hhits]
      refine List.countP_congr fun spot hspot => ?_
      simp only [Function.comp_apply, Bool.and_eq_true, beq_iff_eq, and_iff_left_iff_imp]
      intro hpath
      rw [hwants spot hspot hpath, Bool.eq_false_iff.mpr hwanted]
      rfl

/-- What a plain pattern finds are paths that lead downwards to something. -/
theorem exists_names_of_mem_findAll (hroot : workspace.root.Proper) (hplain : pattern.IsPlain)
    (hfindAll : workspace.findAll pattern = .ok paths) (hfound : found ∈ paths) :
    ∃ names ≠ [], ∃ entry, found = downwards names ∧ (∀ name ∈ names, IsEntryName name) ∧
      workspace.below? names = some entry := by
  obtain ⟨spots, hwalk, rfl⟩ := findAll_eq_ok_iff.mp hfindAll
  obtain ⟨spot, hspot, rfl⟩ := List.mem_map.mp hfound
  obtain ⟨names, hne, entry, hlies, hentry⟩ := exists_lies_of_mem_walk hroot hplain
    (hwalk ▸ List.mem_map_of_mem (List.mem_of_mem_filter hspot))
  exact ⟨names, hne, entry, hlies.path, hlies.isEntryName, hentry⟩

/-- The paths that a plain pattern finds are told apart by their parts. -/
theorem eq_of_parts (hroot : workspace.root.Proper) (hplain : pattern.IsPlain)
    (hfindAll : workspace.findAll pattern = .ok paths) {other : FilePath} (hfound : found ∈ paths)
    (hother : other ∈ paths) (hparts : found.parts = other.parts) : found = other := by
  obtain ⟨names, hne, _, rfl, hnames, _⟩ :=
    exists_names_of_mem_findAll hroot hplain hfindAll hfound
  obtain ⟨others, hne', _, rfl, hothers, _⟩ :=
    exists_names_of_mem_findAll hroot hplain hfindAll hother
  rw [parts_downwards hne hnames, parts_downwards hne' hothers] at hparts
  rw [List.map_injective_iff.mpr (fun _ _ => Part.name.inj) hparts]

/-- A plain pattern puts a path in its place as often as its names match in different ways, so
what it stands for is strictly increasing exactly if each path matches in one way only. -/
theorem expand_repeats_ways (hroot : workspace.root.Proper) (halone : ¬ workspace.StandsAlone path)
    (htext : Pattern.ofText path.text.toList = .ok pattern)
    (hplain : Pattern.IsPlainText path.text.toList) (hexpand : workspace.expand path = .ok block)
    (hshort : ∀ found ∈ block, found.isTooLong = false) :
    (block.Pairwise fun left right => left.le right = true) ∧
    (∀ found ∈ block, ∃ entry, workspace.find found = .ok entry ∧
      block.count found = pattern.ways found.pieceNames entry) ∧
    (block.Pairwise Before ↔ ∀ found ∈ block, ∀ entry, workspace.find found = .ok entry →
      pattern.ways found.pieceNames entry = 1) ∧
    (pattern.components.count .directories ≤ 1 → block.Pairwise Before) := by
  have hplain : pattern.IsPlain :=
    Pattern.isPlain_of_ofText hplain (isWild_of_not_standsAlone halone) htext
  obtain ⟨other, paths, hother, hfindAll, _, rfl⟩ := (expand_eq_ok_iff halone).mp hexpand
  obtain rfl := Except.ok.inj (htext.symm.trans hother)
  have hmem : ∀ {found}, found ∈ paths.mergeSort FilePath.le ↔ found ∈ paths := List.mem_mergeSort
  have hcount : ∀ found ∈ paths.mergeSort FilePath.le, ∃ entry, workspace.find found = .ok entry ∧
      (paths.mergeSort FilePath.le).count found = pattern.ways found.pieceNames entry := by
    intro found hfound
    obtain ⟨names, hne, entry, rfl, hnames, hentry⟩ :=
      exists_names_of_mem_findAll hroot hplain hfindAll (hmem.mp hfound)
    have hshort := hshort _ hfound
    refine ⟨entry, (find_downwards hroot hnames).mpr ⟨hshort, hentry⟩, ?_⟩
    rw [(List.mergeSort_perm paths _).count_eq, pieceNames_downwards hne hnames]
    exact count_findAll hroot hplain hfindAll hentry hshort
  have hstrict := pairwise_before_iff (pairwise_mergeSort paths) fun left hleft right hright =>
    eq_of_parts hroot hplain hfindAll (hmem.mp hleft) (hmem.mp hright)
  rw [hstrict, List.nodup_iff_count_le_one]
  have hle : ∀ {bound : Nat}, (∀ found ∈ paths.mergeSort FilePath.le, ∀ entry,
      workspace.find found = .ok entry → pattern.ways found.pieceNames entry ≤ bound) →
      ∀ found, (paths.mergeSort FilePath.le).count found ≤ bound := by
    intro bound hways found
    by_cases hfound : found ∈ paths.mergeSort FilePath.le
    · obtain ⟨entry, hfind, hsame⟩ := hcount found hfound
      exact hsame ▸ hways found hfound entry hfind
    · rw [List.count_eq_zero.mpr hfound]
      exact Nat.zero_le bound
  refine ⟨pairwise_mergeSort paths, hcount, ⟨fun honce found hfound entry hfind => ?_, fun hways =>
    hle fun found hfound entry hfind => (hways found hfound entry hfind).le⟩, fun hone =>
    hle fun found _ entry _ => Pattern.ways_le_one hone found.pieceNames entry⟩
  obtain ⟨_, hentry, hsame⟩ := hcount found hfound
  obtain rfl := Except.ok.inj (hfind.symm.trans hentry)
  have hpos := List.count_pos_iff.mpr hfound
  have := honce found
  omega

def nestedNames : Workspace where
  root := .directory [("a", .directory [("a", .directory [("x.cpp", .file ByteArray.empty)])])]
  directory := []

def nestedPattern : Pattern where
  absolute := false
  components := [.directories, .literal "a", .directories,
    .wild [.anyRun, .exactly '.', .exactly 'c', .exactly 'p', .exactly 'p']]
  onlyDirectories := false

theorem proper_nestedNames : nestedNames.root.Proper := by
  refine .directory (by decide) (by decide) (List.forall_mem_singleton.mpr ?_)
  refine .directory (by decide) (by decide) (List.forall_mem_singleton.mpr ?_)
  exact .directory (by decide) (by decide) (List.forall_mem_singleton.mpr (.file _))

theorem ofText_nestedPattern :
    Pattern.ofText (FilePath.mk "**/a/**/*.cpp").text.toList = .ok nestedPattern := by
  cbv

theorem not_standsAlone_nestedNames : ¬ nestedNames.StandsAlone ⟨"**/a/**/*.cpp"⟩ := by decide

theorem expand_nestedNames : nestedNames.expand ⟨"**/a/**/*.cpp"⟩ =
    .ok [⟨"a/a/x.cpp"⟩, ⟨"a/a/x.cpp"⟩] := by
  have hfindAll : nestedNames.findAll nestedPattern = .ok [⟨"a/a/x.cpp"⟩, ⟨"a/a/x.cpp"⟩] := rfl
  exact expand_of_findAll not_standsAlone_nestedNames ofText_nestedPattern hfindAll (by decide)
    (List.mergeSort_of_pairwise (by decide))

theorem nestedNames_two_ways :
    nestedPattern.ways ["a", "a", "x.cpp"] (.file ByteArray.empty) = 2 := by
  have hrepeats := expand_repeats_ways proper_nestedNames not_standsAlone_nestedNames
    ofText_nestedPattern (by decide) expand_nestedNames (by decide)
  obtain ⟨entry, hfind, hcount⟩ := hrepeats.2.1 ⟨"a/a/x.cpp"⟩ List.mem_cons_self
  obtain rfl : entry = .file ByteArray.empty := Except.ok.inj (hfind.symm.trans rfl)
  exact hcount.symm

/-- The path of the file is not before itself. -/
theorem nestedNames_not_strict : nestedNames.root.Proper ∧
    Pattern.ofText (FilePath.mk "**/a/**/*.cpp").text.toList = .ok nestedPattern ∧
    nestedNames.expand ⟨"**/a/**/*.cpp"⟩ = .ok [⟨"a/a/x.cpp"⟩, ⟨"a/a/x.cpp"⟩] ∧
    ¬ [FilePath.mk "a/a/x.cpp", ⟨"a/a/x.cpp"⟩].Pairwise Before := by
  refine ⟨proper_nestedNames, ofText_nestedPattern, expand_nestedNames, fun hstrict => ?_⟩
  exact (List.pairwise_pair.mp hstrict).ne rfl

end Workspace

end DispatchAudit.Files
