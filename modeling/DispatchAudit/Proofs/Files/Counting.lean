import DispatchAudit.Proofs.Files.Downwards
import DispatchAudit.Proofs.Files.PatternTexts
import DispatchAudit.Proofs.Files.Walking

/-!
# How often a walk finds a path

With plain components every step of a walk goes one name further down. So whatever a walk finds
lies below the spot that it starts from, and what is found from one entry of a directory has
another path than what is found from the next one. A path is therefore found as often as its names
can be divided among the components.
-/

namespace DispatchAudit.Files

open FilePath

variable {workspace : Workspace} {components all rest : List PatternComponent}
  {component : PatternComponent} {spot next found : Spot} {entry : Entry} {name : String}
  {here names more : List String} {path : FilePath}

namespace Walk

/-! ### Where spots lie -/

/-- Whether the spot lies at the names from the working directory on. -/
structure Lies (workspace : Workspace) (names : List String) (spot : Spot) : Prop where
  isEntryName : ∀ name ∈ names, IsEntryName name
  path : spot.path = downwards names
  entries : spot.entries? = (workspace.below? names).bind Entry.entries?

theorem below?_append (names more : List String) :
    workspace.below? (names ++ more) = Entry.at? more (workspace.below? names) :=
  Entry.at?_append names more _

theorem lies_start (workspace : Workspace) : Lies workspace [] (spotAt workspace ⟨"."⟩) :=
  ⟨nofun, rfl, rfl⟩

theorem proper_of_below? (hroot : workspace.root.Proper)
    (hentry : workspace.below? names = some entry) :
    entry.Proper ∧ ∀ name ∈ names, IsProperName name := by
  obtain ⟨top, htop, hentry⟩ := Workspace.below?_eq_some_iff.mp hentry
  obtain ⟨above, hleads⟩ := Workspace.find_eq_ok_iff.mp htop
  exact (hleads.proper hroot).1.of_at? hentry

theorem isEntryName_of_below? (hroot : workspace.root.Proper)
    (hentry : workspace.below? names = some entry) : ∀ name ∈ names, IsEntryName name :=
  fun name hmem => ((proper_of_below? hroot hentry).2 name hmem).toIsEntryName

theorem Lies.append_singleton (hlies : Lies workspace here spot) (hname : IsEntryName name)
    {entries? : Option (List (String × Entry))}
    (hentries : entries? = (workspace.below? (here ++ [name])).bind Entry.entries?) :
    Lies workspace (here ++ [name]) ⟨spot.path.child name, entries?⟩ where
  isEntryName := List.forall_mem_append.mpr
    ⟨hlies.isEntryName, List.forall_mem_singleton.mpr hname⟩
  path := by rw [hlies.path, child_downwards hlies.isEntryName hname]
  entries := hentries

/-- The entries of a spot are those of the directory that lies there. -/
theorem Lies.below?_eq (hlies : Lies workspace here spot) {entries : List (String × Entry)}
    (hentries : spot.entries? = some entries) :
    workspace.below? here = some (.directory entries) := by
  rw [hlies.entries] at hentries
  obtain ⟨entry, hentry, hentries⟩ := Option.bind_eq_some_iff.mp hentries
  cases entry with
  | file content => cases hentries
  | directory others => rw [hentry, Option.some.inj hentries]

/-- An entry of a spot lies one name further down. -/
theorem Lies.entrySpot (hroot : workspace.root.Proper) (hlies : Lies workspace here spot)
    {entries : List (String × Entry)} (hentries : spot.entries? = some entries)
    {pair : String × Entry} (hpair : pair ∈ entries) :
    Lies workspace (here ++ [pair.1]) (entrySpot spot pair) ∧
      workspace.below? (here ++ [pair.1]) = some pair.2 := by
  have hdirectory := hlies.below?_eq hentries
  obtain ⟨hproper, _⟩ := proper_of_below? hroot hdirectory
  have hentry : workspace.below? (here ++ [pair.1]) = some pair.2 := by
    rw [below?_append, hdirectory, Entry.at?_directory]
    exact hproper.lookup_eq_some_iff.mpr hpair
  refine ⟨hlies.append_singleton (hproper.isProperName hpair).toIsEntryName ?_, hentry⟩
  rw [hentry]
  rfl

theorem Lies.of_lists (hroot : workspace.root.Proper) (hlies : Lies workspace here spot)
    (hlists : Lists spot next) : ∃ name entry, Lies workspace (here ++ [name]) next ∧
      workspace.below? (here ++ [name]) = some entry := by
  obtain ⟨name, hlisted⟩ := hlists
  obtain ⟨_, entries, hentries, pair, hpair, rfl, rfl⟩ := mem_listed_ok_iff.mp hlisted
  exact ⟨pair.1, pair.2, hlies.entrySpot hroot hentries hpair⟩

theorem not_isSpecial (hname : IsEntryName name) : isSpecial name = false := by
  rw [Bool.eq_false_iff]
  intro hspecial
  rcases isSpecial_iff.mp hspecial with rfl | rfl
  · exact absurd hname.not_idle (by decide)
  · exact hname.not_up rfl

theorem Lies.of_literal (hroot : workspace.root.Proper) (hlies : Lies workspace here spot)
    (hname : IsEntryName name) (hnext : literal? workspace spot name = some next) :
    ∃ entry, Lies workspace (here ++ [name]) next ∧
      workspace.below? (here ++ [name]) = some entry := by
  have hnames := List.forall_mem_append.mpr
    ⟨hlies.isEntryName, List.forall_mem_singleton.mpr hname⟩
  obtain ⟨hhas, rfl⟩ := literal?_eq_some_iff.mp hnext
  rw [not_isSpecial hname, if_neg (by decide), Workspace.has, hlies.path,
    child_downwards hlies.isEntryName hname] at hhas
  cases hfind : workspace.find (downwards (here ++ [name])) with
  | error fault => rw [hfind] at hhas; cases hhas
  | ok entry =>
      have hentry := ((Workspace.find_downwards hroot hnames).mp hfind).2
      refine ⟨entry, hlies.append_singleton hname ?_, hentry⟩
      rw [hlies.path, child_downwards hlies.isEntryName hname, hfind, hentry]
      rfl

/-- A step of a walk with plain components goes one name further down, to something that is
there. -/
theorem Lies.step (hroot : workspace.root.Proper) (hall : ∀ component ∈ all, component.IsPlain)
    (hlies : Lies workspace here spot) (hstep : Step workspace all spot next) :
    ∃ name entry, Lies workspace (here ++ [name]) next ∧
      workspace.below? (here ++ [name]) = some entry := by
  cases hstep with
  | listing hlists => exact hlies.of_lists hroot hlists
  | @literal name hmem hnext => exact ⟨name, hlies.of_literal hroot (hall _ hmem) hnext⟩
  | @special component hmem hnext =>
      obtain ⟨_, _, hdot, _⟩ := mem_specials_iff.mp hnext
      have hplain := hall component hmem
      cases component with
      | literal | directories => cases hdot
      | wild items => rw [show _ = false from hplain] at hdot; cases hdot

/-- What steps with plain components reach lies further down, and is there. -/
theorem Lies.of_reached (hroot : workspace.root.Proper)
    (hall : ∀ component ∈ all, component.IsPlain) (hlies : Lies workspace here spot)
    (hreached : Relation.TransGen (Step workspace all) spot found) :
    ∃ more ≠ [], ∃ entry, Lies workspace (here ++ more) found ∧
      workspace.below? (here ++ more) = some entry := by
  induction hreached with
  | single hstep =>
      obtain ⟨name, entry, hnext, hentry⟩ := hlies.step hroot hall hstep
      exact ⟨[name], List.cons_ne_nil name [], entry, hnext, hentry⟩
  | tail _ hstep ih =>
      obtain ⟨more, _, _, hmiddle, _⟩ := ih
      obtain ⟨name, entry, hnext, hentry⟩ := hmiddle.step hroot hall hstep
      rw [List.append_assoc] at hnext hentry
      exact ⟨more ++ [name], by simp, entry, hnext, hentry⟩

/-- What a walk with plain components finds lies at the spot that it starts from or below. -/
theorem Lies.of_mem_finds (hroot : workspace.root.Proper)
    (hplain : ∀ component ∈ components, component.IsPlain) (hlies : Lies workspace here spot)
    (hfound : .ok found ∈ finds workspace components spot) :
    ∃ more, Lies workspace (here ++ more) found := by
  rcases arrives_of_mem_finds (fun _ hmem => hmem) hfound with ⟨_, hsame⟩ | hreached
  · obtain rfl := Except.ok.inj hsame
    exact ⟨[], by rwa [List.append_nil]⟩
  · obtain ⟨more, _, _, hmore, _⟩ := hlies.of_reached hroot hplain hreached
    exact ⟨more, hmore⟩

/-! ### Counting finds -/

def isAt (path : FilePath) : Except Unlisted Spot → Bool
  | .ok spot => spot.path == path
  | .error _ => false

def hits (path : FilePath) (finds : List (Except Unlisted Spot)) : Nat := finds.countP (isAt path)

theorem hits_eq_zero {finds : List (Except Unlisted Spot)}
    (hother : ∀ found, .ok found ∈ finds → found.path ≠ path) : hits path finds = 0 := by
  rw [hits, List.countP_eq_zero]
  intro find hfind
  cases find with
  | error unlisted => exact Bool.false_ne_true
  | ok found => exact fun hsame => hother found hfind (beq_iff_eq.mp hsame)

/-- What is found from the entries of a directory is found from one of them, if what is found from
the others is something else. -/
theorem hits_entries {entries : List (String × Entry)} {pair : String × Entry}
    (hnodup : (entries.map Prod.fst).Nodup) (hpair : pair ∈ entries)
    {found : String × Entry → List (Except Unlisted Spot)}
    (hothers : ∀ other ∈ entries, other.1 ≠ pair.1 → hits path (found other) = 0) :
    hits path (entries.flatMap found) = hits path (found pair) := by
  obtain ⟨before, after, rfl⟩ := List.append_of_mem hpair
  have hzero : ∀ others ⊆ before ++ pair :: after, (∀ other ∈ others, other.1 ≠ pair.1) →
      hits path (others.flatMap found) = 0 := by
    intro others hsub hne
    rw [hits, List.countP_flatMap, List.sum_eq_zero_iff_forall_eq_nat, List.forall_mem_map]
    exact fun other hmem => hothers other (hsub hmem) (hne other hmem)
  rw [List.map_append, List.map_cons, List.nodup_append, List.nodup_cons] at hnodup
  obtain ⟨_, ⟨hafter, _⟩, hbefore⟩ := hnodup
  have hfront := hzero before (List.subset_append_left _ _) fun other hmem =>
    hbefore _ (List.mem_map_of_mem hmem) _ List.mem_cons_self
  have hback := hzero after (fun _ hmem => List.mem_append_right _ (List.mem_cons_of_mem _ hmem))
    fun other hmem hsame => hafter (hsame ▸ List.mem_map_of_mem hmem)
  rw [List.flatMap_append, List.flatMap_cons]
  simp only [hits, List.countP_append] at hfront hback ⊢
  omega

/-- What lies below one entry of a directory is not found from another. -/
theorem hits_elsewhere {other : String} {finds : List (Except Unlisted Spot)}
    (hnames : ∀ other ∈ here ++ name :: more, IsEntryName other) (hne : other ≠ name)
    (hbelow : ∀ found, .ok found ∈ finds → ∃ rest, Lies workspace (here ++ [other] ++ rest) found) :
    hits (downwards (here ++ name :: more)) finds = 0 := by
  refine hits_eq_zero fun found hfound hsame => ?_
  obtain ⟨rest, hlies⟩ := hbelow found hfound
  rw [hlies.path] at hsame
  have hnames := downwards_inj hlies.isEntryName hnames hsame
  rw [List.append_assoc] at hnames
  exact hne (List.cons.inj (List.append_cancel_left hnames)).1

/-- A spot with something below it is a directory with an entry on the way there. -/
theorem Lies.exists_entry (hlies : Lies workspace here spot)
    (hentry : workspace.below? (here ++ name :: more) = some entry) :
    ∃ entries next, spot.entries? = some entries ∧ entries.lookup name = some next ∧
      Entry.at? more (some next) = some entry := by
  rw [below?_append] at hentry
  cases hhere : workspace.below? here with
  | none => rw [hhere, Entry.at?_none] at hentry; cases hentry
  | some parent =>
      cases parent with
      | file content => rw [hhere, Entry.at?_file] at hentry; cases hentry
      | directory entries =>
          rw [hhere, Entry.at?_directory] at hentry
          cases hlookup : entries.lookup name with
          | none => rw [hlookup, Entry.at?_none] at hentry; cases hentry
          | some next =>
              rw [hlookup] at hentry
              exact ⟨entries, next, by rw [hlies.entries, hhere]; rfl, hlookup, hentry⟩

/-- A walk with components finds nothing but what lies strictly below. -/
theorem hits_here (hroot : workspace.root.Proper)
    (hplain : ∀ component ∈ components, component.IsPlain) (hne : components ≠ [])
    (hlies : Lies workspace here spot) :
    hits (downwards here) (finds workspace components spot) = 0 := by
  refine hits_eq_zero fun found hfound hsame => ?_
  rcases arrives_of_mem_finds (fun _ hmem => hmem) hfound with ⟨hnil, _⟩ | hreached
  · exact hne hnil
  · obtain ⟨more, hmore, _, hfound, _⟩ := hlies.of_reached hroot hplain hreached
    rw [hfound.path] at hsame
    have hnames := downwards_inj hfound.isEntryName hlies.isEntryName hsame
    exact hmore (List.append_right_eq_self.mp hnames)

/-- What a walk finds from the entries of a directory on the way to a path is found from the entry
that leads on. -/
theorem hits_entries_of_lies (hroot : workspace.root.Proper) (hlies : Lies workspace here spot)
    (hentry : workspace.below? (here ++ name :: more) = some entry)
    (hshort : (downwards (here ++ name :: more)).isTooLong = false)
    {finds : List (Except Unlisted Spot)} {found : String × Entry → List (Except Unlisted Spot)}
    (hfinds : ∀ entries, spot.entries? = some entries → spot.path.isTooLong = false →
      finds = entries.flatMap found)
    (hbelow : ∀ pair next, Lies workspace (here ++ [pair.1]) (entrySpot spot pair) →
      .ok next ∈ found pair → ∃ rest, Lies workspace (here ++ [pair.1] ++ rest) next) :
    ∃ next, Lies workspace (here ++ [name]) (entrySpot spot (name, next)) ∧
      workspace.below? (here ++ [name]) = some next ∧
      hits (downwards (here ++ name :: more)) finds =
        hits (downwards (here ++ name :: more)) (found (name, next)) := by
  have hnames := isEntryName_of_below? hroot hentry
  obtain ⟨entries, next, hentries, hlookup, _⟩ := hlies.exists_entry hentry
  obtain ⟨hdirectory, _⟩ := proper_of_below? hroot (hlies.below?_eq hentries)
  have hmem := hdirectory.lookup_eq_some_iff.mp hlookup
  have hhere : spot.path.isTooLong = false := by
    rw [hlies.path]
    exact isTooLong_downwards_of_append hnames hshort
  obtain ⟨hnext, hbelow?⟩ := hlies.entrySpot hroot hentries hmem
  refine ⟨next, hnext, hbelow?, ?_⟩
  rw [hfinds entries hentries hhere]
  refine hits_entries hdirectory.nodup hmem fun other hother hne => ?_
  have hlies' := (hlies.entrySpot hroot hentries hother).1
  exact hits_elsewhere hnames hne fun found hfound => hbelow other found hlies' hfound

/-- A walk that goes through everything below a spot finds a path as often as what it does with
each entry on the way says for the names from there on. -/
theorem hits_through (hroot : workspace.root.Proper)
    (hplain : ∀ component ∈ components, component.IsPlain) (hne : components ≠ [])
    {goOn : Find → List (Except Unlisted Spot)} {count : List String → Nat}
    (hfinds : ∀ spot, finds workspace components spot = (below spot).flatMap goOn)
    (hwithin : ∀ {here name next found}, Lies workspace here next →
      .ok found ∈ goOn (.ok (name, next)) → ∃ more, Lies workspace (here ++ more) found)
    (hcount : ∀ {here name more next}, Lies workspace (here ++ [name]) next →
      workspace.below? (here ++ name :: more) = some entry →
      (downwards (here ++ name :: more)).isTooLong = false →
      hits (downwards (here ++ name :: more)) (goOn (.ok (name, next))) = count (name :: more))
    (hnil : count [] = 0) (hlies : Lies workspace here spot)
    (hentry : workspace.below? (here ++ names) = some entry)
    (hshort : (downwards (here ++ names)).isTooLong = false) :
    hits (downwards (here ++ names)) (finds workspace components spot) =
      (names.tails.map count).sum := by
  induction names generalizing here spot with
  | nil =>
      rw [List.append_nil, hits_here hroot hplain hne hlies]
      simp [hnil]
  | cons name more ih =>
      have hentries : ∀ entries, spot.entries? = some entries → spot.path.isTooLong = false →
          finds workspace components spot = entries.flatMap fun pair =>
            goOn (.ok (pair.1, entrySpot spot pair)) ++
              finds workspace components (entrySpot spot pair) := by
        intro entries hentries hshort
        rw [hfinds, below_of_directory hentries hshort, List.flatMap_assoc]
        simp only [List.flatMap_cons, hfinds]
      obtain ⟨next, hnext, _, hhits⟩ := hits_entries_of_lies hroot hlies hentry hshort hentries
        fun pair found hpair hfound => by
          rcases List.mem_append.mp hfound with hfound | hfound
          · exact hwithin hpair hfound
          · exact hpair.of_mem_finds hroot hplain hfound
      have hhere := hcount hnext hentry hshort
      rw [hhits, hits, List.countP_append, ← hits, ← hits, hhere, List.tails_cons, List.map_cons,
        List.sum_cons]
      rw [List.append_cons] at hentry hshort ⊢
      rw [ih hnext hentry hshort]

/-! ### Every way to divide the names -/

theorem Lies.isSome_entries? (hlies : Lies workspace here spot)
    (hentry : workspace.below? here = some entry) :
    spot.entries?.isSome = entry.isDirectory := by
  rw [hlies.entries, hentry]
  rfl

/-- Two stars at the end find a directory, but not what lies further down. -/
theorem hits_kept (hroot : workspace.root.Proper) (hlies : Lies workspace (here ++ [name]) next)
    (hentry : workspace.below? (here ++ name :: more) = some entry) :
    hits (downwards (here ++ name :: more)) (kept (.ok (name, next))) =
      if more.isEmpty && entry.isDirectory then 1 else 0 := by
  have hpath : next.path = downwards (here ++ name :: more) ↔ more = [] := by
    rw [hlies.path]
    refine ⟨fun hsame => ?_, fun hnil => by rw [hnil]⟩
    have := downwards_inj hlies.isEntryName (isEntryName_of_below? hroot hentry) hsame
    simpa using this.symm
  cases more with
  | nil =>
      rw [kept, hlies.isSome_entries? hentry]
      cases entry.isDirectory <;> simp [hits, isAt, hpath]
  | cons other more =>
      rw [kept]
      split <;> simp [hits, isAt, hpath]

theorem sum_last (isDirectory : Bool) (names : List String) :
    (names.tails.map fun names => if names.tail.isEmpty && !names.isEmpty && isDirectory then 1
      else 0).sum = ways isDirectory [.directories] names := by
  induction names with
  | nil => simp [ways]
  | cons name more ih =>
      rw [List.tails_cons, List.map_cons, List.sum_cons, ih]
      cases more <;> simp [ways]

/-- A name that the component accepts is followed by what the other components find. -/
theorem hits_continued (hne : component ≠ .directories)
    (hrest : ∀ {here spot}, Lies workspace here spot →
      workspace.below? (here ++ more) = some entry → (downwards (here ++ more)).isTooLong = false →
      hits (downwards (here ++ more)) (finds workspace rest spot) =
        ways entry.isDirectory rest more)
    (hlies : Lies workspace (here ++ [name]) next)
    (hentry : workspace.below? (here ++ name :: more) = some entry)
    (hshort : (downwards (here ++ name :: more)).isTooLong = false) :
    hits (downwards (here ++ name :: more))
        (continued workspace component rest (.ok (name, next))) =
      ways entry.isDirectory (component :: rest) (name :: more) := by
  rw [ways_cons hne, continued]
  cases haccepts : component.accepts name with
  | false => rfl
  | true =>
      rw [List.append_cons] at hentry hshort ⊢
      rw [Bool.not_true, if_neg (by decide), if_pos rfl]
      split
      · exact hrest hlies hentry hshort
      · next hstops =>
          simp only [Bool.or_eq_true, List.isEmpty_iff, not_or, Bool.not_eq_true] at hstops
          obtain ⟨hleft, hfile⟩ := hstops
          cases more with
          | nil => rw [ways_nil_right hleft]; rfl
          | cons other more =>
              obtain ⟨entries, _, hentries, _⟩ := hlies.exists_entry hentry
              rw [hentries] at hfile
              cases hfile

theorem exists_lies_of_continued (hroot : workspace.root.Proper)
    (hplain : ∀ component ∈ rest, component.IsPlain) (hlies : Lies workspace here next)
    (hfound : .ok found ∈ continued workspace component rest (.ok (name, next))) :
    ∃ more, Lies workspace (here ++ more) found := by
  rcases mem_continued_iff.mp hfound with ⟨_, hlisting, _⟩ | ⟨_, _, hlisting, _, _, hfound⟩
  · cases hlisting
  · cases hlisting
    exact hlies.of_mem_finds hroot hplain hfound

theorem exists_lies_of_kept (hlies : Lies workspace here next)
    (hfound : .ok found ∈ kept (.ok (name, next))) :
    ∃ more, Lies workspace (here ++ more) found := by
  rcases mem_kept_iff.mp hfound with ⟨_, hlisting, _⟩ | ⟨_, _, hlisting, _, hsame⟩
  · cases hlisting
  · cases hlisting
    obtain rfl := Except.ok.inj hsame
    exact ⟨[], by rwa [List.append_nil]⟩

/-- A literal component leads on to its name if that is on the way to something. -/
theorem literal?_eq_some_of_lies (hroot : workspace.root.Proper) (hlies : Lies workspace here spot)
    (hentry : workspace.below? (here ++ name :: more) = some entry)
    (hshort : (downwards (here ++ name :: more)).isTooLong = false) :
    ∃ next, literal? workspace spot name = some next ∧ Lies workspace (here ++ [name]) next := by
  have hnames := isEntryName_of_below? hroot hentry
  rw [List.append_cons] at hentry hshort hnames
  have hname := hnames name (List.mem_append_left _ (List.mem_append_right _ List.mem_cons_self))
  have hhere := fun other hmem => hnames other (List.mem_append_left more hmem)
  obtain ⟨next, hnext⟩ : ∃ next, workspace.below? (here ++ [name]) = some next := by
    rw [below?_append] at hentry
    cases hbelow : workspace.below? (here ++ [name]) with
    | none => rw [hbelow, Entry.at?_none] at hentry; cases hentry
    | some next => exact ⟨next, rfl⟩
  have hchild : spot.path.child name = downwards (here ++ [name]) := by
    rw [hlies.path, child_downwards hlies.isEntryName hname]
  have hfind : workspace.find (spot.path.child name) = .ok next := by
    rw [hchild, Workspace.find_downwards hroot hhere]
    exact ⟨isTooLong_downwards_of_append hnames hshort, hnext⟩
  refine ⟨spotAt workspace (spot.path.child name), literal?_eq_some_iff.mpr ⟨?_, rfl⟩,
    hlies.append_singleton hname ?_⟩
  · rw [not_isSpecial hname, if_neg (by decide), Workspace.has, hfind]
    rfl
  · rw [hfind, hnext]
    rfl

/-- A walk with plain components finds a path as often as its names can be divided among the
components. -/
theorem hits_finds (hroot : workspace.root.Proper)
    (hplain : ∀ component ∈ components, component.IsPlain) (hlies : Lies workspace here spot)
    (hentry : workspace.below? (here ++ names) = some entry)
    (hshort : (downwards (here ++ names)).isTooLong = false) :
    hits (downwards (here ++ names)) (finds workspace components spot) =
      ways entry.isDirectory components names := by
  induction components using PatternComponent.list_induction generalizing here names spot with
  | nil =>
      have hpath : spot.path = downwards (here ++ names) ↔ names = [] := by
        rw [hlies.path]
        refine ⟨fun hsame => ?_, fun hnil => by rw [hnil, List.append_nil]⟩
        have := downwards_inj hlies.isEntryName (isEntryName_of_below? hroot hentry) hsame
        simpa using this
      rw [finds]
      cases names with
      | nil => simp [hits, isAt, hlies.path, ways]
      | cons name more => simp [hits, isAt, hpath, ways]
  | literal expected rest ih =>
      obtain ⟨hexpected, hrest⟩ := List.forall_mem_cons.mp hplain
      cases names with
      | nil =>
          rw [List.append_nil, hits_here hroot hplain (List.cons_ne_nil _ _) hlies,
            ways_nil_right (List.cons_ne_nil _ _)]
      | cons name more =>
          rw [ways_cons PatternComponent.noConfusion, finds]
          by_cases hname : expected = name
          · subst hname
            obtain ⟨next, hnext, hlies⟩ := literal?_eq_some_of_lies hroot hlies hentry hshort
            rw [hnext, Option.toList_some, List.flatMap_singleton, List.append_cons,
              PatternComponent.accepts, beq_self_eq_true, if_pos rfl]
            rw [List.append_cons] at hentry hshort
            exact ih hrest hlies hentry hshort
          · rw [PatternComponent.accepts, beq_false_of_ne hname, if_neg (by decide)]
            have hbelow : ∀ found, .ok found ∈ (literal? workspace spot expected).toList.flatMap
                (finds workspace rest) →
                ∃ more, Lies workspace (here ++ [expected] ++ more) found := by
              intro found hfound
              obtain ⟨next, hnext, hfound⟩ := List.mem_flatMap.mp hfound
              obtain ⟨_, hnext, _⟩ :=
                hlies.of_literal hroot hexpected (Option.mem_toList.mp hnext)
              exact hnext.of_mem_finds hroot hrest hfound
            exact hits_elsewhere (isEntryName_of_below? hroot hentry) hname hbelow
  | wild items rest ih =>
      obtain ⟨hitems, hrest⟩ := List.forall_mem_cons.mp hplain
      cases names with
      | nil =>
          rw [List.append_nil, hits_here hroot hplain (List.cons_ne_nil _ _) hlies,
            ways_nil_right (List.cons_ne_nil _ _)]
      | cons name more =>
          have hentries : ∀ entries, spot.entries? = some entries → spot.path.isTooLong = false →
              finds workspace (.wild items :: rest) spot = entries.flatMap fun pair =>
                continued workspace (.wild items) rest (.ok (pair.1, entrySpot spot pair)) := by
            intro entries hentries hshort
            rw [finds_wild, specials_eq_nil workspace hitems, listed_of_directory hentries hshort,
              List.flatMap_map]
            rfl
          obtain ⟨next, hnext, _, hhits⟩ := hits_entries_of_lies hroot hlies hentry hshort hentries
            fun pair found hpair hfound => exists_lies_of_continued hroot hrest hpair hfound
          rw [hhits]
          exact hits_continued PatternComponent.noConfusion
            (fun hlies hentry hshort => ih hrest hlies hentry hshort) hnext hentry hshort
  | last =>
      rw [← sum_last]
      refine hits_through hroot hplain (List.cons_ne_nil _ _) (finds_last workspace)
        exists_lies_of_kept (fun hlies hentry _ => ?_) rfl hlies hentry hshort
      rw [hits_kept hroot hlies hentry]
      simp
  | again rest ih =>
      rw [finds, ways_again]
      exact ih (List.forall_mem_cons.mp hplain).2 hlies hentry hshort
  | through component rest hne ih =>
      have hrest := (List.forall_mem_cons.mp (List.forall_mem_cons.mp hplain).2).2
      rw [ways_through hne]
      refine hits_through hroot hplain (List.cons_ne_nil _ _) (finds_through workspace hne rest)
        (exists_lies_of_continued hroot hrest) (fun hlies hentry hshort => ?_)
        (ways_nil_right (List.cons_ne_nil _ _)) hlies hentry hshort
      exact hits_continued hne (fun hlies hentry hshort => ih hrest hlies hentry hshort) hlies
        hentry hshort

end Walk

end DispatchAudit.Files
