import DispatchAudit.Proofs.Files.Matching
import DispatchAudit.Proofs.Files.Trees
import Mathlib.Logic.Relation

/-!
# What a walk goes through

A walk takes one step after another. A step lists the entries of a directory, looks up the name of
a literal component, or reaches a directory as one dot or two. Whatever a walk finds is reached by
such steps, and so is every directory that it cannot list. So what each step keeps holds of all
that a walk finds: a spot stands for what its path leads to, unless the path is too long to be
looked up.
-/

namespace DispatchAudit.Files

open FilePath

variable {workspace : Workspace} {components all rest : List PatternComponent}
  {component : PatternComponent} {spot next found reached : Spot} {unlisted : Unlisted}
  {find : Except Unlisted Spot} {name : String}

namespace Walk

/-! ### Listing -/

def entrySpot (spot : Spot) (pair : String × Entry) : Spot :=
  ⟨spot.path.child pair.1, pair.2.entries?⟩

theorem listed_of_directory {entries : List (String × Entry)}
    (hentries : spot.entries? = some entries) (hshort : spot.path.isTooLong = false) :
    listed spot = entries.map fun pair => .ok (pair.1, entrySpot spot pair) := by
  rw [listed, hentries]
  exact if_neg (Bool.eq_false_iff.mp hshort)

theorem fromEntry_eq (directory : FilePath) (name : String) (entry : Entry) :
    fromEntry directory name entry =
      .ok (name, ⟨directory.child name, entry.entries?⟩) ::
        below ⟨directory.child name, entry.entries?⟩ := by
  cases entry <;> rw [fromEntry] <;> rfl

theorem fromEntries_eq (directory : FilePath) (entries : List (String × Entry)) :
    fromEntries directory entries =
      entries.flatMap fun pair => fromEntry directory pair.1 pair.2 := by
  induction entries with
  | nil => rw [fromEntries, List.flatMap_nil]
  | cons pair rest ih => rw [fromEntries, ih, List.flatMap_cons]

theorem below_of_directory {entries : List (String × Entry)}
    (hentries : spot.entries? = some entries) (hshort : spot.path.isTooLong = false) :
    below spot = entries.flatMap fun pair =>
      .ok (pair.1, entrySpot spot pair) :: below (entrySpot spot pair) := by
  rw [below, hentries]
  simp only [hshort, Bool.false_eq_true, if_false, fromEntries_eq, fromEntry_eq]
  rfl

theorem listed_of_file (hentries : spot.entries? = none) : listed spot = [] := by
  rw [listed, hentries]

theorem below_of_file (hentries : spot.entries? = none) : below spot = [] := by
  rw [below, hentries]

theorem listed_of_long {entries : List (String × Entry)} (hentries : spot.entries? = some entries)
    (hlong : spot.path.isTooLong = true) : listed spot = [.error ⟨spot.path⟩] := by
  rw [listed, hentries]
  exact if_pos hlong

theorem below_eq_listed_of_long {entries : List (String × Entry)}
    (hentries : spot.entries? = some entries) (hlong : spot.path.isTooLong = true) :
    below spot = listed spot := by
  rw [listed_of_long hentries hlong, below, hentries]
  exact if_pos hlong

def Lists (spot next : Spot) : Prop := ∃ name, .ok (name, next) ∈ listed spot

/-- What is found below a spot is listed in a spot that is reached from it by listing. -/
theorem exists_listed_of_mem_below {find : Find} (hfind : find ∈ below spot) :
    ∃ parent, Relation.ReflTransGen Lists spot parent ∧ find ∈ listed parent := by
  obtain ⟨entry, hentry⟩ : ∃ entry : Entry, spot.entries? = entry.entries? := by
    cases hentries : spot.entries? with
    | none => exact ⟨.file ByteArray.empty, rfl⟩
    | some entries => exact ⟨.directory entries, rfl⟩
  induction entry using Entry.tree_induction generalizing spot with
  | file content =>
      rw [below_of_file hentry] at hfind
      cases hfind
  | directory entries ih =>
      cases hlong : spot.path.isTooLong with
      | true => exact ⟨spot, .refl, below_eq_listed_of_long hentry hlong ▸ hfind⟩
      | false =>
          rw [below_of_directory hentry hlong] at hfind
          obtain ⟨pair, hpair, hfind⟩ := List.mem_flatMap.mp hfind
          have hlisted : .ok (pair.1, entrySpot spot pair) ∈ listed spot := by
            rw [listed_of_directory hentry hlong]
            exact List.mem_map_of_mem hpair
          rcases List.mem_cons.mp hfind with rfl | hfind
          · exact ⟨spot, .refl, hlisted⟩
          · obtain ⟨parent, hreached, hparent⟩ := ih pair hpair hfind rfl
            exact ⟨parent, .head ⟨pair.1, hlisted⟩ hreached, hparent⟩

theorem mem_listed_ok_iff : .ok (name, next) ∈ listed spot ↔
    spot.path.isTooLong = false ∧ ∃ entries, spot.entries? = some entries ∧
      ∃ pair ∈ entries, pair.1 = name ∧ entrySpot spot pair = next := by
  cases hentries : spot.entries? with
  | none => simp [listed_of_file hentries]
  | some entries =>
      cases hlong : spot.path.isTooLong with
      | true => simp [listed_of_long hentries hlong]
      | false => simp [listed_of_directory hentries hlong]

theorem mem_listed_error_iff : .error unlisted ∈ listed spot ↔
    spot.path.isTooLong = true ∧ spot.entries?.isSome = true ∧ unlisted = ⟨spot.path⟩ := by
  cases hentries : spot.entries? with
  | none => simp [listed_of_file hentries]
  | some entries =>
      cases hlong : spot.path.isTooLong with
      | true => simp [listed_of_long hentries hlong]
      | false => simp [listed_of_directory hentries hlong]

theorem specials_eq_nil (workspace : Workspace) (hdot : component.beginsWithDot = false)
    (spot : Spot) : specials workspace component spot = [] := by
  rw [specials, hdot, Bool.and_false]
  exact if_neg Bool.false_ne_true

/-! ### Steps -/

/-- Whether a walk with the components can go from one spot to the other in one step. -/
inductive Step (workspace : Workspace) (components : List PatternComponent) :
    Spot → Spot → Prop where
  | listing {spot next : Spot} (hlists : Lists spot next) : Step workspace components spot next
  | literal {spot next : Spot} {name : String} (hmem : .literal name ∈ components)
      (hnext : literal? workspace spot name = some next) : Step workspace components spot next
  | special {spot next : Spot} {component : PatternComponent} (hmem : component ∈ components)
      (hnext : next ∈ specials workspace component spot) : Step workspace components spot next

/-- Whether steps from the spot lead to a find: to the spot found, by at least one step, or to the
directory that cannot be listed. -/
def Arrives (workspace : Workspace) (components : List PatternComponent) (spot : Spot) :
    Except Unlisted Spot → Prop
  | .ok found => Relation.TransGen (Step workspace components) spot found
  | .error unlisted => ∃ reached, Relation.ReflTransGen (Step workspace components) spot reached ∧
      .error unlisted ∈ listed reached

theorem Arrives.of_reached (hreached : Relation.TransGen (Step workspace all) spot reached)
    (hfind : rest = [] ∧ find = .ok reached ∨ Arrives workspace all reached find) :
    Arrives workspace all spot find := by
  rcases hfind with ⟨_, rfl⟩ | harrives
  · exact hreached
  · cases find with
    | ok found => exact hreached.trans harrives
    | error unlisted =>
        obtain ⟨last, hlast, hunlisted⟩ := harrives
        exact ⟨last, hreached.to_reflTransGen.trans hlast, hunlisted⟩

/-- What the rest of the components finds from an entry that was listed, if the component accepts
its name. -/
def continued (workspace : Workspace) (component : PatternComponent)
    (rest : List PatternComponent) : Find → List (Except Unlisted Spot)
  | .error unlisted => [.error unlisted]
  | .ok (name, next) =>
    if !component.accepts name then []
    else if rest.isEmpty || next.entries?.isSome then finds workspace rest next
    else []

theorem finds_wild (workspace : Workspace) (items : List PatternItem)
    (rest : List PatternComponent) (spot : Spot) :
    finds workspace (.wild items :: rest) spot =
      (specials workspace (.wild items) spot).flatMap (finds workspace rest) ++
        (listed spot).flatMap (continued workspace (.wild items) rest) := by
  rw [finds]
  rfl

theorem finds_through (workspace : Workspace) (hne : component ≠ .directories)
    (rest : List PatternComponent) (spot : Spot) :
    finds workspace (.directories :: component :: rest) spot =
      (below spot).flatMap (continued workspace component rest) := by
  rw [finds]
  · rfl
  · exact hne

/-- What two stars at the end find from an entry that was listed below a directory. -/
def kept : Find → List (Except Unlisted Spot)
  | .error unlisted => [.error unlisted]
  | .ok (_, next) => if next.entries?.isSome then [.ok next] else []

theorem finds_last (workspace : Workspace) (spot : Spot) :
    finds workspace [.directories] spot = (below spot).flatMap kept := by
  rw [finds]
  rfl

theorem mem_kept_iff {listing : Find} : find ∈ kept listing ↔
    (∃ unlisted, listing = .error unlisted ∧ find = .error unlisted) ∨
    ∃ name next, listing = .ok (name, next) ∧ next.entries?.isSome = true ∧ find = .ok next := by
  cases listing with
  | error unlisted => simp [kept]
  | ok listing =>
      obtain ⟨name, next⟩ := listing
      rw [kept]
      cases hentries : next.entries?.isSome <;> simp_all

theorem mem_continued_iff {listing : Find} : find ∈ continued workspace component rest listing ↔
    (∃ unlisted, listing = .error unlisted ∧ find = .error unlisted) ∨
    ∃ name next, listing = .ok (name, next) ∧ component.accepts name = true ∧
      (rest = [] ∨ next.entries?.isSome = true) ∧ find ∈ finds workspace rest next := by
  cases listing with
  | error unlisted => simp [continued]
  | ok listing =>
      obtain ⟨name, next⟩ := listing
      rw [continued]
      cases haccepts : component.accepts name with
      | false => simp [haccepts]
      | true =>
          cases hgoes : rest.isEmpty || next.entries?.isSome with
          | false => simp_all
          | true => simp_all

/-- Steps lead from a spot to whatever a walk finds from there, unless no component is left. -/
theorem arrives_of_mem_finds (hall : ∀ component ∈ components, component ∈ all)
    (hfind : find ∈ finds workspace components spot) :
    components = [] ∧ find = .ok spot ∨ Arrives workspace all spot find := by
  have hlisting : ∀ {spot parent : Spot}, Relation.ReflTransGen Lists spot parent →
      Relation.ReflTransGen (Step workspace all) spot parent :=
    Relation.ReflTransGen.mono (fun _ _ hlists => Step.listing hlists) _ _
  have hcontinued : ∀ {component : PatternComponent} {rest : List PatternComponent}
      {spot parent : Spot} {listing : Find},
      (∀ next, find ∈ finds workspace rest next →
        rest = [] ∧ find = .ok next ∨ Arrives workspace all next find) →
      Relation.ReflTransGen Lists spot parent → listing ∈ listed parent →
      find ∈ continued workspace component rest listing → Arrives workspace all spot find := by
    intro component rest spot parent listing hrest hreached hlisted hfind
    rcases mem_continued_iff.mp hfind with ⟨unlisted, rfl, rfl⟩ | ⟨name, next, rfl, _, _, hfind⟩
    · exact ⟨parent, hlisting hreached, hlisted⟩
    · have hnext : Step workspace all parent next := .listing ⟨name, hlisted⟩
      exact .of_reached (.tail' (hlisting hreached) hnext) (hrest next hfind)
  induction components using PatternComponent.list_induction generalizing spot with
  | nil =>
      rw [finds] at hfind
      exact .inl ⟨rfl, List.mem_singleton.mp hfind⟩
  | literal name rest ih =>
      obtain ⟨hmem, hall⟩ := List.forall_mem_cons.mp hall
      rw [finds] at hfind
      obtain ⟨next, hnext, hfind⟩ := List.mem_flatMap.mp hfind
      have hstep := Step.literal hmem (Option.mem_toList.mp hnext)
      exact .inr (.of_reached (.single hstep) (ih hall hfind))
  | wild items rest ih =>
      obtain ⟨hmem, hall⟩ := List.forall_mem_cons.mp hall
      rw [finds_wild, List.mem_append] at hfind
      right
      rcases hfind with hfind | hfind
      · obtain ⟨next, hnext, hfind⟩ := List.mem_flatMap.mp hfind
        exact .of_reached (.single (.special hmem hnext)) (ih hall hfind)
      · obtain ⟨listing, hlisted, hfind⟩ := List.mem_flatMap.mp hfind
        exact hcontinued (fun next => ih hall) .refl hlisted hfind
  | last =>
      rw [finds_last] at hfind
      obtain ⟨listing, hbelow, hfind⟩ := List.mem_flatMap.mp hfind
      obtain ⟨parent, hreached, hlisted⟩ := exists_listed_of_mem_below hbelow
      right
      rcases mem_kept_iff.mp hfind with ⟨unlisted, rfl, rfl⟩ | ⟨name, next, rfl, _, rfl⟩
      · exact ⟨parent, hlisting hreached, hlisted⟩
      · exact .tail' (hlisting hreached) (.listing ⟨name, hlisted⟩)
  | again rest ih =>
      rw [finds] at hfind
      rcases ih (List.forall_mem_cons.mp hall).2 hfind with ⟨hnil, _⟩ | harrives
      · cases hnil
      · exact .inr harrives
  | through component rest hne ih =>
      rw [finds_through workspace hne] at hfind
      obtain ⟨listing, hbelow, hfind⟩ := List.mem_flatMap.mp hfind
      obtain ⟨parent, hreached, hlisted⟩ := exists_listed_of_mem_below hbelow
      have hall := (List.forall_mem_cons.mp (List.forall_mem_cons.mp hall).2).2
      exact .inr (hcontinued (fun next => ih hall) hreached hlisted hfind)

/-! ### What spots stand for -/

/-- Whether a spot stands for what its path leads to, as long as the path can be looked up. -/
structure Stands (workspace : Workspace) (spot : Spot) : Prop where
  found : ∀ entries, spot.entries? = some entries → spot.path.isTooLong = false →
    workspace.find spot.path = .ok (.directory entries)
  not_here : spot.entries?.isSome = true → spot.path.isTooLong = true →
    spot.path.sameParts ⟨"."⟩ = false

def Present (workspace : Workspace) (spot : Spot) : Prop :=
  spot.path.isTooLong = false → workspace.has spot.path = true

theorem Present.of_leads {place : Place}
    (hleads : spot.path.isTooLong = false → workspace.Leads spot.path place) :
    Present workspace spot := by
  intro hshort
  rw [Workspace.has, Workspace.find_eq_ok_iff.mpr ⟨place.1, hleads hshort⟩]
  rfl

theorem exists_find_of_spotAt {path : FilePath} {entries : List (String × Entry)}
    (hentries : (spotAt workspace path).entries? = some entries) :
    workspace.find path = .ok (.directory entries) := by
  cases hfind : workspace.find path with
  | error fault => simp [spotAt, hfind, Except.toOption] at hentries
  | ok entry =>
      cases entry with
      | file content => simp [spotAt, hfind, Except.toOption, Entry.entries?] at hentries
      | directory others =>
          simp only [spotAt, hfind, Except.toOption, Option.bind_some, Entry.entries?,
            Option.some.injEq] at hentries
          rw [hentries]

theorem stands_spotAt (workspace : Workspace) (path : FilePath) :
    Stands workspace (spotAt workspace path) := by
  refine ⟨fun entries hentries _ => exists_find_of_spotAt hentries, fun hentries hlong => ?_⟩
  obtain ⟨entries, hentries⟩ := Option.isSome_iff_exists.mp hentries
  obtain ⟨above, hleads⟩ := Workspace.find_eq_ok_iff.mp (exists_find_of_spotAt hentries)
  have hshort : path.isTooLong = false := hleads.short
  rw [show path.isTooLong = true from hlong] at hshort
  cases hshort

theorem sameParts_child (hname : IsEntryName name) (path : FilePath) :
    (path.child name).sameParts ⟨"."⟩ = false := by
  have hhere : (FilePath.mk ".").parts = [.here] := by decide
  have hparts : Part.name name ∈ (path.child name).parts := by
    rw [child]
    split
    · rw [parts_entry hname]
      exact List.mem_singleton_self _
    · rw [parts_join hname]
      exact List.mem_append_right _ (List.mem_singleton_self _)
  rw [sameParts, hhere, beq_eq_false_iff_ne]
  intro hsame
  rw [hsame] at hparts
  cases List.mem_singleton.mp hparts

theorem Stands.of_lists (hroot : workspace.root.Proper) (hstands : Stands workspace spot)
    (hlists : Lists spot next) : Stands workspace next ∧ Present workspace next := by
  obtain ⟨_, hlisted⟩ := hlists
  obtain ⟨hshort, entries, hentries, pair, hpair, rfl, rfl⟩ := mem_listed_ok_iff.mp hlisted
  obtain ⟨above, hleads⟩ := Workspace.find_eq_ok_iff.mp (hstands.found entries hentries hshort)
  have hname := (hleads.proper hroot).1.isProperName hpair
  have hentry : (entrySpot spot pair).path.isTooLong = false →
      workspace.Leads (entrySpot spot pair).path (.directory entries :: above, pair.2) :=
    fun hshort => hleads.leads_entry hroot hpair hshort
  refine ⟨⟨fun others hothers hshort => ?_, fun _ _ => sameParts_child hname.toIsEntryName _⟩,
    .of_leads hentry⟩
  have hdirectory : pair.2 = .directory others := by
    revert hothers
    rw [entrySpot]
    cases pair.2 with
    | file content => nofun
    | directory kept => exact fun hothers => congrArg _ (Option.some.inj hothers)
  rw [← hdirectory]
  exact Workspace.find_eq_ok_iff.mpr ⟨_, hentry hshort⟩

theorem isSpecial_iff : isSpecial name = true ↔ name = "." ∨ name = ".." := by
  simp [isSpecial]

/-- One dot and two dots lead from a directory to a directory. -/
theorem exists_enter_special {name : String} (hspecial : isSpecial name = true)
    (above : List Entry) (entries : List (String × Entry)) : Workspace.IsPiece name ∧
      ∃ place, Place.enter (above, .directory entries) name.toList = .ok place := by
  rcases isSpecial_iff.mp hspecial with rfl | rfl
  · exact ⟨Workspace.isPiece_here, _, Place.enter_here above entries⟩
  · exact ⟨Workspace.isPiece_up, _, Place.enter_up above entries⟩

theorem literal?_eq_some_iff : literal? workspace spot name = some next ↔
    (if isSpecial name then spot.entries?.isSome else workspace.has (spot.path.child name)) = true ∧
      spotAt workspace (spot.path.child name) = next := by
  rw [literal?]
  split <;> simp

theorem mem_specials_iff : next ∈ specials workspace component spot ↔
    spot.entries?.isSome = true ∧ spot.path.isTooLong = false ∧ component.beginsWithDot = true ∧
      ∃ name, isSpecial name = true ∧ component.accepts name = true ∧
        spotAt workspace (spot.path.join name) = next := by
  rw [specials]
  split
  · next hgoes =>
      simp only [Bool.and_eq_true, Bool.not_eq_true'] at hgoes
      obtain ⟨⟨hentries, hshort⟩, hdot⟩ := hgoes
      simp only [hentries, hshort, hdot, true_and, List.mem_map, List.mem_filter, List.mem_cons,
        List.not_mem_nil, or_false, isSpecial_iff, and_assoc]
      exact exists_congr fun name => and_congr_left fun _ => or_comm
  · next hstops =>
      simp only [Bool.and_eq_true, Bool.not_eq_true', not_and, Bool.not_eq_true] at hstops
      refine iff_of_false List.not_mem_nil ?_
      rintro ⟨hentries, hshort, hdot, _⟩
      rw [hstops ⟨hentries, hshort⟩] at hdot
      cases hdot

/-- A dot or two behind a directory lead to a directory, unless the path becomes too long. -/
theorem Stands.present_special (hstands : Stands workspace spot) (hname : isSpecial name = true)
    (hentries : spot.entries?.isSome = true) :
    Present workspace (spotAt workspace (spot.path.child name)) ∧
      (spot.path.isTooLong = false →
        Present workspace (spotAt workspace (spot.path.join name))) := by
  obtain ⟨entries, hdirectory⟩ := Option.isSome_iff_exists.mp hentries
  cases hlong : spot.path.isTooLong with
  | true =>
      refine ⟨fun hshort => ?_, nofun⟩
      have hchild : spot.path.child name = spot.path.join name := by
        rw [child, hstands.not_here hentries hlong, if_neg (by decide)]
      have hpiece := (exists_enter_special hname [] entries).1
      rw [show (spotAt workspace (spot.path.child name)).path = spot.path.child name from rfl,
        hchild, Workspace.isTooLong_join hpiece.slash_not_mem hlong] at hshort
      cases hshort
  | false =>
      obtain ⟨above, hleads⟩ := Workspace.find_eq_ok_iff.mp (hstands.found entries hdirectory hlong)
      obtain ⟨hpiece, place, henter⟩ := exists_enter_special hname above entries
      exact ⟨.of_leads fun hshort =>
          (Workspace.leads_child_iff hpiece hleads).mpr ⟨hshort, henter⟩,
        fun _ => .of_leads fun hshort =>
          (Workspace.leads_join_iff hpiece hleads).mpr ⟨hshort, henter⟩⟩

/-- A step from a spot that stands leads to a spot that stands, and whose path leads somewhere. -/
theorem Stands.step (hroot : workspace.root.Proper) (hstands : Stands workspace spot)
    (hstep : Step workspace components spot next) :
    Stands workspace next ∧ Present workspace next := by
  cases hstep with
  | listing hlists => exact hstands.of_lists hroot hlists
  | @literal name _ hnext =>
      obtain ⟨hleads, rfl⟩ := literal?_eq_some_iff.mp hnext
      refine ⟨stands_spotAt workspace _, ?_⟩
      split at hleads
      · next hname => exact (hstands.present_special hname hleads).1
      · exact fun _ => hleads
  | special _ hnext =>
      obtain ⟨hentries, hshort, _, name, hname, _, rfl⟩ := mem_specials_iff.mp hnext
      exact ⟨stands_spotAt workspace _, (hstands.present_special hname hentries).2 hshort⟩

/-- Whatever is reached from a spot that stands, stands itself, and its path leads somewhere. -/
theorem Stands.of_reached (hroot : workspace.root.Proper) (hstands : Stands workspace spot)
    (hreached : Relation.TransGen (Step workspace components) spot reached) :
    Stands workspace reached ∧ Present workspace reached := by
  induction hreached with
  | single hstep => exact hstands.step hroot hstep
  | tail _ hstep ih => exact ih.1.step hroot hstep

/-- Whatever a walk finds leads somewhere under the path it is found by. -/
theorem has_of_mem_finds (hroot : workspace.root.Proper) (hne : components ≠ [])
    {path : FilePath} (hfound : .ok found ∈ finds workspace components (spotAt workspace path))
    (hshort : found.path.isTooLong = false) : workspace.has found.path = true := by
  rcases arrives_of_mem_finds (fun _ hmem => hmem) hfound with ⟨hnil, _⟩ | hreached
  · exact absurd hnil hne
  · exact ((stands_spotAt workspace path).of_reached hroot hreached).2 hshort

end Walk

end DispatchAudit.Files
