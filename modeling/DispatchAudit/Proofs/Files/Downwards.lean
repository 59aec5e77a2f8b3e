import DispatchAudit.Proofs.Files.Trees
import DispatchAudit.Proofs.Files.Writing
import Mathlib.Data.List.Induction

/-!
# Paths that lead downwards

A path can be put together from the names of entries. It leads from the working directory to the
entry at these names, and different names make different paths. So in a proper tree looking up
such a path says what lies at its names, as long as the path is not too long.
-/

namespace DispatchAudit.Files

open FilePath

variable {entry found : Entry} {entries : List (String × Entry)} {name : String}
  {names more others : List String} {path : FilePath} {workspace : Workspace} {place : Place}

/-! ### Names and texts -/

namespace FilePath

/-- The path with these names from the working directory on, which itself is a dot. -/
def downwards : List String → FilePath
  | [] => ⟨"."⟩
  | names => ⟨String.ofList (joinPieces (names.map String.toList))⟩

theorem IsEntryName.toList_ne_nil (hname : IsEntryName name) : name.toList ≠ [] := by
  intro hempty
  have hidle := hname.not_idle
  rw [hempty] at hidle
  cases hidle

theorem pieces_downwards (hne : names ≠ []) (hnames : ∀ name ∈ names, IsEntryName name) :
    (downwards names).pieces = names.map String.toList := by
  cases names with
  | nil => exact absurd rfl hne
  | cons name rest =>
      refine pieces_joinPieces (List.cons_ne_nil _ _) (List.forall_mem_map.mpr ?_)
      exact fun name hmem => (hnames name hmem).slash_not_mem

theorem pieceNames_downwards (hne : names ≠ []) (hnames : ∀ name ∈ names, IsEntryName name) :
    (downwards names).pieceNames = names := by
  rw [pieceNames, pieces_downwards hne hnames, List.map_map]
  exact List.map_id'' (fun _ => String.ofList_toList) names

theorem downwards_pieceNames (path : FilePath) : downwards path.pieceNames = path := by
  have hne : path.pieceNames ≠ [] :=
    fun hnil => List.splitOn_ne_nil '/' path.text.toList (List.map_eq_nil_iff.mp hnil)
  obtain ⟨first, rest, hnames⟩ := List.exists_cons_of_ne_nil hne
  rw [hnames, downwards, ← hnames, map_toList_pieceNames, joinPieces_pieces, String.ofList_toList]
  exact List.cons_ne_nil first rest

theorem downwards_inj (hnames : ∀ name ∈ names, IsEntryName name)
    (hothers : ∀ name ∈ others, IsEntryName name) (hsame : downwards names = downwards others) :
    names = others := by
  have hhere : ∀ {names : List String}, (∀ name ∈ names, IsEntryName name) →
      downwards names = ⟨"."⟩ → names = [] := by
    intro names hnames hdot
    by_contra hne
    have hpieces := pieceNames_downwards hne hnames
    rw [hdot] at hpieces
    have hmem : "." ∈ names := hpieces ▸ List.mem_singleton_self "."
    exact absurd (hnames "." hmem).not_idle (by decide)
  by_cases hne : names = []
  · subst hne
    exact (hhere hothers hsame.symm).symm
  · by_cases hne' : others = []
    · subst hne'
      exact hhere hnames hsame
    · rw [← pieceNames_downwards hne hnames, hsame, pieceNames_downwards hne' hothers]

theorem not_sameParts_downwards (hne : names ≠ []) (hnames : ∀ name ∈ names, IsEntryName name) :
    (downwards names).sameParts ⟨"."⟩ = false := by
  obtain ⟨first, rest, rfl⟩ := List.exists_cons_of_ne_nil hne
  refine Workspace.not_sameParts_of_head? ?_
  rw [pieces_downwards hne hnames, List.map_cons, List.head?_cons]
  intro hdot
  have hidle := (hnames first List.mem_cons_self).not_idle
  rw [Option.some.inj hdot] at hidle
  cases hidle

theorem nil_not_mem_pieces_downwards (hne : names ≠ [])
    (hnames : ∀ name ∈ names, IsEntryName name) : [] ∉ (downwards names).pieces := by
  rw [pieces_downwards hne hnames]
  intro hmem
  obtain ⟨name, hmem, hnil⟩ := List.mem_map.mp hmem
  exact (hnames name hmem).toList_ne_nil hnil

theorem downwards_singleton (name : String) : downwards [name] = ⟨name⟩ := by
  simp [downwards, joinPieces]

/-- A name behind a path that leads downwards makes one with one more name. -/
theorem child_downwards (hnames : ∀ name ∈ names, IsEntryName name) (hname : IsEntryName name) :
    (downwards names).child name = downwards (names ++ [name]) := by
  by_cases hne : names = []
  · subst hne
    have hsame : (downwards []).sameParts ⟨"."⟩ = true := by decide
    rw [child, if_pos hsame, List.nil_append, downwards_singleton]
  · rw [child, not_sameParts_downwards hne hnames, if_neg (by decide),
      ← downwards_pieceNames ((downwards names).join name), pieceNames,
      pieces_join hname.slash_not_mem (nil_not_mem_pieces_downwards hne hnames),
      pieces_downwards hne hnames]
    simp [Function.comp_def]

theorem parts_downwards (hne : names ≠ []) (hnames : ∀ name ∈ names, IsEntryName name) :
    (downwards names).parts = names.map Part.name := by
  induction names using List.reverseRecOn with
  | nil => exact absurd rfl hne
  | append_singleton names name ih =>
      obtain ⟨hbefore, hlast⟩ := List.forall_mem_append.mp hnames
      have hname := List.forall_mem_singleton.mp hlast
      by_cases hfirst : names = []
      · rw [hfirst, List.nil_append, downwards_singleton, parts_entry hname]
        rfl
      · rw [← child_downwards hbefore hname, child, not_sameParts_downwards hfirst hbefore,
          if_neg (by decide), parts_join hname, ih hfirst hbefore, List.map_append]
        rfl

/-- The characters of a path that leads downwards are those of its names, and slashes. -/
theorem exists_name_of_mem_downwards {c : Char} (hne : names ≠ [])
    (hc : c ∈ (downwards names).text.toList) : c = '/' ∨ ∃ name ∈ names, c ∈ name.toList := by
  have htext : (downwards names).text.toList = joinPieces (names.map String.toList) := by
    cases names with
    | nil => exact absurd rfl hne
    | cons name rest => exact String.toList_ofList
  rw [htext] at hc
  clear htext
  induction names with
  | nil => exact absurd rfl hne
  | cons name rest ih =>
      by_cases hrest : rest = []
      · subst hrest
        exact .inr ⟨name, List.mem_cons_self, by simpa [joinPieces] using hc⟩
      · rw [List.map_cons, joinPieces_cons (by simpa using hrest), List.mem_append,
          List.mem_cons] at hc
        rcases hc with hc | hc | hc
        · exact .inr ⟨name, List.mem_cons_self, hc⟩
        · exact .inl hc
        · refine (ih hrest hc).imp_right ?_
          rintro ⟨other, hmem, hc⟩
          exact ⟨other, List.mem_cons_of_mem _ hmem, hc⟩

theorem isTooLong_downwards_append (hnames : ∀ name ∈ names ++ more, IsEntryName name)
    (hlong : (downwards names).isTooLong = true) :
    (downwards (names ++ more)).isTooLong = true := by
  induction more generalizing names with
  | nil => rwa [List.append_nil]
  | cons name more ih =>
      rw [List.append_cons] at hnames ⊢
      obtain ⟨hfront, _⟩ := List.forall_mem_append.mp hnames
      obtain ⟨hbefore, hname⟩ := List.forall_mem_append.mp hfront
      apply ih hnames
      by_cases hne : names = []
      · subst hne
        exact absurd hlong (by decide)
      · have hname := hname name (List.mem_singleton_self name)
        rw [← child_downwards hbefore hname, child, not_sameParts_downwards hne hbefore]
        exact Workspace.isTooLong_join hname.slash_not_mem hlong

theorem isTooLong_downwards_of_append (hnames : ∀ name ∈ names ++ more, IsEntryName name)
    (hshort : (downwards (names ++ more)).isTooLong = false) :
    (downwards names).isTooLong = false := by
  rw [Bool.eq_false_iff]
  intro hlong
  rw [isTooLong_downwards_append hnames hlong] at hshort
  cases hshort

end FilePath

/-! ### Entries at names -/

namespace Entry

theorem at?_append (names more : List String) (entry : Option Entry) :
    at? (names ++ more) entry = at? more (at? names entry) := by
  induction names generalizing entry with
  | nil => rfl
  | cons name rest ih => exact ih _

theorem at?_directory (name : String) (rest : List String) (entries : List (String × Entry)) :
    at? (name :: rest) (some (.directory entries)) = at? rest (entries.lookup name) := rfl

theorem at?_file (name : String) (rest : List String) (content : ByteArray) :
    at? (name :: rest) (some (.file content)) = none := at?_none rest

theorem Proper.of_at? (hproper : entry.Proper) (hfound : at? names (some entry) = some found) :
    found.Proper ∧ ∀ name ∈ names, IsProperName name := by
  induction names generalizing entry with
  | nil => exact ⟨Option.some.inj hfound ▸ hproper, nofun⟩
  | cons name rest ih =>
      cases entry with
      | file content => rw [at?_file] at hfound; cases hfound
      | directory entries =>
          rw [at?_directory] at hfound
          cases hlookup : entries.lookup name with
          | none => rw [hlookup, at?_none] at hfound; cases hfound
          | some next =>
              rw [hlookup] at hfound
              have hmem := hproper.lookup_eq_some_iff.mp hlookup
              obtain ⟨hnext, hrest⟩ := ih (hproper.proper hmem) hfound
              exact ⟨hnext, List.forall_mem_cons.mpr ⟨hproper.isProperName hmem, hrest⟩⟩

end Entry

theorem Place.follow_names (hplace : place.2.Proper) (hnames : ∀ name ∈ names, IsEntryName name) :
    (∃ above, place.follow (names.map String.toList) = .ok (above, found)) ↔
      Entry.at? names (some place.2) = some found := by
  induction names generalizing place with
  | nil =>
      obtain ⟨above, entry⟩ := place
      simp [Place.follow, Entry.at?]
  | cons name rest ih =>
      obtain ⟨hname, hrest⟩ := List.forall_mem_cons.mp hnames
      obtain ⟨above, entry⟩ := place
      rw [List.map_cons, Place.follow]
      cases entry with
      | file content =>
          rw [Entry.at?_file]
          refine iff_of_false ?_ (Option.some_ne_none _).symm
          rintro ⟨_, hfollow⟩
          cases hfollow
      | directory entries =>
          rw [Entry.at?_directory]
          constructor
          · rintro ⟨last, hfollow⟩
            obtain ⟨next, henter, hfollow⟩ := bind_eq_ok_iff.mp hfollow
            obtain ⟨_, _, hlookup⟩ := (Place.enter_eq_ok_iff hname).mp henter
            rw [hlookup]
            have hnext := hplace.proper (hplace.lookup_eq_some_iff.mp hlookup)
            exact (ih hnext hrest).mp ⟨last, hfollow⟩
          · intro hfound
            cases hlookup : entries.lookup name with
            | none => rw [hlookup, Entry.at?_none] at hfound; cases hfound
            | some next =>
                have hmem := hplace.lookup_eq_some_iff.mp hlookup
                rw [hlookup] at hfound
                let onward : Place := (.directory entries :: above, next)
                have honward : onward.2.Proper := hplace.proper hmem
                obtain ⟨last, hfollow⟩ := (ih honward hrest).mpr hfound
                refine ⟨last, bind_eq_ok_iff.mpr ⟨_, ?_, hfollow⟩⟩
                exact (Place.enter_eq_ok_iff hname).mpr
                  ⟨(hplace.isProperName hmem).short, rfl, hlookup⟩

namespace Workspace

def below? (workspace : Workspace) (names : List String) : Option Entry :=
  Entry.at? names (workspace.find ⟨"."⟩).toOption

theorem find_here : workspace.find ⟨"."⟩ = .ok entry ↔ entry.isDirectory = true ∧
    ∃ above, workspace.top.follow (workspace.directory.map String.toList) = .ok (above, entry) := by
  have hpieces : workspace.piecesTo ⟨"."⟩ = workspace.directory.map String.toList ++ [['.']] := rfl
  have henter : ∀ place next : Place, place.enter ['.'] = .ok next ↔
      place.2.isDirectory = true ∧ place = next := by
    rintro ⟨above, entry⟩ next
    cases entry with
    | file content => exact iff_of_false nofun (fun hsame => nomatch hsame.1)
    | directory entries => simp [Place.enter_here, Entry.isDirectory, Entry.entries?]
  rw [find_eq_ok_iff]
  constructor
  · rintro ⟨above, hleads⟩
    have hfollow := hleads.follow
    rw [hpieces, Place.follow_append] at hfollow
    obtain ⟨place, hplace, hfollow⟩ := bind_eq_ok_iff.mp hfollow
    rw [Place.follow_singleton] at hfollow
    obtain ⟨hdirectory, rfl⟩ := (henter _ _).mp hfollow
    exact ⟨hdirectory, above, hplace⟩
  · rintro ⟨hdirectory, above, hfollow⟩
    refine ⟨above, by decide, by decide, by decide, ?_⟩
    rw [hpieces, Place.follow_append, hfollow]
    exact (Place.follow_singleton _ _).trans ((henter _ _).mpr ⟨hdirectory, rfl⟩)

theorem below?_eq_some_iff : workspace.below? names = some entry ↔
    ∃ here, workspace.find ⟨"."⟩ = .ok here ∧ Entry.at? names (some here) = some entry := by
  rw [below?]
  cases workspace.find ⟨"."⟩ with
  | error fault => simp [Except.toOption, Entry.at?_none]
  | ok here => simp [Except.toOption]

/-- A path that leads downwards leads to the entry at its names, unless it is too long. -/
theorem find_downwards (hroot : workspace.root.Proper) (hnames : ∀ name ∈ names, IsEntryName name) :
    workspace.find (downwards names) = .ok entry ↔
      (downwards names).isTooLong = false ∧ workspace.below? names = some entry := by
  rw [below?_eq_some_iff]
  obtain rfl | ⟨first, rest, rfl⟩ : names = [] ∨ ∃ first rest, names = first :: rest := by
    cases names <;> simp
  · have hshort : (downwards []).isTooLong = false := by decide
    rw [hshort]
    simp [downwards, Entry.at?]
  have hpieces := pieces_downwards (List.cons_ne_nil first rest) hnames
  have hrelative : (downwards (first :: rest)).isAbsolute = false :=
    not_isAbsolute hpieces (hnames first List.mem_cons_self).toList_ne_nil
  have htop : workspace.top.Proper := ⟨hroot, fun _ hmem => absurd hmem List.not_mem_nil⟩
  have hfollow : ∀ above, workspace.top.follow (workspace.piecesTo (downwards (first :: rest))) =
      .ok (above, entry) ↔ ∃ middle, workspace.top.follow (workspace.directory.map String.toList) =
        .ok middle ∧ middle.follow ((first :: rest).map String.toList) = .ok (above, entry) := by
    intro above
    rw [piecesTo, hrelative, hpieces, Place.follow_append]
    exact bind_eq_ok_iff
  rw [find_eq_ok_iff]
  constructor
  · rintro ⟨above, hleads⟩
    obtain ⟨⟨above', here⟩, hmiddle, hlast⟩ := (hfollow above).mp hleads.follow
    have hentry := (Place.follow_names (htop.follow hmiddle).1 hnames).mp ⟨above, hlast⟩
    have hdirectory : here.isDirectory = true := by
      cases here with
      | file content => rw [Entry.at?_file] at hentry; cases hentry
      | directory entries => rfl
    exact ⟨hleads.short, here, find_here.mpr ⟨hdirectory, above', hmiddle⟩, hentry⟩
  · rintro ⟨hshort, here, hhere, hentry⟩
    obtain ⟨_, above', hmiddle⟩ := find_here.mp hhere
    have hplace := htop.follow hmiddle
    obtain ⟨above, hlast⟩ := (Place.follow_names hplace.1 hnames).mpr hentry
    obtain ⟨_, hproper⟩ := hplace.1.of_at? hentry
    refine ⟨above, fun hnul => ?_, toList_ne_nil (nil_not_mem_pieces_downwards
      (List.cons_ne_nil first rest) hnames), hshort, (hfollow above).mpr ⟨_, hmiddle, hlast⟩⟩
    rcases exists_name_of_mem_downwards (List.cons_ne_nil first rest) hnul with hslash | hname
    · cases hslash
    · obtain ⟨name, hmem, hnul⟩ := hname
      exact (hproper name hmem).nul_not_mem hnul

end Workspace

end DispatchAudit.Files
