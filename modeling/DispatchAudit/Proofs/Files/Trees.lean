import DispatchAudit.Files.Expansion
import DispatchAudit.Proofs.Files.Ancestors
import DispatchAudit.Proofs.Keyed
import DispatchAudit.Proofs.Steps

/-!
# Trees of files

In a tree that a file system keeps, the entries of a directory have different names, and each name
can stand as a piece of a path. Looking up a path goes from place to place, where a place is an
entry together with the directories above it. So a path that leads to a directory can be
lengthened, and leads on from the place that it led to: by the name of an entry to that entry, by
one dot nowhere else, and by two dots to a directory again.
-/

namespace DispatchAudit.Files

open FilePath

/-- Whether an entry of a directory can have this name. -/
structure IsProperName (name : String) : Prop extends IsEntryName name where
  nul_not_mem : '\x00' ∉ name.toList
  short : name.utf8ByteSize ≤ nameLimit

theorem isProperName_iff {name : String} : IsProperName name ↔
    (isIdle name.toList = false ∧ name.toList ≠ ['.', '.'] ∧ '/' ∉ name.toList) ∧
      '\x00' ∉ name.toList ∧ name.utf8ByteSize ≤ nameLimit :=
  ⟨fun ⟨⟨hidle, hup, hslash⟩, hnul, hshort⟩ => ⟨⟨hidle, hup, hslash⟩, hnul, hshort⟩,
    fun ⟨⟨hidle, hup, hslash⟩, hnul, hshort⟩ => ⟨⟨hidle, hup, hslash⟩, hnul, hshort⟩⟩

instance (name : String) : Decidable (IsProperName name) := decidable_of_iff _ isProperName_iff.symm

/-- Whether a file system can keep the tree. -/
inductive Entry.Proper : Entry → Prop where
  | file (content : ByteArray) : Proper (.file content)
  | directory {entries : List (String × Entry)} (hnodup : (entries.map Prod.fst).Nodup)
      (hnames : ∀ pair ∈ entries, IsProperName pair.1)
      (hentries : ∀ pair ∈ entries, Proper pair.2) : Proper (.directory entries)

/-- What holds of files, and of a directory if it holds of its entries, holds of every tree. -/
@[elab_as_elim]
theorem Entry.tree_induction {motive : Entry → Prop} (file : ∀ content, motive (.file content))
    (directory : ∀ entries, (∀ pair ∈ entries, motive pair.2) → motive (.directory entries)) :
    ∀ entry, motive entry
  | .file content => file content
  | .directory entries => directory entries fun pair hmem =>
      have : sizeOf pair < sizeOf entries := List.sizeOf_lt_of_mem hmem
      tree_induction file directory pair.2
termination_by entry => sizeOf entry
decreasing_by
  obtain ⟨name, entry⟩ := pair
  simp only [Entry.directory.sizeOf_spec, Prod.mk.sizeOf_spec] at this ⊢
  omega

namespace Entry.Proper

variable {entries : List (String × Entry)} {pair : String × Entry}

theorem nodup (hproper : Proper (.directory entries)) : (entries.map Prod.fst).Nodup := by
  cases hproper with
  | directory hnodup => exact hnodup

theorem isProperName (hproper : Proper (.directory entries)) (hpair : pair ∈ entries) :
    IsProperName pair.1 := by
  cases hproper with
  | directory _ hnames => exact hnames pair hpair

theorem proper (hproper : Proper (.directory entries)) (hpair : pair ∈ entries) :
    pair.2.Proper := by
  cases hproper with
  | directory _ _ hentries => exact hentries pair hpair

theorem lookup_eq_some_iff (hproper : Proper (.directory entries)) {name : String}
    {entry : Entry} : entries.lookup name = some entry ↔ (name, entry) ∈ entries :=
  lookup_eq_some_iff_mem hproper.nodup

end Entry.Proper

/-- An entry with the directories above it, from its parent upwards. -/
abbrev Place := List Entry × Entry

/-- The place of the directory above, which for the root is the root. -/
def Place.up (entry : Entry) : List Entry → Place
  | [] => ([], entry)
  | parent :: ancestors => (ancestors, parent)

def Place.enter : Place → List Char → Except FileFault Place
  | (_, .file _), _ => .error .notDirectory
  | (above, .directory entries), piece =>
    if isIdle piece then .ok (above, .directory entries)
    else if piece = ['.', '.'] then .ok (up (.directory entries) above)
    else if nameLimit < (String.ofList piece).utf8ByteSize then .error .nameTooLong
    else match entries.lookup (String.ofList piece) with
      | none => .error .missing
      | some entry => .ok (.directory entries :: above, entry)

def Place.follow (place : Place) : List (List Char) → Except FileFault Place
  | [] => .ok place
  | piece :: rest => (place.enter piece).bind (follow · rest)

variable {entry found : Entry} {above : List Entry} {entries : List (String × Entry)}
  {piece : List Char} {pieces more : List (List Char)} {name : String} {path : FilePath}
  {workspace : Workspace} {place next : Place}

namespace Place

/-! ### From place to place -/

theorem follow_append (place : Place) (pieces more : List (List Char)) :
    place.follow (pieces ++ more) = (place.follow pieces).bind (follow · more) := by
  induction pieces generalizing place with
  | nil => rfl
  | cons piece rest ih =>
      rw [List.cons_append, follow, follow]
      cases place.enter piece with
      | error fault => rfl
      | ok next => exact ih next

theorem follow_singleton (place : Place) (piece : List Char) :
    place.follow [piece] = place.enter piece := by
  rw [follow]
  cases place.enter piece <;> rfl

theorem descend_eq_follow (above : List Entry) (entry : Entry) (pieces : List (List Char)) :
    descend above entry pieces = (follow (above, entry) pieces).map Prod.snd := by
  fun_induction descend above entry pieces with
  | case1 | case2 => rfl
  | case3 above entries piece rest hidle ih =>
      rw [follow, enter, if_pos hidle]
      exact ih
  | case4 entries rest hidle ih | case5 entries rest parent ancestors hidle ih =>
      rw [follow, enter, if_neg hidle, if_pos rfl]
      exact ih
  | case6 above entries piece rest hidle hup name hlong =>
      rw [follow, enter, if_neg hidle, if_neg hup, if_pos hlong]
      rfl
  | case7 above entries piece rest hidle hup name hshort hlookup =>
      rw [follow, enter, if_neg hidle, if_neg hup, if_neg hshort, hlookup]
      rfl
  | case8 above entries piece rest hidle hup name hshort entry hlookup ih =>
      rw [follow, enter, if_neg hidle, if_neg hup, if_neg hshort, hlookup]
      exact ih

theorem eq_of_enter_idle (hidle : isIdle piece = true) (henter : place.enter piece = .ok next) :
    next = place := by
  obtain ⟨above, entry⟩ := place
  cases entry with
  | file content => cases henter
  | directory entries =>
      rw [enter, if_pos hidle] at henter
      exact (Except.ok.inj henter).symm

theorem eq_of_follow_idle (hidle : ∀ piece ∈ pieces, isIdle piece = true)
    (hfollow : place.follow pieces = .ok next) : next = place := by
  induction pieces with
  | nil => exact (Except.ok.inj hfollow).symm
  | cons piece rest ih =>
      obtain ⟨hpiece, hrest⟩ := List.forall_mem_cons.mp hidle
      obtain ⟨middle, henter, hlater⟩ := bind_eq_ok_iff.mp hfollow
      rw [eq_of_enter_idle hpiece henter] at hlater
      exact ih hrest hlater

/-- Pieces that say nothing can be left out at the end. -/
theorem follow_of_append_idle (hidle : ∀ piece ∈ more, isIdle piece = true)
    (hfollow : place.follow (pieces ++ more) = .ok next) : place.follow pieces = .ok next := by
  rw [follow_append] at hfollow
  obtain ⟨middle, hpieces, hmore⟩ := bind_eq_ok_iff.mp hfollow
  rw [hpieces, eq_of_follow_idle hidle hmore]

theorem enter_here (above : List Entry) (entries : List (String × Entry)) :
    enter (above, .directory entries) ['.'] = .ok (above, .directory entries) := rfl

theorem enter_up (above : List Entry) (entries : List (String × Entry)) :
    enter (above, .directory entries) ['.', '.'] = .ok (up (.directory entries) above) := rfl

theorem enter_eq_ok_iff (hentry : IsEntryName name) :
    enter (above, .directory entries) name.toList = .ok next ↔
      name.utf8ByteSize ≤ nameLimit ∧ next.1 = .directory entries :: above ∧
        entries.lookup name = some next.2 := by
  rw [enter, hentry.not_idle, if_neg (by decide), if_neg hentry.not_up, String.ofList_toList]
  obtain ⟨above', found⟩ := next
  split
  · next hlong => simp [Nat.not_le.mpr hlong]
  · next hshort =>
      cases entries.lookup name <;> simp [Nat.not_lt.mp hshort, eq_comm]

/-! ### Places in a proper tree -/

def Proper (place : Place) : Prop := place.2.Proper ∧ ∀ entry ∈ place.1, entry.Proper

theorem Proper.enter (hplace : Proper place) (henter : place.enter piece = .ok next) :
    Proper next := by
  obtain ⟨hentry, habove⟩ := hplace
  revert henter
  fun_cases Place.enter place piece <;> intro henter <;> cases henter
  case case2 above entries hidle => exact ⟨hentry, habove⟩
  case case3 above entries hidle =>
    cases above with
    | nil => exact ⟨hentry, habove⟩
    | cons parent ancestors => exact List.forall_mem_cons.mp habove
  case case6 above entries hidle hup hshort entry hlookup =>
    have hmem := hentry.lookup_eq_some_iff.mp hlookup
    exact ⟨hentry.proper hmem, List.forall_mem_cons.mpr ⟨hentry, habove⟩⟩

theorem Proper.follow (hplace : Proper place) (hfollow : place.follow pieces = .ok next) :
    Proper next := by
  induction pieces generalizing place with
  | nil => exact Except.ok.inj hfollow ▸ hplace
  | cons piece rest ih =>
      obtain ⟨middle, henter, hfollow⟩ := bind_eq_ok_iff.mp hfollow
      exact ih (hplace.enter henter) hfollow

end Place

/-! ### Looking up paths -/

namespace Workspace

def top (workspace : Workspace) : Place := ([], workspace.root)

def piecesTo (workspace : Workspace) (path : FilePath) : List (List Char) :=
  (if path.isAbsolute then [] else workspace.directory.map String.toList) ++ path.pieces

structure Leads (workspace : Workspace) (path : FilePath) (place : Place) : Prop where
  nul_not_mem : '\x00' ∉ path.text.toList
  ne_empty : path.text.toList ≠ []
  short : path.isTooLong = false
  follow : workspace.top.follow (workspace.piecesTo path) = .ok place

theorem find_eq (workspace : Workspace) (path : FilePath) : workspace.find path =
    if path.text.toList.contains '\x00' then .error .nulInPath
    else if path.text.isEmpty then .error .missing
    else if path.isTooLong then .error .nameTooLong
    else (workspace.top.follow (workspace.piecesTo path)).map Prod.snd := by
  rw [find, piecesTo, top, ← Place.descend_eq_follow]
  cases path.isAbsolute <;> rfl

theorem find_eq_ok_iff : workspace.find path = .ok entry ↔
    ∃ above, workspace.Leads path (above, entry) := by
  rw [find_eq]
  constructor
  · intro hfind
    split at hfind
    · cases hfind
    · next hnul =>
        split at hfind
        · cases hfind
        · next hempty =>
            split at hfind
            · cases hfind
            · next hshort =>
                obtain ⟨⟨above, _⟩, hfollow, rfl⟩ := map_eq_ok_iff.mp hfind
                exact ⟨above, by simpa using hnul, by simpa using hempty, by simpa using hshort,
                  hfollow⟩
  · rintro ⟨above, hnul, hempty, hshort, hfollow⟩
    rw [if_neg (by simpa using hnul), if_neg (by simpa using hempty), if_neg (by simp [hshort]),
      hfollow]
    rfl

theorem Leads.proper (hroot : workspace.root.Proper) (hleads : workspace.Leads path place) :
    place.Proper := by
  have htop : Place.Proper workspace.top := ⟨hroot, fun _ hmem => absurd hmem List.not_mem_nil⟩
  exact htop.follow hleads.follow

/-! ### Paths that are lengthened -/

theorem ofPiece?_eq_none_iff : Part.ofPiece? piece = none ↔ isIdle piece = true := by
  unfold Part.ofPiece?
  split
  · next hidle => simp [hidle]
  · next hidle => split <;> simp [hidle]

theorem ofPiece?_ne_here (piece : List Char) : Part.ofPiece? piece ≠ some .here := by
  unfold Part.ofPiece?
  split
  · nofun
  · split <;> nofun

/-- Whether a piece can be put behind a path. -/
structure IsPiece (name : String) : Prop where
  ne_empty : name.toList ≠ []
  slash_not_mem : '/' ∉ name.toList
  nul_not_mem : '\x00' ∉ name.toList

theorem toList_join (hpiece : IsPiece name) (path : FilePath) :
    (path.join name).text.toList = path.text.toList ++
      (if path.text.toList.getLast?.all (· == '/') then [] else ['/']) ++ name.toList := by
  cases hlast : path.text.toList.getLast?.all (· == '/') with
  | true => simp [join_of_getLast? hpiece.slash_not_mem hlast]
  | false => simp [join_of_not_getLast? hpiece.slash_not_mem hlast]

theorem follow_join (hpiece : IsPiece name) (hleads : workspace.Leads path place) :
    workspace.top.follow (workspace.piecesTo (path.join name)) = place.enter name.toList := by
  obtain ⟨first, rest, more, hpieces, hjoined, hrest⟩ :=
    exists_pieces_join hpiece.slash_not_mem hleads.ne_empty
  have hfollow := hleads.follow
  rw [piecesTo, hpieces] at hfollow
  rw [piecesTo, isAbsolute_join hpiece.slash_not_mem hleads.ne_empty, hjoined, ← List.cons_append,
    ← List.append_assoc, Place.follow_append]
  have hshorter : workspace.top.follow ((if path.isAbsolute then []
      else workspace.directory.map String.toList) ++ first :: more) = .ok place := by
    rcases hrest with rfl | rfl
    · exact hfollow
    · rw [← List.cons_append, ← List.append_assoc] at hfollow
      exact Place.follow_of_append_idle (by decide) hfollow
  rw [hshorter]
  exact Place.follow_singleton place name.toList

theorem leads_join_iff (hpiece : IsPiece name) (hleads : workspace.Leads path place) :
    workspace.Leads (path.join name) next ↔
      (path.join name).isTooLong = false ∧ place.enter name.toList = .ok next := by
  rw [← follow_join hpiece hleads]
  refine ⟨fun hjoin => ⟨hjoin.short, hjoin.follow⟩, fun ⟨hshort, hfollow⟩ => ⟨?_, ?_, hshort,
    hfollow⟩⟩
  · rw [toList_join hpiece]
    have hnul := hleads.nul_not_mem
    have hname := hpiece.nul_not_mem
    split <;> simp [hnul, hname]
  · simp [toList_join hpiece, hleads.ne_empty]

/-- A path with the parts of the working directory's begins with a dot and says nothing more. -/
theorem pieces_of_sameParts (hsame : path.sameParts ⟨"."⟩ = true) :
    path.isAbsolute = false ∧
      ∃ rest, path.pieces = ['.'] :: rest ∧ ∀ piece ∈ rest, isIdle piece = true := by
  have hparts : path.parts = [.here] := by
    have hhere : (FilePath.mk ".").parts = [.here] := by decide
    rw [sameParts, hhere, beq_iff_eq] at hsame
    exact hsame
  have hothers : ∀ pieces : List (List Char), Part.here ∉ pieces.filterMap Part.ofPiece? := by
    intro pieces hmem
    obtain ⟨piece, _, hpiece⟩ := List.mem_filterMap.mp hmem
    exact ofPiece?_ne_here piece hpiece
  obtain ⟨first, rest, hpieces⟩ := List.exists_cons_of_ne_nil
    (List.splitOn_ne_nil '/' path.text.toList)
  cases habsolute : path.isAbsolute with
  | true =>
      rw [parts_of_isAbsolute hpieces habsolute] at hparts
      cases hparts
  | false =>
      rw [parts_of_not_isAbsolute hpieces habsolute, leading] at hparts
      by_cases hfirst : first = ['.']
      · rw [if_pos hfirst, List.singleton_append, List.cons.injEq, List.filterMap_eq_nil_iff]
          at hparts
        refine ⟨rfl, rest, hfirst ▸ hpieces, fun piece hmem => ?_⟩
        exact ofPiece?_eq_none_iff.mp (hparts.2 piece hmem)
      · have hall : [first].filterMap Part.ofPiece? ++ rest.filterMap Part.ofPiece? = [.here] := by
          rw [if_neg hfirst] at hparts
          cases hpart : Part.ofPiece? first <;> rw [hpart] at hparts <;> simpa [hpart] using hparts
        rw [← List.filterMap_append] at hall
        exact absurd (hall ▸ List.mem_singleton_self Part.here) (hothers _)

theorem not_sameParts_of_head? (hhead : path.pieces.head? ≠ some ['.']) :
    path.sameParts ⟨"."⟩ = false := by
  rw [Bool.eq_false_iff]
  intro hsame
  obtain ⟨_, rest, hpieces, _⟩ := pieces_of_sameParts hsame
  rw [hpieces] at hhead
  exact hhead rfl

theorem leads_child_iff (hpiece : IsPiece name) (hleads : workspace.Leads path place) :
    workspace.Leads (path.child name) next ↔
      (path.child name).isTooLong = false ∧ place.enter name.toList = .ok next := by
  rw [child]
  split
  · next hsame =>
      obtain ⟨hrelative, rest, hpieces, hidle⟩ := pieces_of_sameParts hsame
      have hdirectory : workspace.top.follow (workspace.directory.map String.toList) =
          .ok place := by
        have hfollow := hleads.follow
        rw [piecesTo, hrelative, hpieces] at hfollow
        exact Place.follow_of_append_idle (List.forall_mem_cons.mpr ⟨rfl, hidle⟩) hfollow
      have hname : (FilePath.mk name).pieces = [name.toList] :=
        List.splitOn_eq_singleton hpiece.slash_not_mem
      have hfollow : workspace.top.follow (workspace.piecesTo ⟨name⟩) =
          place.enter name.toList := by
        rw [piecesTo, not_isAbsolute hname hpiece.ne_empty, hname, Place.follow_append]
        simp only [Bool.false_eq_true, if_false, hdirectory]
        exact Place.follow_singleton place name.toList
      rw [← hfollow]
      exact ⟨fun hjoin => ⟨hjoin.short, hjoin.follow⟩, fun ⟨hshort, hfollow⟩ =>
        ⟨hpiece.nul_not_mem, hpiece.ne_empty, hshort, hfollow⟩⟩
  · exact leads_join_iff hpiece hleads

theorem isPiece_here : IsPiece "." := ⟨by decide, by decide, by decide⟩

theorem isPiece_up : IsPiece ".." := ⟨by decide, by decide, by decide⟩

theorem isPiece_of_isProperName (hname : IsProperName name) : IsPiece name where
  ne_empty := by
    intro hempty
    have hidle := hname.not_idle
    rw [hempty] at hidle
    cases hidle
  slash_not_mem := hname.slash_not_mem
  nul_not_mem := hname.nul_not_mem

/-- The name of an entry leads from its directory to the entry. -/
theorem Leads.leads_entry (hroot : workspace.root.Proper)
    (hleads : workspace.Leads path (above, .directory entries)) {pair : String × Entry}
    (hpair : pair ∈ entries) (hshort : (path.child pair.1).isTooLong = false) :
    workspace.Leads (path.child pair.1) (.directory entries :: above, pair.2) := by
  have hproper := (hleads.proper hroot).1
  have hname := hproper.isProperName hpair
  refine (leads_child_iff (isPiece_of_isProperName hname) hleads).mpr ⟨hshort, ?_⟩
  exact (Place.enter_eq_ok_iff hname.toIsEntryName).mpr
    ⟨hname.short, rfl, hproper.lookup_eq_some_iff.mpr hpair⟩

theorem isTooLong_join (hslash : '/' ∉ name.toList) (hlong : path.isTooLong = true) :
    (path.join name).isTooLong = true := by
  have hbytes : path.text.utf8ByteSize ≤ (path.join name).text.utf8ByteSize := by
    cases hlast : path.text.toList.getLast?.all (· == '/') with
    | true =>
        rw [join_of_getLast? hslash hlast, String.utf8ByteSize_append]
        exact Nat.le_add_right _ _
    | false =>
        rw [join_of_not_getLast? hslash hlast, String.utf8ByteSize_append,
          String.utf8ByteSize_append, Nat.add_assoc]
        exact Nat.le_add_right _ _
  exact Nat.ble_eq.mpr (Nat.le_trans (Nat.ble_eq.mp hlong) hbytes)

end Workspace

end DispatchAudit.Files
