import DispatchAudit.Files.Workspace
import DispatchAudit.Proofs.Files.Ancestors

/-!
# Files that are written and read back

A file is written at the names that lead to it from the root, and the directories on the way are
made where they are missing. What lies at other names stays as it was, unless they lead through
the file or end on the way to it. So several files that lead apart from each other can be written
in any order, and a path that only goes downwards, by names that are not too long, finds in each
of them the text that was written.
-/

namespace DispatchAudit.Files

variable {entry found : Entry} {name other : String} {names others : List String}

/-! ### Entries at names -/

namespace Entry

def at? : List String → Option Entry → Option Entry
  | [], entry => entry
  | name :: rest, entry => at? rest (((entry.bind entries?).getD []).lookup name)

theorem at?_none (names : List String) : at? names none = none := by
  induction names with
  | nil => rfl
  | cons name rest ih => exact ih

theorem lookup_put_self (name : String) (entry : Entry) (entries : List (String × Entry)) :
    (put name entry entries).lookup name = some entry := by
  fun_induction put name entry entries with
  | case1 => simp
  | case2 => simp
  | case3 => simp
  | case4 other kept rest hname _ ih =>
      rw [List.lookup_cons, beq_false_of_ne hname]
      exact ih

theorem lookup_put_of_ne (hne : other ≠ name) (entry : Entry) (entries : List (String × Entry)) :
    (put name entry entries).lookup other = entries.lookup other := by
  fun_induction put name entry entries with
  | case1 | case2 | case3 => simp [List.lookup_cons, beq_false_of_ne hne]
  | case4 next kept rest _ _ ih => simp [List.lookup_cons, ih]

theorem at?_update_self (change : Option Entry → Entry) (names : List String)
    (entry : Option Entry) :
    at? names (some (update change names entry)) = some (change (at? names entry)) := by
  induction names generalizing entry with
  | nil => rfl
  | cons name rest ih =>
      simp only [update, at?, Option.bind_some, entries?, Option.getD_some, lookup_put_self]
      exact ih _

/-- Whether neither names lead through what the other names lead to. -/
def leadApart : List String → List String → Bool
  | first :: firsts, second :: seconds => first != second || leadApart firsts seconds
  | _, _ => false

theorem leadApart_append (front : List String) :
    leadApart (front ++ names) (front ++ others) = leadApart names others := by
  induction front with
  | nil => rfl
  | cons name rest ih => simp [leadApart, ih]

theorem at?_update_of_leadApart (hapart : leadApart names others = true)
    (change : Option Entry → Entry) (entry : Option Entry) :
    at? others (some (update change names entry)) = at? others entry := by
  fun_induction leadApart names others generalizing entry with
  | case1 name rest other later ih =>
      simp only [update, at?, Option.bind_some, entries?, Option.getD_some]
      by_cases hname : name = other
      · subst hname
        have hrest : leadApart rest later = true := by simpa using hapart
        rw [lookup_put_self, ih hrest]
      · rw [lookup_put_of_ne (Ne.symm hname)]
  | case2 => cases hapart

end Entry

/-! ### Paths that go downwards -/

/-- Whether a piece of a path with this text leads to an entry of a directory. -/
def isPlainName (name : String) : Bool :=
  !isIdle name.toList && name.toList != ['.', '.'] && Nat.ble name.utf8ByteSize nameLimit

theorem descend_of_at? (hplain : ∀ name ∈ names, isPlainName name = true)
    (hfound : Entry.at? names (some entry) = some found) (above : List Entry) :
    descend above entry (names.map String.toList) = .ok found := by
  induction names generalizing entry above with
  | nil =>
      obtain rfl : entry = found := Option.some.inj hfound
      cases entry <;> rfl
  | cons name rest ih =>
      obtain ⟨hname, hrest⟩ := List.forall_mem_cons.mp hplain
      simp only [isPlainName, Bool.and_eq_true, Bool.not_eq_true', bne_iff_ne, ne_eq,
        Nat.ble_eq] at hname
      obtain ⟨⟨hidle, hup⟩, hshort⟩ := hname
      cases entry with
      | file content =>
          rw [Entry.at?] at hfound
          simp [Entry.entries?, Entry.at?_none] at hfound
      | directory entries =>
          simp only [Entry.at?, Option.bind_some, Entry.entries?, Option.getD_some] at hfound
          cases hlookup : entries.lookup name with
          | none =>
              rw [hlookup, Entry.at?_none] at hfound
              cases hfound
          | some next =>
              rw [hlookup] at hfound
              simp only [List.map_cons, descend, hidle, hup, String.ofList_toList, hlookup,
                Nat.not_lt.mpr hshort, Bool.false_eq_true, if_false]
              exact ih hrest hfound _

namespace FilePath

variable {path : FilePath}

def pieceNames (path : FilePath) : List String := path.pieces.map String.ofList

/-- Whether a path leads downwards from the working directory, and can be looked up. -/
def isPlain (path : FilePath) : Bool :=
  path.pieceNames.all isPlainName && !path.text.toList.contains '\x00' && !path.isTooLong

theorem map_toList_pieceNames (path : FilePath) : path.pieceNames.map String.toList = path.pieces := by
  simp [pieceNames, Function.comp_def]

theorem isIdle_of_mem_pieces (hplain : path.isPlain = true) :
    ∀ piece ∈ path.pieces, isIdle piece = false ∧ piece ≠ ['.', '.'] := by
  intro piece hpiece
  simp only [isPlain, Bool.and_eq_true, List.all_eq_true] at hplain
  have hname := hplain.1.1 (String.ofList piece) (List.mem_map_of_mem hpiece)
  simp only [isPlainName, String.toList_ofList, Bool.and_eq_true, Bool.not_eq_true', bne_iff_ne,
    ne_eq] at hname
  exact hname.1

theorem text_ne_empty (hplain : path.isPlain = true) : path.text.isEmpty = false := by
  rw [Bool.eq_false_iff]
  intro hempty
  have hpieces : [] ∈ path.pieces := by
    rw [pieces, String.isEmpty_iff.mp hempty]
    decide
  exact absurd (isIdle_of_mem_pieces hplain [] hpieces).1 (by decide)

theorem isAbsolute_eq_false (hplain : path.isPlain = true) : path.isAbsolute = false := by
  obtain ⟨first, rest, hpieces⟩ : ∃ first rest, path.pieces = first :: rest :=
    List.exists_cons_of_ne_nil (List.splitOn_ne_nil '/' path.text.toList)
  apply not_isAbsolute hpieces
  rintro rfl
  have hempty : [] ∈ path.pieces := hpieces ▸ List.mem_cons_self
  exact absurd (isIdle_of_mem_pieces hplain [] hempty).1 (by decide)

theorem parts_of_isPlain (hplain : path.isPlain = true) :
    path.parts = path.pieceNames.map Part.name := by
  have hpiece : ∀ piece ∈ path.pieces,
      Part.ofPiece? piece = some (Part.name (String.ofList piece)) := by
    intro piece hmem
    obtain ⟨hidle, hup⟩ := isIdle_of_mem_pieces hplain piece hmem
    simp [Part.ofPiece?, hidle, hup]
  have hdot : ∀ piece ∈ path.pieces, piece ≠ ['.'] := by
    rintro piece hmem rfl
    exact absurd (isIdle_of_mem_pieces hplain _ hmem).1 (by decide)
  rw [parts, pieceNames, isAbsolute_eq_false hplain]
  cases hpieces : path.pieces with
  | nil => rfl
  | cons first rest =>
      rw [hpieces] at hpiece hdot
      obtain ⟨hfirst, hrest⟩ := List.forall_mem_cons.mp hpiece
      have hlater : rest.filterMap Part.ofPiece? = rest.map (Part.name ∘ String.ofList) := by
        rw [← List.filterMap_eq_map]
        exact List.filterMap_congr hrest
      simp [hfirst, hlater, hdot first List.mem_cons_self]

end FilePath

/-! ### Files with texts -/

structure TextFile where
  path : FilePath
  text : String
deriving DecidableEq, Repr, Inhabited

namespace Workspace

variable {workspace : Workspace} {path : FilePath} {file : TextFile} {files : List TextFile}

def isPlain (workspace : Workspace) : Bool := workspace.directory.all isPlainName

theorem namesOf_of_isPlain (hpath : path.isPlain = true) :
    workspace.namesOf path = workspace.directory ++ path.pieceNames := by
  rw [namesOf, FilePath.parts_of_isPlain hpath]
  generalize workspace.directory = front
  generalize path.pieceNames = names
  induction names generalizing front with
  | nil => simp
  | cons name rest ih =>
      rw [List.map_cons, List.foldl_cons, ih]
      simp

def entryAt? (workspace : Workspace) (path : FilePath) : Option Entry :=
  Entry.at? (workspace.namesOf path) (some workspace.root)

theorem find_of_entryAt? (hworkspace : workspace.isPlain = true) (hpath : path.isPlain = true)
    (hfound : workspace.entryAt? path = some entry) : workspace.find path = .ok entry := by
  have hparts := hpath
  simp only [FilePath.isPlain, Bool.and_eq_true, Bool.not_eq_true', List.all_eq_true] at hparts
  obtain ⟨⟨hnames, hnul⟩, hshort⟩ := hparts
  have hplain : ∀ name ∈ workspace.directory ++ path.pieceNames, isPlainName name = true :=
    List.forall_mem_append.mpr ⟨List.all_eq_true.mp hworkspace, hnames⟩
  rw [entryAt?, namesOf_of_isPlain hpath] at hfound
  rw [find, hnul, FilePath.text_ne_empty hpath, hshort, FilePath.isAbsolute_eq_false hpath,
    ← FilePath.map_toList_pieceNames, ← List.map_append]
  exact descend_of_at? hplain hfound []

def Holds (workspace : Workspace) (file : TextFile) : Prop :=
  workspace.find file.path = .ok (.file file.text.toUTF8)

theorem fromUTF8?_toUTF8 (text : String) : String.fromUTF8? text.toUTF8 = some text :=
  dif_pos text.isValidUTF8

theorem read_eq_ok_iff {text : String} : workspace.read path = .ok text ↔
    ∃ content, workspace.find path = .ok (.file content) ∧
      String.fromUTF8? content = some text := by
  rw [Workspace.read]
  cases workspace.find path with
  | error fault => simp [bind, Except.bind]
  | ok entry =>
      cases entry with
      | directory entries => simp [bind, Except.bind, throw, throwThe, MonadExceptOf.throw]
      | file content =>
          simp only [bind, Except.bind, Except.ok.injEq, Entry.file.injEq, exists_eq_left']
          cases String.fromUTF8? content <;>
            simp [pure, Except.pure, throw, throwThe, MonadExceptOf.throw]

theorem Holds.read (hholds : workspace.Holds file) :
    workspace.read file.path = .ok file.text := by
  have hfind : workspace.find file.path = .ok (.file file.text.toUTF8) := hholds
  rw [Workspace.read, hfind]
  simp only [bind, Except.bind, fromUTF8?_toUTF8]
  rfl

def write (workspace : Workspace) (file : TextFile) : Workspace :=
  { workspace with
    root := workspace.root.writeFile (workspace.namesOf file.path) file.text.toUTF8 }

def writeAll (workspace : Workspace) (files : List TextFile) : Workspace :=
  files.foldl write workspace

theorem writeAll_cons (workspace : Workspace) (file : TextFile) (later : List TextFile) :
    workspace.writeAll (file :: later) = (workspace.write file).writeAll later := rfl

theorem isPlain_write (workspace : Workspace) (file : TextFile) :
    (workspace.write file).isPlain = workspace.isPlain := rfl

theorem isPlain_writeAll (workspace : Workspace) (files : List TextFile) :
    (workspace.writeAll files).isPlain = workspace.isPlain := by
  induction files generalizing workspace with
  | nil => rfl
  | cons file later ih => rw [writeAll_cons, ih, isPlain_write]

theorem entryAt?_write_self (workspace : Workspace) (file : TextFile) :
    (workspace.write file).entryAt? file.path = some (.file file.text.toUTF8) :=
  Entry.at?_update_self _ _ _

theorem entryAt?_write_of_leadApart (hfile : file.path.isPlain = true)
    (hpath : path.isPlain = true)
    (hapart : Entry.leadApart file.path.pieceNames path.pieceNames = true) :
    (workspace.write file).entryAt? path = workspace.entryAt? path := by
  apply Entry.at?_update_of_leadApart
  rw [namesOf_of_isPlain hfile, namesOf_of_isPlain hpath]
  exact (Entry.leadApart_append workspace.directory).trans hapart

theorem entryAt?_writeAll_of_leadApart (hpath : path.isPlain = true)
    (hfiles : ∀ file ∈ files, file.path.isPlain = true)
    (hapart : ∀ file ∈ files, Entry.leadApart file.path.pieceNames path.pieceNames = true) :
    (workspace.writeAll files).entryAt? path = workspace.entryAt? path := by
  induction files generalizing workspace with
  | nil => rfl
  | cons file later ih =>
      obtain ⟨hfile, hlater⟩ := List.forall_mem_cons.mp hfiles
      obtain ⟨happart, hrest⟩ := List.forall_mem_cons.mp hapart
      rw [writeAll_cons, ih hlater hrest, entryAt?_write_of_leadApart hfile hpath happart]

/-- Whether files can be written next to each other: each at a path that can be looked up, and
any two of them at paths that lead apart. -/
structure CanWrite (workspace : Workspace) (files : List TextFile) : Prop where
  directory : workspace.isPlain = true
  paths : ∀ file ∈ files, file.path.isPlain = true
  apart : files.Pairwise fun file later =>
    Entry.leadApart later.path.pieceNames file.path.pieceNames = true

theorem CanWrite.entryAt?_writeAll (hwrite : workspace.CanWrite files) :
    ∀ file ∈ files, (workspace.writeAll files).entryAt? file.path =
      some (.file file.text.toUTF8) := by
  -- a file is kept by those written after it, so the induction is from the first one
  induction files generalizing workspace with
  | nil => simp
  | cons first later ih =>
      obtain ⟨hdirectory, hpaths, hapart⟩ := hwrite
      obtain ⟨hfirst, hlater⟩ := List.forall_mem_cons.mp hpaths
      obtain ⟨hkept, hrest⟩ := List.pairwise_cons.mp hapart
      have hothers : (workspace.write first).CanWrite later := ⟨hdirectory, hlater, hrest⟩
      rw [writeAll_cons]
      intro file hmem
      rcases List.mem_cons.mp hmem with rfl | hmem
      · rw [entryAt?_writeAll_of_leadApart hfirst hlater hkept, entryAt?_write_self]
      · exact ih hothers file hmem

/-- Files that were written next to each other all hold their texts. -/
theorem CanWrite.holds (hwrite : workspace.CanWrite files) :
    ∀ file ∈ files, (workspace.writeAll files).Holds file := by
  intro file hmem
  apply find_of_entryAt? _ (hwrite.paths file hmem) (hwrite.entryAt?_writeAll file hmem)
  rw [isPlain_writeAll]
  exact hwrite.directory

end Workspace

end DispatchAudit.Files
