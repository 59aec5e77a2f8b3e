import DispatchAudit.Files.FilePath
import Mathlib.Data.List.Basic
import Mathlib.Data.List.TakeWhile

/-!
# Directories above a path

Leaving out the last part of a path is said by its text: pieces are cut off behind a slash. In
terms of parts it is simpler. The path above has the same parts without the last one, and there is
no such path exactly if nothing is left but the root, or nothing at all. So a path has as many
directories above it as it has parts below the root, and the ones further up have fewer parts.
-/

namespace DispatchAudit.Files

variable {path parent above other : FilePath} {first piece : List Char}
  {rest pieces : List (List Char)} {entry : String} {k : Nat}

/-! ### Pieces -/

theorem slash_not_mem_of_mem_splitOn (text : List Char) :
    ∀ piece ∈ text.splitOn '/', '/' ∉ piece := by
  induction text with
  | nil => simp
  | cons c text ih =>
      obtain ⟨first, rest, hsplit⟩ := List.exists_cons_of_ne_nil (List.splitOn_ne_nil '/' text)
      rw [hsplit] at ih
      obtain ⟨hfirst, hrest⟩ := List.forall_mem_cons.mp ih
      rw [List.splitOn_cons_eq_if_modifyHead, hsplit]
      by_cases hc : c = '/'
      · simpa [hc] using ⟨hfirst, hrest⟩
      · simpa [hc, Ne.symm hc] using ⟨hfirst, hrest⟩

theorem filterMap_ofPiece?_of_isIdle (hidle : ∀ piece ∈ pieces, isIdle piece = true) :
    pieces.filterMap Part.ofPiece? = [] := by
  rw [List.filterMap_eq_nil_iff]
  intro piece hmem
  exact if_pos (hidle piece hmem)

theorem exists_ofPiece? (hidle : isIdle piece = false) :
    ∃ part, part ≠ .root ∧ Part.ofPiece? piece = some part := by
  by_cases hup : piece = ['.', '.']
  · exact ⟨.up, nofun, by simp [Part.ofPiece?, hup, isIdle]⟩
  · exact ⟨.name (String.ofList piece), nofun, by simp [Part.ofPiece?, hidle, hup]⟩

namespace FilePath

theorem pieces_joinPieces (hne : pieces ≠ []) (hslash : ∀ piece ∈ pieces, '/' ∉ piece) :
    (FilePath.mk (String.ofList (joinPieces pieces))).pieces = pieces := by
  rw [FilePath.pieces, String.toList_ofList]
  exact List.splitOn_intercalate '/' hslash hne

theorem slash_not_mem_of_mem_pieces (path : FilePath) : ∀ piece ∈ path.pieces, '/' ∉ piece :=
  slash_not_mem_of_mem_splitOn _

theorem isAbsolute_iff (hpieces : path.pieces = first :: rest) :
    path.isAbsolute = true ↔ first = [] ∧ rest ≠ [] := by
  have hslash : '/' ∉ first :=
    path.slash_not_mem_of_mem_pieces first (hpieces ▸ List.mem_cons_self)
  rw [isAbsolute, beq_iff_eq, ← joinPieces_pieces path, hpieces]
  cases rest with
  | nil =>
      refine iff_of_false ?_ (fun habsolute => habsolute.2 rfl)
      intro hhead
      exact hslash (List.mem_of_head? (by simpa [joinPieces] using hhead))
  | cons second others =>
      rw [joinPieces_cons (List.cons_ne_nil second others)]
      cases first with
      | nil => simp
      | cons c more =>
          refine iff_of_false ?_ (fun habsolute => List.cons_ne_nil c more habsolute.1)
          intro hhead
          obtain rfl : c = '/' := Option.some.inj hhead
          exact hslash List.mem_cons_self

theorem not_isAbsolute (hpieces : path.pieces = first :: rest) (hne : first ≠ []) :
    path.isAbsolute = false := by
  rw [Bool.eq_false_iff, Ne, isAbsolute_iff hpieces]
  exact fun habsolute => hne habsolute.1

/-! ### Parts -/

/-- The part that the first piece of a path stands for if the path does not start at the root. -/
def leading (piece : List Char) : List Part :=
  if piece = ['.'] then [.here] else (Part.ofPiece? piece).toList

theorem exists_leading (hne : piece ≠ []) : ∃ part, part ≠ .root ∧ leading piece = [part] := by
  by_cases hhere : piece = ['.']
  · exact ⟨.here, nofun, if_pos hhere⟩
  · have hidle : isIdle piece = false := by simp [isIdle, hne, hhere]
    obtain ⟨part, hroot, hpart⟩ := exists_ofPiece? hidle
    exact ⟨part, hroot, by rw [leading, if_neg hhere, hpart, Option.toList_some]⟩

theorem parts_of_isAbsolute (hpieces : path.pieces = first :: rest)
    (habsolute : path.isAbsolute = true) :
    path.parts = .root :: rest.filterMap Part.ofPiece? := by
  rw [parts, hpieces]
  simp only [habsolute, if_true]
  rfl

theorem parts_of_not_isAbsolute (hpieces : path.pieces = first :: rest)
    (hrelative : path.isAbsolute = false) :
    path.parts = leading first ++ rest.filterMap Part.ofPiece? := by
  rw [parts, hpieces]
  simp only [hrelative, Bool.false_eq_true, if_false]
  rfl

theorem parts_empty : (FilePath.mk "").parts = [] := by decide

/-- The parts of the pieces that a path from the root is joined from. -/
theorem parts_rooted (hslash : ∀ piece ∈ pieces, '/' ∉ piece) :
    (FilePath.mk (String.ofList ('/' :: joinPieces pieces))).parts =
      .root :: pieces.filterMap Part.ofPiece? := by
  have habsolute : (FilePath.mk (String.ofList ('/' :: joinPieces pieces))).isAbsolute = true := by
    simp [isAbsolute]
  cases pieces with
  | nil => decide
  | cons second others =>
      have hjoin : '/' :: joinPieces (second :: others) = joinPieces ([] :: second :: others) :=
        (joinPieces_cons (List.cons_ne_nil second others) []).symm
      rw [hjoin] at habsolute ⊢
      refine parts_of_isAbsolute (pieces_joinPieces (List.cons_ne_nil _ _) ?_) habsolute
      exact List.forall_mem_cons.mpr ⟨List.not_mem_nil, hslash⟩

/-- The parts of the pieces that a path not from the root is joined from. -/
theorem parts_relative (hne : first ≠ []) (hslash : ∀ piece ∈ first :: pieces, '/' ∉ piece) :
    (FilePath.mk (String.ofList (joinPieces (first :: pieces)))).parts =
      leading first ++ pieces.filterMap Part.ofPiece? := by
  have hpieces := pieces_joinPieces (List.cons_ne_nil first pieces) hslash
  exact parts_of_not_isAbsolute hpieces (not_isAbsolute hpieces hne)

/-! ### One directory up -/

theorem exists_filterMap_of_dropWhile_reverse {behind : List (List Char)}
    (hdrop : pieces.reverse.dropWhile isIdle = piece :: behind) :
    ∃ part, part ≠ .root ∧ pieces.filterMap Part.ofPiece? =
      (behind.dropWhile isIdle).reverse.filterMap Part.ofPiece? ++ [part] := by
  obtain ⟨part, hroot, hpart⟩ := exists_ofPiece? (isIdle_of_dropWhile_eq hdrop)
  have hidle : ∀ pieces : List (List Char),
      (pieces.takeWhile isIdle).reverse.filterMap Part.ofPiece? = [] := by
    intro pieces
    apply filterMap_ofPiece?_of_isIdle
    intro piece hmem
    exact List.all_eq_true.mp List.all_takeWhile piece (List.mem_reverse.mp hmem)
  refine ⟨part, hroot, ?_⟩
  conv =>
    lhs
    rw [eq_append_of_dropWhile_reverse hdrop]
  rw [List.filterMap_append, List.filterMap_append, List.filterMap_cons_some hpart, hidle, hidle]
  rfl

theorem filterMap_of_dropWhile_reverse_eq_nil (hdrop : pieces.reverse.dropWhile isIdle = []) :
    pieces.filterMap Part.ofPiece? = [] := by
  apply filterMap_ofPiece?_of_isIdle
  intro piece hmem
  exact List.dropWhile_eq_nil_iff.mp hdrop piece (List.mem_reverse.mpr hmem)

/-- The path above has the same parts without the last one, which is not the root. -/
theorem parts_of_parent? (hparent : path.parent? = some parent) :
    ∃ part, part ≠ .root ∧ path.parts = parent.parts ++ [part] := by
  revert hparent
  fun_cases parent? path <;> intro hparent <;> cases hparent
  case case3 first rest hpieces hdrop hne =>
    have hfirst : first ≠ [] := fun hfirst => hne (List.isEmpty_iff.mpr hfirst)
    obtain ⟨part, hroot, hleading⟩ := exists_leading hfirst
    refine ⟨part, hroot, ?_⟩
    rw [parts_of_not_isAbsolute hpieces (not_isAbsolute hpieces hfirst), hleading,
      filterMap_of_dropWhile_reverse_eq_nil hdrop, parts_empty]
    rfl
  case case4 first rest hpieces piece behind hdrop kept =>
    obtain ⟨part, hroot, hparts⟩ := exists_filterMap_of_dropWhile_reverse hdrop
    have hslash : ∀ piece ∈ first :: kept, '/' ∉ piece := by
      intro piece hmem
      apply path.slash_not_mem_of_mem_pieces
      rw [hpieces, eq_append_of_dropWhile_reverse hdrop]
      rcases List.mem_cons.mp hmem with rfl | hmem
      · exact List.mem_cons_self
      · exact List.mem_cons_of_mem _ (List.mem_append_left _ hmem)
    refine ⟨part, hroot, ?_⟩
    -- an empty piece in front of others is what stands before the slash of the root
    by_cases hfirst : first = []
    · have hrest : rest ≠ [] := by
        rintro rfl
        cases hdrop
      have habsolute := (isAbsolute_iff hpieces).mpr ⟨hfirst, hrest⟩
      rw [parts_of_isAbsolute hpieces habsolute, hparts, if_pos (List.isEmpty_iff.mpr hfirst),
        parts_rooted fun piece hmem => hslash piece (List.mem_cons_of_mem _ hmem)]
      rfl
    · rw [parts_of_not_isAbsolute hpieces (not_isAbsolute hpieces hfirst), hparts,
        if_neg (fun hempty => hfirst (List.isEmpty_iff.mp hempty)), parts_relative hfirst hslash,
        List.append_assoc]

theorem parts_of_parent?_eq_none (hparent : path.parent? = none) :
    path.parts = [] ∨ path.parts = [.root] := by
  revert hparent
  fun_cases parent? path <;> intro hparent <;> cases hparent
  case case1 hpieces =>
    left
    rw [parts, hpieces]
  case case2 first rest hpieces hdrop hempty =>
    obtain rfl := List.isEmpty_iff.mp hempty
    have hrest := filterMap_of_dropWhile_reverse_eq_nil hdrop
    cases habsolute : path.isAbsolute with
    | true =>
        right
        rw [parts_of_isAbsolute hpieces habsolute, hrest]
    | false =>
        left
        rw [parts_of_not_isAbsolute hpieces habsolute, hrest]
        rfl

/-! ### All directories up -/

/-- How many parts of the path are below the root. -/
def depth (path : FilePath) : Nat := path.parts.countP (· != .root)

/-- The path that is left when the last part is left out so many times. -/
def ancestor? : FilePath → Nat → Option FilePath
  | path, 0 => some path
  | path, k + 1 => path.parent?.bind fun parent => parent.ancestor? k

theorem depth_of_parent? (hparent : path.parent? = some parent) :
    path.depth = parent.depth + 1 := by
  obtain ⟨part, hroot, hparts⟩ := parts_of_parent? hparent
  rw [depth, hparts, List.countP_append, ← depth]
  simp [hroot]

theorem depth_of_parent?_eq_none (hparent : path.parent? = none) : path.depth = 0 := by
  rcases parts_of_parent?_eq_none hparent with hparts | hparts <;> rw [depth, hparts] <;> rfl

theorem isSome_ancestor?_iff : (path.ancestor? k).isSome = true ↔ k ≤ path.depth := by
  induction k generalizing path with
  | zero => exact iff_of_true rfl (Nat.zero_le _)
  | succ k ih =>
      rw [ancestor?]
      cases hparent : path.parent? with
      | none => simp [depth_of_parent?_eq_none hparent]
      | some parent =>
          rw [depth_of_parent? hparent, Nat.succ_le_succ_iff]
          exact ih

theorem exists_parts_of_ancestor? (habove : path.ancestor? k = some above) :
    ∃ cut : List Part, cut.length = k ∧ path.parts = above.parts ++ cut := by
  induction k generalizing path with
  | zero =>
      cases habove
      exact ⟨[], rfl, (List.append_nil _).symm⟩
  | succ k ih =>
      obtain ⟨parent, hparent, habove⟩ := Option.bind_eq_some_iff.mp habove
      obtain ⟨cut, hlength, hcut⟩ := ih habove
      obtain ⟨part, _, hparts⟩ := parts_of_parent? hparent
      refine ⟨cut ++ [part], ?_, ?_⟩
      · rw [List.length_append, hlength, List.length_singleton]
      · rw [hparts, hcut, List.append_assoc]

/-! ### Entries of directories -/

/-- Whether a path with this text leads to an entry of a directory. -/
structure IsEntryName (entry : String) : Prop where
  not_idle : isIdle entry.toList = false
  not_up : entry.toList ≠ ['.', '.']
  slash_not_mem : '/' ∉ entry.toList

theorem IsEntryName.ofPiece?_eq (hentry : IsEntryName entry) :
    Part.ofPiece? entry.toList = some (.name entry) := by
  rw [Part.ofPiece?, hentry.not_idle, if_neg (by decide), if_neg hentry.not_up,
    String.ofList_toList]

theorem parts_eq_append {part : Part} {more : List (List Char)}
    (hpieces : path.pieces = first :: rest) (hother : other.pieces = first :: more)
    (hsame : other.isAbsolute = path.isAbsolute)
    (hmore : more.filterMap Part.ofPiece? = rest.filterMap Part.ofPiece? ++ [part]) :
    other.parts = path.parts ++ [part] := by
  cases habsolute : path.isAbsolute with
  | true =>
      rw [habsolute] at hsame
      rw [parts_of_isAbsolute hpieces habsolute, parts_of_isAbsolute hother hsame, hmore]
      rfl
  | false =>
      rw [habsolute] at hsame
      rw [parts_of_not_isAbsolute hpieces habsolute, parts_of_not_isAbsolute hother hsame, hmore,
        List.append_assoc]

theorem head?_ne_slash (hslash : '/' ∉ entry.toList) : entry.toList.head? ≠ some '/' :=
  fun hhead => hslash (List.mem_of_head? hhead)

theorem join_of_getLast? (hslash : '/' ∉ entry.toList)
    (hlast : path.text.toList.getLast?.all (· == '/') = true) :
    path.join entry = ⟨path.text ++ entry⟩ := by
  rw [join, if_neg (head?_ne_slash hslash), if_pos hlast]

theorem join_of_not_getLast? (hslash : '/' ∉ entry.toList)
    (hlast : path.text.toList.getLast?.all (· == '/') = false) :
    path.join entry = ⟨path.text ++ "/" ++ entry⟩ := by
  rw [join, if_neg (head?_ne_slash hslash), if_neg (Bool.eq_false_iff.mp hlast)]

/-- The pieces of an entry are those of its directory and its name, which takes the place of what
stands behind a slash at the end. -/
theorem exists_pieces_join (hslash : '/' ∉ entry.toList) (hne : path.text.toList ≠ []) :
    ∃ first rest more, path.pieces = first :: rest ∧
      (path.join entry).pieces = first :: (more ++ [entry.toList]) ∧
      (rest = more ∨ rest = more ++ [[]]) := by
  have hname : entry.toList.splitOn '/' = [entry.toList] := List.splitOn_eq_singleton hslash
  cases hlast : path.text.toList.getLast?.all (· == '/') with
  | true =>
      obtain ⟨front, htext⟩ : ∃ front, path.text.toList = front ++ ['/'] := by
        rw [List.getLast?_eq_some_getLast hne, Option.all_some, beq_iff_eq] at hlast
        exact ⟨_, by rw [← hlast, List.dropLast_append_getLast hne]⟩
      obtain ⟨first, more, hfront⟩ := List.exists_cons_of_ne_nil (List.splitOn_ne_nil '/' front)
      refine ⟨first, more ++ [[]], more, ?_, ?_, .inr rfl⟩
      · rw [pieces, htext, List.splitOn_append_cons_self, hfront]
        rfl
      · rw [join_of_getLast? hslash hlast, pieces, String.toList_append, htext, List.append_assoc,
          List.cons_append, List.splitOn_append_cons_self, hfront, List.nil_append, hname]
        rfl
  | false =>
      obtain ⟨first, more, hpieces⟩ := List.exists_cons_of_ne_nil
        (List.splitOn_ne_nil '/' path.text.toList)
      refine ⟨first, more, more, hpieces, ?_, .inl rfl⟩
      rw [join_of_not_getLast? hslash hlast, pieces, String.toList_append, String.toList_append,
        List.append_assoc]
      change List.splitOn '/' (path.text.toList ++ '/' :: entry.toList) = _
      rw [List.splitOn_append_cons_self, hpieces, hname]
      rfl

theorem toList_ne_nil (hpieces : [] ∉ path.pieces) : path.text.toList ≠ [] := by
  intro hempty
  rw [pieces, hempty] at hpieces
  exact hpieces (List.mem_singleton_self [])

/-- Behind a path without empty pieces a name is one more piece. -/
theorem pieces_join (hslash : '/' ∉ entry.toList) (hpieces : [] ∉ path.pieces) :
    (path.join entry).pieces = path.pieces ++ [entry.toList] := by
  obtain ⟨first, rest, more, hbefore, hjoined, rfl | rfl⟩ :=
    exists_pieces_join hslash (toList_ne_nil hpieces)
  · rw [hjoined, hbefore]
    rfl
  · rw [hbefore] at hpieces
    exact absurd (List.mem_cons_of_mem _ (List.mem_append_right _ List.mem_cons_self)) hpieces

theorem isAbsolute_join (hslash : '/' ∉ entry.toList) (hne : path.text.toList ≠ []) :
    (path.join entry).isAbsolute = path.isAbsolute := by
  cases hlast : path.text.toList.getLast?.all (· == '/') with
  | true =>
      rw [join_of_getLast? hslash hlast, isAbsolute, isAbsolute, String.toList_append,
        List.head?_append_of_ne_nil _ hne]
  | false =>
      rw [join_of_not_getLast? hslash hlast, isAbsolute, isAbsolute, String.toList_append,
        String.toList_append, List.append_assoc, List.head?_append_of_ne_nil _ hne]

theorem parts_entry (hentry : IsEntryName entry) : (FilePath.mk entry).parts = [.name entry] := by
  have hpieces : (FilePath.mk entry).pieces = [entry.toList] :=
    List.splitOn_eq_singleton hentry.slash_not_mem
  have hne : entry.toList ≠ [] := by
    intro hempty
    exact absurd hentry.not_idle (by rw [hempty]; decide)
  have hhere : entry.toList ≠ ['.'] := by
    intro hhere
    exact absurd hentry.not_idle (by rw [hhere]; decide)
  rw [parts_of_not_isAbsolute hpieces (not_isAbsolute hpieces hne), leading, if_neg hhere,
    hentry.ofPiece?_eq]
  rfl

/-- An entry of a directory has the parts of the directory and its name. -/
theorem parts_join (hentry : IsEntryName entry) (path : FilePath) :
    (path.join entry).parts = path.parts ++ [.name entry] := by
  by_cases hne : path.text.toList = []
  · obtain rfl : path = ⟨""⟩ := by rw [← String.toList_eq_nil_iff.mp hne]
    rw [join_of_getLast? hentry.slash_not_mem rfl, String.empty_append, parts_entry hentry,
      parts_empty]
    rfl
  · obtain ⟨first, rest, more, hpieces, hjoined, hrest⟩ :=
      exists_pieces_join hentry.slash_not_mem hne
    apply parts_eq_append hpieces hjoined (isAbsolute_join hentry.slash_not_mem hne)
    have hname : [entry.toList].filterMap Part.ofPiece? = [.name entry] := by
      rw [List.filterMap_cons_some hentry.ofPiece?_eq]
      rfl
    rw [List.filterMap_append, hname]
    rcases hrest with rfl | rfl
    · rfl
    · have hempty : [[]].filterMap Part.ofPiece? = [] := rfl
      rw [List.filterMap_append, hempty, List.append_nil]

theorem join_ne_of_ancestor? {lower : FilePath} {j : Nat} (hentry : IsEntryName entry)
    (hlower : path.ancestor? j = some lower) (habove : path.ancestor? k = some above)
    (hlt : j < k) : lower.join entry ≠ above.join entry := by
  intro hsame
  obtain ⟨cut, hcut, hparts⟩ := exists_parts_of_ancestor? hlower
  obtain ⟨cut', hcut', hparts'⟩ := exists_parts_of_ancestor? habove
  have hlength := congrArg List.length (hparts.symm.trans hparts')
  have hjoined := congrArg (fun path : FilePath => path.parts.length) hsame
  simp only [parts_join hentry, List.length_append, List.length_singleton] at hlength hjoined
  omega

end FilePath

end DispatchAudit.Files
