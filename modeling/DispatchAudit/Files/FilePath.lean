/-!
# Paths

A path keeps the text it was written as, because reports and messages show that text. Two
readings of the text matter. Its parts are what paths are ordered by: repeated slashes and single
dots say nothing there, except that a dot in front is kept. Its pieces are what stands between
slashes, and leaving out the last part cuts the text without changing the rest of it.
-/

namespace DispatchAudit.Files

/-- A path as it is written. -/
structure FilePath where
  text : String
deriving DecidableEq, Repr, Inhabited

/-- A part of a path, in the order in which parts are compared. -/
inductive Part where
  | root
  | here
  | up
  | name (text : String)
deriving DecidableEq, Repr, Inhabited

def Part.rank : Part → Nat
  | root => 0
  | here => 1
  | up => 2
  | name _ => 3

/-- Names are compared by code points, other parts by their kind. -/
def Part.order : Part → Part → Ordering
  | name left, name right => compare left right
  | left, right => compare left.rank right.rank

/-- Parts are compared one after another, and what ends first comes first. -/
def Part.orderAll : List Part → List Part → Ordering
  | [], [] => .eq
  | [], _ :: _ => .lt
  | _ :: _, [] => .gt
  | left :: lefts, right :: rights => (left.order right).then (orderAll lefts rights)

/-- Whether the piece of a path says nothing, being empty or a single dot. -/
def isIdle (piece : List Char) : Bool := piece.isEmpty || piece == ['.']

/-- The part that a piece of a path stands for, if it says anything. -/
def Part.ofPiece? (piece : List Char) : Option Part :=
  if isIdle piece then none
  else if piece = ['.', '.'] then some up
  else some (name (String.ofList piece))

/-- The text of pieces with a slash between any two of them. -/
def joinPieces (pieces : List (List Char)) : List Char := List.intercalate ['/'] pieces

namespace FilePath

/-- What stands between the slashes of a path. -/
def pieces (path : FilePath) : List (List Char) := path.text.toList.splitOn '/'

def isAbsolute (path : FilePath) : Bool := path.text.toList.head? == some '/'

def parts (path : FilePath) : List Part :=
  match path.pieces with
  | [] => []
  | first :: rest =>
    (if path.isAbsolute then [.root]
      else if first = ['.'] then [.here]
      else (Part.ofPiece? first).toList) ++ rest.filterMap Part.ofPiece?

/-- Whether the first path comes before the second one or has the same parts. -/
def le (left right : FilePath) : Bool := (Part.orderAll left.parts right.parts).isLE

def sameParts (left right : FilePath) : Bool := left.parts == right.parts

/-- The path of an entry of a directory. A path that starts at the root replaces the directory. -/
def join (directory : FilePath) (entry : String) : FilePath :=
  if entry.toList.head? = some '/' then ⟨entry⟩
  else if directory.text.toList.getLast?.all (· == '/') then ⟨directory.text ++ entry⟩
  else ⟨directory.text ++ "/" ++ entry⟩

/-- The path without its last part, unless it has none to leave out. -/
def parent? (path : FilePath) : Option FilePath :=
  match path.pieces with
  | [] => none
  | first :: rest =>
    match rest.reverse.dropWhile isIdle with
    | [] => if first.isEmpty then none else some ⟨""⟩
    | _ :: above =>
      let kept := (above.dropWhile isIdle).reverse
      some ⟨String.ofList
        (if first.isEmpty then '/' :: joinPieces kept else joinPieces (first :: kept))⟩

/-- The absolute path with the given names. -/
def ofNames (names : List String) : FilePath :=
  ⟨String.ofList ('/' :: joinPieces (names.map String.toList))⟩

end FilePath

theorem joinPieces_pieces (path : FilePath) : joinPieces path.pieces = path.text.toList :=
  List.intercalate_splitOn '/'

theorem joinPieces_cons {rest : List (List Char)} (h : rest ≠ []) (first : List Char) :
    joinPieces (first :: rest) = first ++ '/' :: joinPieces rest := by
  cases rest with
  | nil => exact absurd rfl h
  | cons second others => simp [joinPieces, List.intercalate_cons_cons]

theorem length_joinPieces_pos {piece : List Char} {pieces : List (List Char)}
    (hmem : piece ∈ pieces) (hne : piece ≠ []) : 0 < (joinPieces pieces).length := by
  have hpiece := List.length_pos_iff.mpr hne
  induction pieces with
  | nil => cases hmem
  | cons first rest ih =>
    by_cases hrest : rest = []
    · subst hrest
      simp only [List.mem_singleton] at hmem
      subst hmem
      simpa [joinPieces] using hpiece
    · rw [joinPieces_cons hrest, List.length_append, List.length_cons]
      omega

theorem length_joinPieces_lt_append {piece : List Char} (kept : List (List Char))
    {cut : List (List Char)} (hmem : piece ∈ cut) (hne : piece ≠ []) :
    (joinPieces kept).length < (joinPieces (kept ++ cut)).length := by
  induction kept with
  | nil => exact length_joinPieces_pos hmem hne
  | cons first rest ih =>
    have htail : rest ++ cut ≠ [] := by simp [List.ne_nil_of_mem hmem]
    rw [List.cons_append, joinPieces_cons htail]
    by_cases hrest : rest = []
    · subst hrest
      simp [joinPieces]
    · rw [joinPieces_cons hrest]
      simp only [List.length_append, List.length_cons]
      omega

/-- What is left in front when the last piece that says something is left out, with the pieces in
front of it and behind it that say nothing. -/
theorem eq_append_of_dropWhile_reverse {pieces above : List (List Char)} {piece : List Char}
    (hdrop : pieces.reverse.dropWhile isIdle = piece :: above) :
    pieces = (above.dropWhile isIdle).reverse ++ ((above.takeWhile isIdle).reverse ++
      piece :: (pieces.reverse.takeWhile isIdle).reverse) := by
  have hwhole := List.takeWhile_append_dropWhile (p := isIdle) (l := pieces.reverse)
  have habove : above.reverse =
      (above.dropWhile isIdle).reverse ++ (above.takeWhile isIdle).reverse := by
    rw [← List.reverse_append, List.takeWhile_append_dropWhile]
  have := congrArg List.reverse hwhole
  rw [List.reverse_append, hdrop, List.reverse_cons, habove, List.reverse_reverse] at this
  exact this.symm.trans (by simp only [List.append_assoc, List.cons_append, List.nil_append])

theorem isIdle_of_dropWhile_eq {pieces above : List (List Char)} {piece : List Char}
    (hdrop : pieces.dropWhile isIdle = piece :: above) : isIdle piece = false := by
  have hhead := List.head_dropWhile_not isIdle (l := pieces) (by simp [hdrop])
  simpa [hdrop] using hhead

/-- Leaving out the last part of a path leaves out some of its text. -/
theorem FilePath.length_of_parent? {path parent : FilePath} (h : path.parent? = some parent) :
    parent.text.toList.length < path.text.toList.length := by
  rw [← joinPieces_pieces path]
  unfold parent? at h
  split at h
  · cases h
  · rename_i first rest hpieces
    rw [hpieces]
    split at h
    · split at h
      · cases h
      · rename_i hfirst
        cases h
        exact length_joinPieces_pos List.mem_cons_self (by simpa using hfirst)
    · rename_i piece above hdrop
      have hpiece : piece ≠ [] := by
        rintro rfl
        exact absurd (isIdle_of_dropWhile_eq hdrop) (by decide)
      have hrest := eq_append_of_dropWhile_reverse hdrop
      have hmem : piece ∈ (above.takeWhile isIdle).reverse ++
          piece :: (rest.reverse.takeWhile isIdle).reverse := by simp
      simp only [Option.some.injEq] at h
      subst h
      simp only [String.toList_ofList]
      split
      · rename_i hfirst
        rw [List.isEmpty_iff.mp hfirst, joinPieces_cons (by rw [hrest]; simp)]
        have := length_joinPieces_lt_append (above.dropWhile isIdle).reverse hmem hpiece
        rw [← hrest] at this
        simpa using this
      · have := length_joinPieces_lt_append (first :: (above.dropWhile isIdle).reverse)
          hmem hpiece
        rwa [List.cons_append, ← hrest] at this

end DispatchAudit.Files
