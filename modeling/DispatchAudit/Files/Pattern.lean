/-!
# File name patterns

In a pattern a question mark stands for one character, a star for any run of characters, and a
bracketed class for one character of a set, or for one outside it when the class begins with an
exclamation mark. Everything else stands for itself, so a backslash or a brace is no more than a
character. Two stars are allowed only as a whole component of a path, where they stand for any
number of directories. A pattern is read as a whole first, and each component on its own after
that, so a class may not reach across a slash.
-/

namespace DispatchAudit.Files

inductive PatternFlaw where
  | tooManyStars
  | starsInName
  | brokenClass
deriving DecidableEq, Repr, Inhabited

def PatternFlaw.message : PatternFlaw → String
  | tooManyStars => "wildcards are either regular `*` or recursive `**`"
  | starsInName => "recursive wildcards must form a single path component"
  | brokenClass => "invalid range pattern"

/-- A flaw and the index of the character that shows it. -/
structure PatternFault where
  position : Nat
  flaw : PatternFlaw
deriving DecidableEq, Repr, Inhabited

def PatternFault.message (fault : PatternFault) : String :=
  "Pattern syntax error near position " ++ toString fault.position ++ ": " ++ fault.flaw.message

/-- The characters from the first to the last one. -/
structure CharSpan where
  first : Char
  last : Char
deriving DecidableEq, Repr, Inhabited

def CharSpan.contains (span : CharSpan) (c : Char) : Bool :=
  Nat.ble span.first.toNat c.toNat && Nat.ble c.toNat span.last.toNat

/-- The spans of a class, where a hyphen between two characters joins them. -/
def spansOf : List Char → List CharSpan
  | first :: '-' :: last :: rest => ⟨first, last⟩ :: spansOf rest
  | c :: rest => ⟨c, c⟩ :: spansOf rest
  | [] => []

inductive PatternItem where
  | exactly (c : Char)
  | anyChar
  | anyRun
  | anyDirectories
  | oneOf (spans : List CharSpan)
  | noneOf (spans : List CharSpan)
deriving DecidableEq, Repr, Inhabited

/-- What a bracket opens: the class and the text after it. The character after the opening, or
after the exclamation mark, belongs to the class even if it is a closing bracket. -/
def classAfter? : List Char → Option (PatternItem × List Char)
  | [] => none
  | '!' :: rest =>
    match rest with
    | [] => none
    | c :: more =>
      if more.contains ']' then
        some (.noneOf (spansOf (c :: more.takeWhile (· != ']'))),
          (more.dropWhile (· != ']')).drop 1)
      else none
  | c :: more =>
    if more.contains ']' then
      some (.oneOf (spansOf (c :: more.takeWhile (· != ']'))), (more.dropWhile (· != ']')).drop 1)
    else none

/-- What a run of two stars stands for: the text after it and after the slash that ends it, if
the stars are a whole component. -/
def directoriesAfter (index : Nat) (before : Option Char) (rest : List Char) :
    Except PatternFault (List Char) :=
  if before.all (· == '/') then
    match rest with
    | [] => .ok []
    | c :: more => if c = '/' then .ok more else .error ⟨index + 2, .starsInName⟩
  else .error ⟨index - 1, .starsInName⟩

theorem length_classAfter?_lt {text rest : List Char} {item : PatternItem}
    (h : classAfter? text = some (item, rest)) : rest.length < text.length := by
  have hdrop (more : List Char) : ((more.dropWhile (· != ']')).drop 1).length ≤ more.length := by
    have := (List.dropWhile_sublist (l := more) (· != ']')).length_le
    simp only [List.length_drop]
    omega
  unfold classAfter? at h
  split at h
  · cases h
  · split at h
    · cases h
    · rename_i c more
      split at h
      · cases h
        have := hdrop more
        simp only [List.length_cons]
        omega
      · cases h
  · rename_i c more _
    split at h
    · cases h
      have := hdrop more
      simp only [List.length_cons]
      omega
    · cases h

theorem length_directoriesAfter_le {index : Nat} {before : Option Char} {text rest : List Char}
    (h : directoriesAfter index before text = .ok rest) : rest.length ≤ text.length := by
  unfold directoriesAfter at h
  split at h
  · split at h
    · cases h
      exact Nat.le_refl _
    · split at h
      · cases h
        exact Nat.le_succ _
      · cases h
  · cases h

/-- The items of a pattern text that begins at the given index, after the given character. -/
def itemsFrom (index : Nat) (before : Option Char) (text : List Char) :
    Except PatternFault (List PatternItem) :=
  match text with
  | [] => .ok []
  | '?' :: rest => (itemsFrom (index + 1) (some '?') rest).map (.anyChar :: ·)
  | '*' :: '*' :: '*' :: _ => .error ⟨index + 2, .tooManyStars⟩
  | '*' :: '*' :: rest =>
    match h : directoriesAfter index before rest with
    | .error fault => .error fault
    | .ok after =>
      have := length_directoriesAfter_le h
      (itemsFrom (index + 2 + (rest.length - after.length))
        (if rest.isEmpty then some '*' else some '/') after).map (.anyDirectories :: ·)
  | '*' :: rest => (itemsFrom (index + 1) (some '*') rest).map (.anyRun :: ·)
  | '[' :: rest =>
    match h : classAfter? rest with
    | none => .error ⟨index, .brokenClass⟩
    | some (item, after) =>
      have := length_classAfter?_lt h
      (itemsFrom (index + 1 + (rest.length - after.length)) (some ']') after).map (item :: ·)
  | c :: rest => (itemsFrom (index + 1) (some c) rest).map (.exactly c :: ·)
termination_by text.length
decreasing_by all_goals simp only [List.length_cons]; omega

def itemsOf (text : List Char) : Except PatternFault (List PatternItem) := itemsFrom 0 none text

/-- Whether an item that stands for one character stands for this one. -/
def PatternItem.accepts : PatternItem → Char → Bool
  | exactly c, other => c == other
  | anyChar, _ => true
  | anyRun, _ => false
  | anyDirectories, _ => false
  | oneOf spans, c => spans.any (·.contains c)
  | noneOf spans, c => !spans.any (·.contains c)

def PatternItem.isRun : PatternItem → Bool
  | anyRun => true
  | anyDirectories => true
  | _ => false

/-- For each end of a name, the whole name first and the empty end last, whether the items that
follow match it, given that for the items after the first one. -/
def PatternItem.prepend (item : PatternItem) : List Char → List Bool → List Bool
  | [], after => if item.isRun then after else [false]
  | _ :: _, [] => []
  | c :: rest, matched :: after =>
    let shorter := prepend item rest after
    if item.isRun then (matched || shorter.head?.getD false) :: shorter
    else (item.accepts c && after.head?.getD false) :: shorter

/-- For each end of a name, whether the items match it. -/
def matchEnds : List PatternItem → List Char → List Bool
  | [], name => List.replicate name.length false ++ [true]
  | item :: rest, name => item.prepend name (matchEnds rest name)

def matchName (items : List PatternItem) (name : List Char) : Bool :=
  (matchEnds items name).head?.getD false

/-- One component of a path pattern. -/
inductive PatternComponent where
  /-- One entry with exactly this name. -/
  | literal (name : String)
  /-- Any number of directories. -/
  | directories
  /-- The entries whose names match. -/
  | wild (items : List PatternItem)
deriving DecidableEq, Repr, Inhabited

def PatternItem.literal? : PatternItem → Option Char
  | exactly c => some c
  | _ => none

def PatternComponent.ofItems (items : List PatternItem) : PatternComponent :=
  if items.contains .anyDirectories then directories
  else match items.mapM PatternItem.literal? with
    | some name => literal (String.ofList name)
    | none => wild items

/-- Whether the component matches a single name. -/
def PatternComponent.accepts : PatternComponent → String → Bool
  | literal expected, name => expected == name
  | directories, _ => false
  | wild items, name => matchName items name.toList

/-- Whether the component is wild and begins with a dot that stands for itself. -/
def PatternComponent.beginsWithDot : PatternComponent → Bool
  | wild items => items.head? == some (.exactly '.')
  | _ => false

structure Pattern where
  absolute : Bool
  components : List PatternComponent
  onlyDirectories : Bool
deriving DecidableEq, Repr, Inhabited

namespace Pattern

/-- Whether a path text holds a character that makes it a pattern. -/
def isWild (text : List Char) : Bool := text.any fun c => c == '*' || c == '?' || c == '['

/-- What stands between the slashes of a text. What follows the last slash does not count if it
is empty. -/
def componentTexts (text : List Char) : List (List Char) :=
  let pieces := text.splitOn '/'
  if pieces.getLast? = some [] then pieces.dropLast else pieces

def ofText (text : List Char) : Except PatternFault Pattern := do
  let _ ← itemsOf text
  let absolute := text.head? == some '/'
  let components ← (componentTexts (text.drop (if absolute then 1 else 0))).mapM itemsOf
  return {
    absolute
    components := components.map .ofItems
    onlyDirectories := text.getLast? == some '/' }

end Pattern

end DispatchAudit.Files
