/-!
# Rosters of method names

A roster is the list of method names found in one kind of source: in source order, with every
repetition kept. Three views forget part of it. `distinct` keeps the first occurrence of each
name, `counts` keeps how often each name occurs, and `repeated` keeps the names that occur more
than once.
-/

namespace DispatchAudit

/-- Method names in the order in which they were found. -/
structure Roster where
  names : List String
deriving DecidableEq, Repr, Inhabited

structure Tally where
  name : String
  count : Nat
deriving DecidableEq, Repr, Inhabited

namespace Roster

def empty : Roster := ⟨[]⟩

def ofList (names : List String) : Roster := ⟨names⟩

def push (roster : Roster) (name : String) : Roster := ⟨roster.names ++ [name]⟩

def append (first second : Roster) : Roster := ⟨first.names ++ second.names⟩

instance : Append Roster := ⟨append⟩

def concat (rosters : List Roster) : Roster := ⟨rosters.flatMap names⟩

/-- The number of names, repetitions included. -/
def size (roster : Roster) : Nat := roster.names.length

def isEmpty (roster : Roster) : Bool := roster.names.isEmpty

def count (roster : Roster) (name : String) : Nat := roster.names.count name

/-- Each name once, in the order of first occurrences. -/
def distinct (roster : Roster) : List String := roster.names.eraseDups

/-- Each name once, in ascending order. -/
def sorted (roster : Roster) : List String :=
  roster.distinct.mergeSort fun left right => decide (left ≤ right)

/-- How often each name occurs, in the order of first occurrences. -/
def tallies (roster : Roster) : List Tally :=
  roster.distinct.map fun name => ⟨name, roster.count name⟩

/-- How often each name occurs, in ascending order of the names. Two rosters have the same
counts exactly if each name occurs equally often in both. -/
def counts (roster : Roster) : List Tally :=
  roster.sorted.map fun name => ⟨name, roster.count name⟩

/-- The names that occur more than once, in the order of first occurrences. -/
def repeated (roster : Roster) : List Tally :=
  roster.tallies.filter fun tally => 1 < tally.count

/-- The distinct names of the first roster that the second one lacks. -/
def missingFrom (roster other : Roster) : List String :=
  roster.distinct.filter fun name => !other.names.contains name

/-- The distinct names that occur in both rosters. -/
def shared (roster other : Roster) : List String :=
  roster.distinct.filter fun name => other.names.contains name

@[simp] theorem names_empty : empty.names = [] := rfl

@[simp] theorem names_ofList (names : List String) : (ofList names).names = names := rfl

theorem ofList_names (roster : Roster) : ofList roster.names = roster := rfl

@[simp] theorem names_push (roster : Roster) (name : String) :
    (roster.push name).names = roster.names ++ [name] := rfl

@[simp] theorem names_append (first second : Roster) :
    (first ++ second).names = first.names ++ second.names := rfl

@[simp] theorem names_concat (rosters : List Roster) :
    (concat rosters).names = rosters.flatMap names := rfl

theorem concat_singleton (roster : Roster) : concat [roster] = roster := by
  simp [concat]

theorem missingFrom_length_add_shared_length (roster other : Roster) :
    (roster.missingFrom other).length + (roster.shared other).length = roster.distinct.length := by
  rw [Nat.add_comm]
  simpa [missingFrom, shared, List.countP_eq_length_filter] using
    (List.length_eq_countP_add_countP (l := roster.distinct)
      fun name => other.names.contains name).symm

end Roster

end DispatchAudit
