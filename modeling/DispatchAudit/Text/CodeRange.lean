/-!
# Ranges of code points

A character property is a list of closed ranges of code points, written out in a table module of
its own. A character has the property when some range of the table contains it.
-/

namespace DispatchAudit.Text

structure CodeRange where
  first : Nat
  last : Nat

def CodeRange.contains (range : CodeRange) (c : Char) : Bool :=
  Nat.ble range.first c.toNat && Nat.ble c.toNat range.last

def inTable (table : List CodeRange) (c : Char) : Bool :=
  table.any fun range => range.contains c

theorem CodeRange.contains_iff {range : CodeRange} {c : Char} :
    range.contains c = true ↔ range.first ≤ c.toNat ∧ c.toNat ≤ range.last := by
  simp [CodeRange.contains]

theorem inTable_iff {table : List CodeRange} {c : Char} :
    inTable table c = true ↔ ∃ range ∈ table, range.first ≤ c.toNat ∧ c.toNat ≤ range.last := by
  simp [inTable, CodeRange.contains_iff]

end DispatchAudit.Text
