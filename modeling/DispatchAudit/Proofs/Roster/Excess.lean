import DispatchAudit.Proofs.Roster.Counting
import Mathlib.Algebra.BigOperators.Group.List.Lemmas
import Mathlib.Algebra.GroupWithZero.Nat
import Mathlib.Data.Finset.Card

/-!
# Where the names of a roster go

Every name of a roster counts once among the distinct names, and what it counts beyond that is
the excess of the repeated names. The distinct names are shared with another roster or missing
from it. So the size of a roster is accounted for by three views of it that are made apart.
-/

namespace DispatchAudit

/-- How often the names occur beyond once each. -/
def excess (tallies : List Tally) : Nat := (tallies.map fun tally => tally.count - 1).sum

theorem excess_cons (tally : Tally) (tallies : List Tally) :
    excess (tally :: tallies) = tally.count - 1 + excess tallies := by
  rw [excess, List.map_cons, List.sum_cons, excess]

namespace Roster

variable {roster other : Roster}

/-- Names that occur once have no excess. -/
theorem excess_filter (tallies : List Tally) :
    excess (tallies.filter fun tally => 1 < tally.count) = excess tallies := by
  induction tallies with
  | nil => rfl
  | cons tally tallies ih =>
      rw [List.filter_cons]
      split
      · rw [excess_cons, excess_cons, ih]
      · next hfew =>
          have hnone : tally.count - 1 = 0 := by
            simp only [decide_eq_true_eq] at hfew
            omega
          rw [excess_cons, ih, hnone, Nat.zero_add]

theorem sum_count_distinct (roster : Roster) :
    (roster.distinct.map roster.count).sum = roster.size := by
  have hperm : roster.distinct.Perm roster.names.dedup :=
    (List.perm_ext_iff_of_nodup roster.nodup_distinct (List.nodup_dedup _)).mpr fun name => by
      rw [mem_distinct, List.mem_dedup]
  rw [(hperm.map roster.count).sum_eq]
  exact List.sum_map_count_dedup_eq_length roster.names

theorem size_eq_distinct_add_excess (roster : Roster) :
    roster.size = roster.distinct.length + excess roster.repeated := by
  have hcount : ∀ name ∈ roster.distinct, roster.count name = 1 + (roster.count name - 1) := by
    intro name hname
    have hpos : 0 < roster.count name := List.count_pos_iff.mpr (mem_distinct.mp hname)
    omega
  have hexcess : excess roster.tallies =
      (roster.distinct.map fun name => roster.count name - 1).sum := by
    rw [excess, tallies, List.map_map]
    rfl
  rw [repeated, excess_filter, hexcess, ← sum_count_distinct, List.map_congr_left hcount,
    List.sum_map_add]
  simp

theorem length_shared_eq_card :
    (roster.shared other).length = (roster.names.toFinset ∩ other.names.toFinset).card := by
  have hset : (roster.shared other).toFinset = roster.names.toFinset ∩ other.names.toFinset := by
    ext name
    simp [mem_shared]
  rw [← hset, List.toFinset_card_of_nodup (roster.nodup_shared other)]

/-- Each name of a roster is the first of a name that the other has, the first of a name that the
other lacks, or not the first. -/
theorem size_eq_common_add (roster other : Roster) :
    roster.size = (roster.names.toFinset ∩ other.names.toFinset).card +
      (roster.missingFrom other).length + excess roster.repeated := by
  have hdistinct := missingFrom_length_add_shared_length roster other
  rw [length_shared_eq_card] at hdistinct
  rw [size_eq_distinct_add_excess, ← hdistinct]
  omega

end Roster

end DispatchAudit
