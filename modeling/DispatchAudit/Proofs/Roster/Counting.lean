import DispatchAudit.Roster
import Mathlib.Data.List.Perm.Subperm

/-!
# Counting names

What the sizes of a roster's views say about the roster. The distinct names are never more than
all names, and as many only if no name is repeated; the names shared with another roster are as
many as all names only if, besides, the other roster has each of them. Equal counts are the same
as one roster being a permutation of the other.
-/

namespace DispatchAudit.Roster

variable {roster other : Roster} {name : String}

private theorem nodup_eraseDups (names : List String) : names.eraseDups.Nodup := by
  induction hlength : names.length using Nat.strongRecOn generalizing names with
  | ind length ih =>
      cases names with
      | nil => exact List.nodup_nil
      | cons name rest =>
          have hfewer : (rest.filter fun later => !later == name).length < length := by
            rw [← hlength]
            exact Nat.lt_succ_of_le (List.length_filter_le _ _)
          rw [List.eraseDups_cons]
          apply List.nodup_cons.mpr
          refine ⟨?_, ih _ hfewer _ rfl⟩
          intro hmem
          have hkept := (List.mem_filter.mp (List.mem_eraseDups.mp hmem)).2
          simp at hkept

/-! ### Distinct names -/

@[simp] theorem mem_distinct : name ∈ roster.distinct ↔ name ∈ roster.names :=
  List.mem_eraseDups

theorem nodup_distinct (roster : Roster) : roster.distinct.Nodup :=
  nodup_eraseDups roster.names

theorem distinct_subperm (roster : Roster) : List.Subperm roster.distinct roster.names :=
  roster.nodup_distinct.subperm fun _ hname => mem_distinct.mp hname

theorem length_distinct_of_nodup (hnodup : roster.names.Nodup) :
    roster.distinct.length = roster.size := by
  have hperm : roster.distinct.Perm roster.names :=
    (List.perm_ext_iff_of_nodup roster.nodup_distinct hnodup).mpr fun _ => mem_distinct
  exact hperm.length_eq

theorem distinct_perm_of_perm (hperm : roster.names.Perm other.names) :
    roster.distinct.Perm other.distinct := by
  apply (List.perm_ext_iff_of_nodup roster.nodup_distinct other.nodup_distinct).mpr
  intro name
  rw [mem_distinct, mem_distinct, hperm.mem_iff]

/-! ### Shared and missing names -/

theorem mem_shared : name ∈ roster.shared other ↔ name ∈ roster.names ∧ name ∈ other.names := by
  simp [shared]

theorem shared_subperm (roster other : Roster) :
    List.Subperm (roster.shared other) roster.names :=
  List.filter_sublist.subperm.trans roster.distinct_subperm

theorem nodup_shared (roster other : Roster) : (roster.shared other).Nodup :=
  roster.nodup_distinct.filter _

theorem shared_eq_distinct (hsubset : roster.names ⊆ other.names) :
    roster.shared other = roster.distinct := by
  apply List.filter_eq_self.mpr
  intro name hname
  exact List.contains_iff_mem.mpr (hsubset (mem_distinct.mp hname))

/-- The shared names are a part of the distinct names and these a part of all names, so they are
as many as all names only if nothing is left out on the way. -/
theorem length_shared_eq_size_iff :
    (roster.shared other).length = roster.size ↔
      roster.names.Nodup ∧ roster.names ⊆ other.names := by
  constructor
  · intro hlength
    have hperm : (roster.shared other).Perm roster.names :=
      (roster.shared_subperm other).perm_of_length_le (Nat.le_of_eq hlength.symm)
    refine ⟨hperm.nodup_iff.mp (roster.nodup_shared other), ?_⟩
    intro name hname
    exact (mem_shared.mp (hperm.mem_iff.mpr hname)).2
  · intro h
    obtain ⟨hnodup, hsubset⟩ := h
    rw [shared_eq_distinct hsubset, length_distinct_of_nodup hnodup]

theorem mem_missingFrom :
    name ∈ roster.missingFrom other ↔ name ∈ roster.names ∧ name ∉ other.names := by
  simp [missingFrom]

theorem missingFrom_eq_nil_iff : roster.missingFrom other = [] ↔ roster.names ⊆ other.names := by
  constructor
  · intro hnil name hname
    by_contra hlacks
    have hmissing : name ∈ roster.missingFrom other := mem_missingFrom.mpr ⟨hname, hlacks⟩
    rw [hnil] at hmissing
    exact List.not_mem_nil hmissing
  · intro hsubset
    apply List.eq_nil_iff_forall_not_mem.mpr
    intro name hmissing
    obtain ⟨hname, hlacks⟩ := mem_missingFrom.mp hmissing
    exact hlacks (hsubset hname)

/-! ### Counts -/

theorem sorted_perm_distinct (roster : Roster) : roster.sorted.Perm roster.distinct :=
  List.mergeSort_perm _ _

theorem mem_sorted : name ∈ roster.sorted ↔ name ∈ roster.names := by
  rw [sorted, List.mem_mergeSort, mem_distinct]

theorem sorted_pairwise (roster : Roster) : roster.sorted.Pairwise (· ≤ ·) := by
  have htrans : ∀ first second third : String, decide (first ≤ second) = true →
      decide (second ≤ third) = true → decide (first ≤ third) = true := by
    intro first second third hfirst hsecond
    exact decide_eq_true (String.le_trans (of_decide_eq_true hfirst) (of_decide_eq_true hsecond))
  have htotal : ∀ left right : String,
      (decide (left ≤ right) || decide (right ≤ left)) = true := by
    intro left right
    simpa using String.le_total left right
  exact (List.pairwise_mergeSort htrans htotal roster.distinct).imp of_decide_eq_true

/-- Only which names occur matters for the names in ascending order. -/
theorem sorted_eq_of_perm (hperm : roster.names.Perm other.names) :
    roster.sorted = other.sorted := by
  have hsorted : roster.sorted.Perm other.sorted :=
    roster.sorted_perm_distinct.trans
      ((distinct_perm_of_perm hperm).trans other.sorted_perm_distinct.symm)
  exact hsorted.eq_of_pairwise (fun _ _ _ _ => String.le_antisymm) roster.sorted_pairwise
    other.sorted_pairwise

theorem counts_perm_tallies (roster : Roster) : roster.counts.Perm roster.tallies :=
  roster.sorted_perm_distinct.map _

theorem map_name_counts (roster : Roster) : roster.counts.map Tally.name = roster.sorted := by
  rw [counts, List.map_map]
  exact List.map_id _

theorem nodup_counts (roster : Roster) : (roster.counts.map Tally.name).Nodup := by
  rw [map_name_counts]
  exact roster.sorted_perm_distinct.nodup_iff.mpr roster.nodup_distinct

theorem mem_counts {tally : Tally} :
    tally ∈ roster.counts ↔
      tally.name ∈ roster.names ∧ tally.count = roster.count tally.name := by
  constructor
  · intro htally
    obtain ⟨name, hname, rfl⟩ := List.mem_map.mp htally
    exact ⟨mem_sorted.mp hname, rfl⟩
  · intro h
    obtain ⟨hname, hcount⟩ := h
    apply List.mem_map.mpr
    refine ⟨tally.name, mem_sorted.mpr hname, ?_⟩
    rw [← hcount]

private theorem count_eq_of_counts_eq_of_mem (hcounts : roster.counts = other.counts)
    (hname : name ∈ roster.names) : roster.count name = other.count name := by
  have htally : (⟨name, roster.count name⟩ : Tally) ∈ other.counts := by
    rw [← hcounts]
    exact mem_counts.mpr ⟨hname, rfl⟩
  exact (mem_counts.mp htally).2

theorem count_eq_of_counts_eq (hcounts : roster.counts = other.counts) (name : String) :
    roster.count name = other.count name := by
  by_cases hroster : name ∈ roster.names
  · exact count_eq_of_counts_eq_of_mem hcounts hroster
  · by_cases hother : name ∈ other.names
    · exact (count_eq_of_counts_eq_of_mem hcounts.symm hother).symm
    · rw [count, count, List.count_eq_zero_of_not_mem hroster,
        List.count_eq_zero_of_not_mem hother]

/-- Two rosters have the same counts exactly if one is a permutation of the other. -/
theorem counts_eq_iff_perm : roster.counts = other.counts ↔ roster.names.Perm other.names := by
  constructor
  · intro hcounts
    exact List.perm_iff_count.mpr (count_eq_of_counts_eq hcounts)
  · intro hperm
    rw [counts, counts, sorted_eq_of_perm hperm]
    apply List.map_congr_left
    intro name _
    rw [count, count, hperm.count_eq]

end DispatchAudit.Roster
