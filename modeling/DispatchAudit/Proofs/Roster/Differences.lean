import DispatchAudit.Proofs.Roster.Counting
import Mathlib.Data.List.Nodup

/-!
# Differences between rosters

Two rosters differ in three ways: one has a name that the other lacks, the other way round, or
a name is repeated on one side and not as often on the other. These three views are lists of
distinct names, so they lose the order and all single occurrences, and still they tell whether
one roster is a permutation of the other. The argument goes name by name: a count above one is
among the repeated names, and a count of zero or one is decided by whether the name is missing.
-/

namespace DispatchAudit.Roster

variable {roster other : Roster} {name : String} {tally : Tally}

/-! ### Repeated names -/

theorem mem_repeated :
    tally ∈ roster.repeated ↔ 1 < tally.count ∧ tally.count = roster.count tally.name := by
  rw [repeated, List.mem_filter, tallies, List.mem_map, decide_eq_true_iff]
  constructor
  · rintro ⟨⟨name, _, rfl⟩, hcount⟩
    exact ⟨hcount, rfl⟩
  · rintro ⟨hcount, heq⟩
    have hmem : tally.name ∈ roster.names := by
      apply List.count_pos_iff.mp
      change 0 < roster.count tally.name
      omega
    exact ⟨⟨tally.name, mem_distinct.mpr hmem, by rw [← heq]⟩, hcount⟩

theorem nodup_repeated (roster : Roster) : roster.repeated.Nodup := by
  apply List.Nodup.filter
  apply List.Nodup.of_map Tally.name
  rw [tallies, List.map_map]
  exact (List.map_id roster.distinct).symm ▸ roster.nodup_distinct

theorem repeated_eq_nil_iff : roster.repeated = [] ↔ roster.names.Nodup := by
  rw [List.nodup_iff_count_le_one, List.eq_nil_iff_forall_not_mem]
  constructor
  · intro hnone name
    by_contra hmore
    exact hnone ⟨name, roster.count name⟩ (mem_repeated.mpr ⟨Nat.lt_of_not_le hmore, rfl⟩)
  · intro hone tally htally
    obtain ⟨hcount, heq⟩ := mem_repeated.mp htally
    have hle : roster.count tally.name ≤ 1 := hone tally.name
    omega

theorem repeated_perm_iff :
    roster.repeated.Perm other.repeated ↔
      ∀ tally : Tally, 1 < tally.count →
        (tally.count = roster.count tally.name ↔ tally.count = other.count tally.name) := by
  rw [List.perm_ext_iff_of_nodup roster.nodup_repeated other.nodup_repeated]
  simp only [mem_repeated, and_congr_right_iff]

/-! ### Permutations -/

theorem count_eq_zero_iff_of_missing (hmissing : roster.missingFrom other = [])
    (hmissing' : other.missingFrom roster = []) (name : String) :
    roster.count name = 0 ↔ other.count name = 0 := by
  have hmem : name ∈ roster.names ↔ name ∈ other.names :=
    ⟨fun hname => missingFrom_eq_nil_iff.mp hmissing hname,
      fun hname => missingFrom_eq_nil_iff.mp hmissing' hname⟩
  rw [count, count, List.count_eq_zero, List.count_eq_zero, hmem]

theorem perm_iff_missing_repeated :
    roster.names.Perm other.names ↔
      roster.missingFrom other = [] ∧ other.missingFrom roster = [] ∧
        roster.repeated.Perm other.repeated := by
  constructor
  · intro hperm
    refine ⟨missingFrom_eq_nil_iff.mpr hperm.subset,
      missingFrom_eq_nil_iff.mpr hperm.symm.subset, repeated_perm_iff.mpr ?_⟩
    intro tally _
    rw [count, count, hperm.count_eq]
  · rintro ⟨hmissing, hmissing', hrepeated⟩
    apply List.perm_iff_count.mpr
    intro name
    change roster.count name = other.count name
    have hzero := count_eq_zero_iff_of_missing hmissing hmissing' name
    have hleft := repeated_perm_iff.mp hrepeated ⟨name, roster.count name⟩
    have hright := repeated_perm_iff.mp hrepeated ⟨name, other.count name⟩
    simp only [true_iff, iff_true] at hleft hright
    by_cases hmore : 1 < roster.count name
    · exact hleft hmore
    · by_cases hmore' : 1 < other.count name
      · exact (hright hmore').symm
      · omega

theorem nodup_and_perm_iff_missing_repeated :
    roster.names.Nodup ∧ roster.names.Perm other.names ↔
      roster.missingFrom other = [] ∧ other.missingFrom roster = [] ∧
        roster.repeated = [] ∧ other.repeated = [] := by
  constructor
  · rintro ⟨hnodup, hperm⟩
    obtain ⟨hmissing, hmissing', _⟩ := perm_iff_missing_repeated.mp hperm
    exact ⟨hmissing, hmissing', repeated_eq_nil_iff.mpr hnodup,
      repeated_eq_nil_iff.mpr (hperm.nodup_iff.mp hnodup)⟩
  · rintro ⟨hmissing, hmissing', hnone, hnone'⟩
    refine ⟨repeated_eq_nil_iff.mp hnone, perm_iff_missing_repeated.mpr ⟨hmissing, hmissing', ?_⟩⟩
    rw [hnone, hnone']

/-! ### Names in another order -/

theorem missingFrom_perm (hperm : roster.names.Perm other.names) (table : Roster) :
    (roster.missingFrom table).Perm (other.missingFrom table) :=
  (distinct_perm_of_perm hperm).filter _

theorem missingFrom_eq_of_perm (table : Roster) (hperm : roster.names.Perm other.names) :
    table.missingFrom roster = table.missingFrom other := by
  apply List.filter_congr
  intro name _
  rw [Bool.eq_iff_iff, Bool.not_eq_true', Bool.not_eq_true', ← Bool.not_eq_true,
    ← Bool.not_eq_true, List.contains_iff_mem, List.contains_iff_mem, hperm.mem_iff]

theorem repeated_perm (hperm : roster.names.Perm other.names) :
    roster.repeated.Perm other.repeated :=
  (perm_iff_missing_repeated.mp hperm).2.2

end DispatchAudit.Roster
