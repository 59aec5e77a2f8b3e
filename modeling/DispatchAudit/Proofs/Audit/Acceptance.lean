import DispatchAudit.Audit.Verdict
import DispatchAudit.Proofs.Roster.Counting

/-!
# What the rules accept

The rule of lengths compares three numbers and the rule of multisets two tables of counts. In
terms of the names, the second accepts exactly the permutations and the first exactly the
permutations without a repeated name. A verdict is then decided by two questions that no longer
mention a rule: is one roster a permutation of the other, and does the table, if there is one,
have every dispatched name.
-/

namespace DispatchAudit.Audit

variable {rule : DuplicateRule} {declared dispatched : Roster} {available : Option Roster}

/-! ### The two rules -/

theorem DuplicateRule.length_accepts_iff :
    DuplicateRule.length.accepts declared dispatched = true ↔
      declared.names.Nodup ∧ dispatched.names.Perm declared.names := by
  have hnumbers : DuplicateRule.length.accepts declared dispatched = true ↔
      declared.size = dispatched.size ∧
        (declared.shared dispatched).length = declared.size := by
    simp [accepts]
  rw [hnumbers, Roster.length_shared_eq_size_iff]
  constructor
  · intro h
    obtain ⟨hsize, hnodup, hsubset⟩ := h
    have hsubperm : List.Subperm declared.names dispatched.names := hnodup.subperm hsubset
    exact ⟨hnodup, (hsubperm.perm_of_length_le (Nat.le_of_eq hsize.symm)).symm⟩
  · intro h
    obtain ⟨hnodup, hperm⟩ := h
    exact ⟨hperm.length_eq.symm, hnodup, hperm.symm.subset⟩

theorem DuplicateRule.multiset_accepts_iff :
    DuplicateRule.multiset.accepts declared dispatched = true ↔
      dispatched.names.Perm declared.names := by
  have hcounts : DuplicateRule.multiset.accepts declared dispatched = true ↔
      declared.counts = dispatched.counts := by
    simp [accepts]
  rw [hcounts, Roster.counts_eq_iff_perm, List.perm_comm]

theorem DuplicateRule.multiset_accepts_of_length_accepts
    (haccepts : DuplicateRule.length.accepts declared dispatched = true) :
    DuplicateRule.multiset.accepts declared dispatched = true :=
  multiset_accepts_iff.mpr (length_accepts_iff.mp haccepts).2

/-- Comparing how often each name occurs is the weakest rule. -/
theorem DuplicateRule.multiset_accepts_of_accepts
    (haccepts : rule.accepts declared dispatched = true) :
    DuplicateRule.multiset.accepts declared dispatched = true := by
  cases rule with
  | length => exact multiset_accepts_of_length_accepts haccepts
  | multiset => exact haccepts

/-! ### The verdict after the dispatch comparison -/

/-- Whether the table, if there is one, has every name of the roster. -/
def CoveredBy (roster : Roster) (available : Option Roster) : Prop :=
  ∀ table ∈ available, roster.names ⊆ table.names

theorem not_coveredBy_iff :
    ¬ CoveredBy dispatched available ↔
      ∃ table ∈ available, ∃ name ∈ dispatched.names, name ∉ table.names := by
  simp [CoveredBy, List.subset_def]

namespace Verdict

theorem ofAvailability_of_covered (hcovered : CoveredBy dispatched available) :
    ofAvailability dispatched available = valid := by
  cases available with
  | none => rfl
  | some table =>
      have hnil : dispatched.missingFrom table = [] :=
        Roster.missingFrom_eq_nil_iff.mpr (hcovered table rfl)
      simp [ofAvailability, hnil]

theorem ofAvailability_of_not_covered (hcovered : ¬ CoveredBy dispatched available) :
    ∃ mismatch, ofAvailability dispatched available = availabilityMismatch mismatch := by
  obtain ⟨table, htable, name, hname, hlacks⟩ := not_coveredBy_iff.mp hcovered
  cases htable
  have hmissing : dispatched.missingFrom table ≠ [] := fun hnil =>
    hlacks (Roster.missingFrom_eq_nil_iff.mp hnil hname)
  exact ⟨⟨dispatched.missingFrom table⟩, by simp [ofAvailability, hmissing]⟩

theorem of_accepted (haccepts : rule.accepts declared dispatched = true) :
    Verdict.of rule declared dispatched available = ofAvailability dispatched available :=
  if_pos haccepts

/-! ### The three outcomes under any rule -/

/-- What can become of an audit: nothing is wrong, the rule rejects, or the rule accepts and the
table lacks a name. -/
theorem of_cases (rule : DuplicateRule) (declared dispatched : Roster)
    (available : Option Roster) :
    (rule.accepts declared dispatched = true ∧ CoveredBy dispatched available ∧
      Verdict.of rule declared dispatched available = valid) ∨
    (¬ rule.accepts declared dispatched = true ∧
      Verdict.of rule declared dispatched available =
        dispatchMismatch (.between declared dispatched)) ∨
    (rule.accepts declared dispatched = true ∧ ¬ CoveredBy dispatched available ∧
      ∃ mismatch,
        Verdict.of rule declared dispatched available = availabilityMismatch mismatch) := by
  by_cases haccepts : rule.accepts declared dispatched = true
  · rw [of_accepted haccepts]
    by_cases hcovered : CoveredBy dispatched available
    · exact .inl ⟨haccepts, hcovered, ofAvailability_of_covered hcovered⟩
    · exact .inr (.inr ⟨haccepts, hcovered, ofAvailability_of_not_covered hcovered⟩)
  · exact .inr (.inl ⟨haccepts, if_neg haccepts⟩)

theorem of_eq_valid_iff :
    Verdict.of rule declared dispatched available = valid ↔
      rule.accepts declared dispatched = true ∧ CoveredBy dispatched available := by
  rcases of_cases rule declared dispatched available with
    ⟨haccepts, hcovered, hverdict⟩ | ⟨haccepts, hverdict⟩ |
      ⟨haccepts, hcovered, mismatch, hverdict⟩
  · simp [haccepts, hcovered, hverdict]
  · simp [haccepts, hverdict]
  · simp [hcovered, hverdict]

theorem of_eq_dispatchMismatch_iff :
    (∃ mismatch, Verdict.of rule declared dispatched available = dispatchMismatch mismatch) ↔
      ¬ rule.accepts declared dispatched = true := by
  rcases of_cases rule declared dispatched available with
    ⟨haccepts, _, hverdict⟩ | ⟨haccepts, hverdict⟩ | ⟨haccepts, _, mismatch, hverdict⟩ <;>
    simp [haccepts, hverdict]

theorem of_eq_availabilityMismatch_iff :
    (∃ mismatch, Verdict.of rule declared dispatched available = availabilityMismatch mismatch) ↔
      rule.accepts declared dispatched = true ∧ ¬ CoveredBy dispatched available := by
  rcases of_cases rule declared dispatched available with
    ⟨haccepts, hcovered, hverdict⟩ | ⟨haccepts, hverdict⟩ |
      ⟨haccepts, hcovered, mismatch, hverdict⟩
  · simp [hcovered, hverdict]
  · simp [haccepts, hverdict]
  · simp [haccepts, hcovered, hverdict]

/-! ### Verdicts in terms of the names -/

/-- Under the rule of lengths an audit passes exactly if no declared name is repeated, the
dispatched names are a permutation of the declared ones, and the table has them all. The table
is never asked before the first two hold. -/
theorem of_length_iff_nodup_perm (declared dispatched : Roster) (available : Option Roster) :
    (Verdict.of .length declared dispatched available = valid ↔
      declared.names.Nodup ∧ dispatched.names.Perm declared.names ∧
        CoveredBy dispatched available) ∧
    ((∃ mismatch, Verdict.of .length declared dispatched available = dispatchMismatch mismatch) ↔
      ¬ declared.names.Nodup ∨ ¬ dispatched.names.Perm declared.names) ∧
    ((∃ mismatch,
        Verdict.of .length declared dispatched available = availabilityMismatch mismatch) ↔
      declared.names.Nodup ∧ dispatched.names.Perm declared.names ∧
        ∃ table ∈ available, ∃ name ∈ dispatched.names, name ∉ table.names) := by
  refine ⟨?_, ?_, ?_⟩
  · rw [of_eq_valid_iff, DuplicateRule.length_accepts_iff, and_assoc]
  · rw [of_eq_dispatchMismatch_iff, DuplicateRule.length_accepts_iff, not_and_or]
  · rw [of_eq_availabilityMismatch_iff, DuplicateRule.length_accepts_iff, not_coveredBy_iff,
      and_assoc]

/-- Under the rule of multisets repeated names are accepted where they match. It refines the
rule of lengths, which passes exactly what it passes without a repeated name, with the same
verdict. -/
theorem of_multiset_iff_perm (declared dispatched : Roster) (available : Option Roster) :
    (Verdict.of .multiset declared dispatched available = valid ↔
      dispatched.names.Perm declared.names ∧ CoveredBy dispatched available) ∧
    ((∃ mismatch,
        Verdict.of .multiset declared dispatched available = dispatchMismatch mismatch) ↔
      ¬ dispatched.names.Perm declared.names) ∧
    ((∃ mismatch,
        Verdict.of .multiset declared dispatched available = availabilityMismatch mismatch) ↔
      dispatched.names.Perm declared.names ∧ ¬ CoveredBy dispatched available) ∧
    (Verdict.of .length declared dispatched available = valid ↔
      Verdict.of .multiset declared dispatched available = valid ∧ declared.names.Nodup) ∧
    (DuplicateRule.length.accepts declared dispatched = true →
      DuplicateRule.multiset.accepts declared dispatched = true ∧
        Verdict.of .length declared dispatched available =
          Verdict.of .multiset declared dispatched available) := by
  refine ⟨?_, ?_, ?_, ?_, ?_⟩
  · rw [of_eq_valid_iff, DuplicateRule.multiset_accepts_iff]
  · rw [of_eq_dispatchMismatch_iff, DuplicateRule.multiset_accepts_iff]
  · rw [of_eq_availabilityMismatch_iff, DuplicateRule.multiset_accepts_iff]
  · rw [of_eq_valid_iff, of_eq_valid_iff, DuplicateRule.length_accepts_iff,
      DuplicateRule.multiset_accepts_iff]
    constructor
    · intro h
      obtain ⟨⟨hnodup, hperm⟩, hcovered⟩ := h
      exact ⟨⟨hperm, hcovered⟩, hnodup⟩
    · intro h
      obtain ⟨⟨hperm, hcovered⟩, hnodup⟩ := h
      exact ⟨⟨hnodup, hperm⟩, hcovered⟩
  · intro hlength
    have hmultiset := DuplicateRule.multiset_accepts_of_length_accepts hlength
    exact ⟨hmultiset, (of_accepted hlength).trans (of_accepted hmultiset).symm⟩

end Verdict

end DispatchAudit.Audit
