import DispatchAudit.Proofs.Audit.Acceptance
import DispatchAudit.Proofs.Roster.Differences
import DispatchAudit.Proofs.Roster.Excess
import DispatchAudit.Proofs.Roster.Selection

/-!
# The details of a mismatch

What a mismatch says is settled by the names alone: its lists are selections of a roster, its
tallies are those of the repeated names, and its counts are the sizes. A verdict is a mismatch
exactly if the comparison fails and the mismatch says this, so nothing is left out, listed twice
or moved. The lists and the counts are made apart from each other, and still they balance: what a
side has beyond the common names is what its lists name.
-/

namespace DispatchAudit.Audit

variable {rule : DuplicateRule} {declared dispatched : Roster} {available : Option Roster}
  {mismatch : DispatchMismatch}

namespace DispatchMismatch

structure Describes (mismatch : DispatchMismatch) (declared dispatched : Roster) : Prop where
  declaredCount : mismatch.declaredCount = declared.names.length
  dispatchedCount : mismatch.dispatchedCount = dispatched.names.length
  notDispatched : declared.IsSelection (· ∉ dispatched.names) mismatch.notDispatched
  notDeclared : dispatched.IsSelection (· ∉ declared.names) mismatch.notDeclared
  repeatedDeclarations : declared.TalliesRepeated mismatch.repeatedDeclarations
  repeatedEntries : dispatched.TalliesRepeated mismatch.repeatedEntries

theorem describes_iff :
    mismatch.Describes declared dispatched ↔ mismatch = between declared dispatched := by
  constructor
  · rintro ⟨hdeclared, hdispatched, hnotDispatched, hnotDeclared, hdeclarations, hentries⟩
    rw [Roster.isSelection_missing_iff] at hnotDispatched hnotDeclared
    rw [Roster.talliesRepeated_iff] at hdeclarations hentries
    rw [between, ← hnotDispatched, ← hnotDeclared, ← hdeclarations, ← hentries, Roster.size,
      Roster.size, ← hdeclared, ← hdispatched]
  · rintro rfl
    exact ⟨rfl, rfl, Roster.isSelection_missing_iff.mpr rfl, Roster.isSelection_missing_iff.mpr rfl,
      Roster.talliesRepeated_repeated, Roster.talliesRepeated_repeated⟩

/-- What a mismatch has beyond its lists is on both sides the number of the common names, and the
counts differ by what the lists name. -/
theorem between_balanced (declared dispatched : Roster) :
    let mismatch := between declared dispatched
    let common := (declared.names.toFinset ∩ dispatched.names.toFinset).card
    (mismatch.declaredCount - mismatch.notDispatched.length -
          excess mismatch.repeatedDeclarations = common ∧
        mismatch.notDispatched.length + excess mismatch.repeatedDeclarations ≤
          mismatch.declaredCount ∧
        ∀ tally ∈ mismatch.repeatedDeclarations, 1 ≤ tally.count) ∧
      (mismatch.dispatchedCount - mismatch.notDeclared.length -
          excess mismatch.repeatedEntries = common ∧
        mismatch.notDeclared.length + excess mismatch.repeatedEntries ≤
          mismatch.dispatchedCount ∧
        ∀ tally ∈ mismatch.repeatedEntries, 1 ≤ tally.count) ∧
      (mismatch.declaredCount : Int) - mismatch.dispatchedCount =
        (mismatch.notDispatched.length + excess mismatch.repeatedDeclarations) -
          (mismatch.notDeclared.length + excess mismatch.repeatedEntries) := by
  intro mismatch common
  have hdeclared : mismatch.declaredCount =
      common + mismatch.notDispatched.length + excess mismatch.repeatedDeclarations :=
    declared.size_eq_common_add dispatched
  have hdispatched : mismatch.dispatchedCount =
      common + mismatch.notDeclared.length + excess mismatch.repeatedEntries := by
    have hsize := dispatched.size_eq_common_add declared
    rwa [Finset.inter_comm] at hsize
  have hcount : ∀ roster : Roster, ∀ tally ∈ roster.repeated, 1 ≤ tally.count :=
    fun _ _ htally => Nat.le_of_lt (Roster.mem_repeated.mp htally).1
  exact ⟨⟨by omega, by omega, hcount declared⟩, ⟨by omega, by omega, hcount dispatched⟩, by omega⟩

/-- The declarations are fewer, although they repeat a name and have one that is not dispatched. -/
theorem between_balanced_uneven :
    let mismatch := between ⟨["A", "A", "B"]⟩ ⟨["C", "A", "C", "C"]⟩
    ⟨"A", 2⟩ ∈ mismatch.repeatedDeclarations ∧ 1 ≤ (Tally.mk "A" 2).count ∧
      ⟨"C", 3⟩ ∈ mismatch.repeatedEntries ∧ 1 ≤ (Tally.mk "C" 3).count ∧
      mismatch.declaredCount - mismatch.notDispatched.length -
        excess mismatch.repeatedDeclarations = 1 ∧
      mismatch.dispatchedCount - mismatch.notDeclared.length -
        excess mismatch.repeatedEntries = 1 ∧
      (3 : Int) - 4 = (1 + 1) - (1 + 2) := by
  intro mismatch
  obtain ⟨⟨hdeclared, _, hdeclarations⟩, ⟨hdispatched, _, hentries⟩, hcounts⟩ :=
    between_balanced ⟨["A", "A", "B"]⟩ ⟨["C", "A", "C", "C"]⟩
  have htwice : (⟨"A", 2⟩ : Tally) ∈ mismatch.repeatedDeclarations := by decide
  have hthrice : (⟨"C", 3⟩ : Tally) ∈ mismatch.repeatedEntries := by decide
  exact ⟨htwice, hdeclarations _ htwice, hthrice, hentries _ hthrice, hdeclared.trans (by decide),
    hdispatched.trans (by decide), by decide⟩

end DispatchMismatch

namespace Verdict

theorem ofAvailability_eq_mismatch_iff {mismatch : AvailabilityMismatch} :
    ofAvailability dispatched available = .availabilityMismatch mismatch ↔
      mismatch.unavailable ≠ [] ∧ ∃ table, available = some table ∧
        mismatch.unavailable = dispatched.missingFrom table := by
  constructor
  · intro hverdict
    cases available with
    | none => cases hverdict
    | some table =>
        rw [ofAvailability] at hverdict
        split at hverdict
        · cases hverdict
        · next hsome =>
            cases hverdict
            exact ⟨by simpa using hsome, table, rfl, rfl⟩
  · rintro ⟨hsome, table, rfl, hmissing⟩
    rw [hmissing] at hsome
    rw [ofAvailability, if_neg (by simpa using hsome), ← hmissing]

theorem of_eq_dispatchMismatch_iff_between :
    Verdict.of rule declared dispatched available = .dispatchMismatch mismatch ↔
      ¬ rule.accepts declared dispatched = true ∧ mismatch = .between declared dispatched := by
  rcases of_cases rule declared dispatched available with
    ⟨haccepts, _, hverdict⟩ | ⟨hrejects, hverdict⟩ | ⟨haccepts, _, _, hverdict⟩
  · simp [hverdict, haccepts]
  · simp [hverdict, hrejects, eq_comm]
  · simp [hverdict, haccepts]

theorem of_eq_availabilityMismatch_iff_missing {mismatch : AvailabilityMismatch} :
    Verdict.of rule declared dispatched available = .availabilityMismatch mismatch ↔
      rule.accepts declared dispatched = true ∧ mismatch.unavailable ≠ [] ∧
        ∃ table, available = some table ∧
          mismatch.unavailable = dispatched.missingFrom table := by
  by_cases haccepts : rule.accepts declared dispatched = true
  · simp only [of_accepted haccepts, ofAvailability_eq_mismatch_iff, haccepts, true_and]
  · rw [Verdict.of, if_neg haccepts]
    exact iff_of_false nofun fun hmismatch => haccepts hmismatch.1

/-- A verdict is a mismatch exactly if a comparison fails, and the details are those of the names:
what is missing is listed once, in the order of first occurrences, and what is repeated with its
count. The table is asked only if the rule accepts, and then something is missing from it. -/
theorem of_eq_mismatch_iff_details (rule : DuplicateRule) (declared dispatched : Roster)
    (available : Option Roster) :
    (∀ mismatch, Verdict.of rule declared dispatched available = .dispatchMismatch mismatch ↔
      ¬ rule.accepts declared dispatched = true ∧ mismatch.Describes declared dispatched) ∧
    ∀ mismatch, Verdict.of rule declared dispatched available = .availabilityMismatch mismatch ↔
      rule.accepts declared dispatched = true ∧ mismatch.unavailable ≠ [] ∧
        ∃ table, available = some table ∧
          dispatched.IsSelection (· ∉ table.names) mismatch.unavailable := by
  constructor
  · intro mismatch
    rw [of_eq_dispatchMismatch_iff_between, DispatchMismatch.describes_iff]
  · intro mismatch
    simp only [of_eq_availabilityMismatch_iff_missing, Roster.isSelection_missing_iff]

end Verdict

end DispatchAudit.Audit
