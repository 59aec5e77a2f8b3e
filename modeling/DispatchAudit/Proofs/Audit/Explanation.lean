import DispatchAudit.Audit.Diagnosis
import DispatchAudit.Proofs.Audit.Acceptance
import DispatchAudit.Proofs.Roster.Differences

/-!
# Every mismatch is explained

A rule decides by sizes or by tables of counts, and the details of a mismatch are computed from
the names once more. The two agree: a rule rejects exactly if the details have something to say
that the rule minds. So a failed comparison never comes without a note.
-/

namespace DispatchAudit.Audit

variable {rule : DuplicateRule} {declared dispatched : Roster} {available : Option Roster}
  {mismatch : DispatchMismatch}

namespace DispatchMismatch

def NamesSome (mismatch : DispatchMismatch) : Prop :=
  mismatch.notDispatched ≠ [] ∨ mismatch.notDeclared ≠ [] ∨
    mismatch.repeatedDeclarations ≠ [] ∨ mismatch.repeatedEntries ≠ []

theorem length_accepts_iff_between :
    DuplicateRule.length.accepts declared dispatched = true ↔
      (between declared dispatched).notDispatched = [] ∧
        (between declared dispatched).notDeclared = [] ∧
        (between declared dispatched).repeatedDeclarations = [] ∧
        (between declared dispatched).repeatedEntries = [] := by
  rw [DuplicateRule.length_accepts_iff, List.perm_comm]
  exact Roster.nodup_and_perm_iff_missing_repeated

theorem multiset_accepts_iff_between :
    DuplicateRule.multiset.accepts declared dispatched = true ↔
      (between declared dispatched).notDispatched = [] ∧
        (between declared dispatched).notDeclared = [] ∧
        (between declared dispatched).repeatedDeclarations.Perm
          (between declared dispatched).repeatedEntries := by
  rw [DuplicateRule.multiset_accepts_iff, List.perm_comm]
  exact Roster.perm_iff_missing_repeated

theorem namesSome_between_of_rejected (hrejects : ¬ rule.accepts declared dispatched = true) :
    (between declared dispatched).NamesSome := by
  have hlength : ¬ DuplicateRule.length.accepts declared dispatched = true := by
    intro haccepts
    cases rule with
    | length => exact hrejects haccepts
    | multiset => exact hrejects (DuplicateRule.multiset_accepts_of_length_accepts haccepts)
  rw [length_accepts_iff_between, not_and_or, not_and_or, not_and_or] at hlength
  exact hlength

theorem listing_eq_nil_iff {words : String} {items : List String} :
    listing words items = [] ↔ items = [] := by
  cases items <;> simp [listing]

theorem notes_ne_nil_of_namesSome (hnames : mismatch.NamesSome) : mismatch.notes ≠ [] := by
  intro hnone
  simp only [notes, List.append_eq_nil_iff, listing_eq_nil_iff, List.map_eq_nil_iff] at hnone
  obtain ⟨⟨⟨⟨hdispatched, hdeclared⟩, hdeclarations⟩, hentries⟩, _⟩ := hnone
  rcases hnames with hsome | hsome | hsome | hsome
  · exact hsome hdispatched
  · exact hsome hdeclared
  · exact hsome hdeclarations
  · exact hsome hentries

/-- A rule accepts exactly if the details between the two rosters name nothing that it minds:
nothing at all for lengths, and for multisets nothing but names that are repeated alike. So the
details of every dispatch mismatch name something, and the verdict has a note. -/
theorem accepts_iff_nothing_between (declared dispatched : Roster) :
    (DuplicateRule.length.accepts declared dispatched = true ↔
      (between declared dispatched).notDispatched = [] ∧
        (between declared dispatched).notDeclared = [] ∧
        (between declared dispatched).repeatedDeclarations = [] ∧
        (between declared dispatched).repeatedEntries = []) ∧
    (DuplicateRule.multiset.accepts declared dispatched = true ↔
      (between declared dispatched).notDispatched = [] ∧
        (between declared dispatched).notDeclared = [] ∧
        (between declared dispatched).repeatedDeclarations.Perm
          (between declared dispatched).repeatedEntries) ∧
    ∀ (rule : DuplicateRule) (available : Option Roster) (mismatch : DispatchMismatch),
      Verdict.of rule declared dispatched available = .dispatchMismatch mismatch →
        mismatch.NamesSome ∧ (Verdict.of rule declared dispatched available).notes ≠ [] := by
  refine ⟨length_accepts_iff_between, multiset_accepts_iff_between, ?_⟩
  intro rule available mismatch hverdict
  have hrejects : ¬ rule.accepts declared dispatched = true :=
    Verdict.of_eq_dispatchMismatch_iff.mp ⟨mismatch, hverdict⟩
  obtain rfl : between declared dispatched = mismatch := by
    rw [Verdict.of, if_neg hrejects] at hverdict
    exact Verdict.dispatchMismatch.inj hverdict
  have hnames := namesSome_between_of_rejected hrejects
  rw [hverdict]
  exact ⟨hnames, notes_ne_nil_of_namesSome hnames⟩

/-- With crossed repetitions no name is missing and the totals agree, so only the repeated names
are left to tell the difference. -/
theorem crossed_repetitions_named :
    Verdict.of .multiset ⟨["A", "A", "B"]⟩ ⟨["A", "B", "B"]⟩ (some ⟨["A", "B"]⟩) =
        .dispatchMismatch ⟨3, 3, [], [], [⟨"A", 2⟩], [⟨"B", 2⟩]⟩ ∧
      NamesSome ⟨3, 3, [], [], [⟨"A", 2⟩], [⟨"B", 2⟩]⟩ ∧
      (Verdict.of .multiset ⟨["A", "A", "B"]⟩ ⟨["A", "B", "B"]⟩ (some ⟨["A", "B"]⟩)).notes ≠ [] := by
  have hrejects : ¬ DuplicateRule.multiset.accepts ⟨["A", "A", "B"]⟩ ⟨["A", "B", "B"]⟩ = true := by
    rw [DuplicateRule.multiset_accepts_iff]
    decide
  have hverdict : Verdict.of .multiset ⟨["A", "A", "B"]⟩ ⟨["A", "B", "B"]⟩ (some ⟨["A", "B"]⟩) =
      .dispatchMismatch ⟨3, 3, [], [], [⟨"A", 2⟩], [⟨"B", 2⟩]⟩ := by
    rw [Verdict.of, if_neg hrejects]
    decide
  exact ⟨hverdict, (accepts_iff_nothing_between _ _).2.2 _ _ _ hverdict⟩

end DispatchMismatch

/-- Of all verdicts that an audit can reach only the valid one has no notes. -/
theorem Verdict.notes_of_eq_nil_iff :
    (Verdict.of rule declared dispatched available).notes = [] ↔
      Verdict.of rule declared dispatched available = .valid := by
  rcases Verdict.of_cases rule declared dispatched available with
    ⟨_, _, hverdict⟩ | ⟨hrejects, hverdict⟩ | ⟨_, _, mismatch, hverdict⟩ <;> rw [hverdict]
  · exact iff_of_true rfl rfl
  · have hnames := DispatchMismatch.namesSome_between_of_rejected hrejects
    exact iff_of_false (DispatchMismatch.notes_ne_nil_of_namesSome hnames) nofun
  · exact iff_of_false (List.cons_ne_nil _ _) nofun

end DispatchAudit.Audit
