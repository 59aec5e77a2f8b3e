import DispatchAudit.Proofs.Audit.Details
import DispatchAudit.Proofs.Audit.Items

/-!
# Notes can be read back

The notes on a mismatch give its lists away, although a list that is empty is not told at all: a
note is one of a known list by its words, and a note on the counts begins with a digit. The counts
are told only if they differ, so counts that agree are lost. Nothing else is, as long as all that
is listed are names.
-/

namespace DispatchAudit.Audit

open Text

namespace DispatchMismatch

variable {mismatch mismatch' : DispatchMismatch}

def countNotes (mismatch : DispatchMismatch) : List String :=
  if mismatch.declaredCount = mismatch.dispatchedCount then []
  else
    [counted mismatch.declaredCount "implemented method" "implemented methods" ++ ", " ++
      counted mismatch.dispatchedCount "dispatch entry" "dispatch entries"]

theorem toList_countNote {note : String} (hnote : note ∈ mismatch.countNotes) :
    note.toList =
      (counted mismatch.declaredCount "implemented method" "implemented methods").toList ++
        (", ".toList ++
          ((counted mismatch.dispatchedCount "dispatch entry" "dispatch entries").toList ++
            [])) := by
  rw [countNotes] at hnote
  split at hnote
  · cases hnote
  · rw [List.mem_singleton.mp hnote]
    simp

theorem countNotes_inj (heq : mismatch.countNotes = mismatch'.countNotes)
    (hdiffer : mismatch.declaredCount ≠ mismatch.dispatchedCount) :
    mismatch.declaredCount = mismatch'.declaredCount ∧
      mismatch.dispatchedCount = mismatch'.dispatchedCount := by
  obtain ⟨note, hnote⟩ : ∃ note, note ∈ mismatch.countNotes := by
    rw [countNotes, if_neg hdiffer]
    exact ⟨_, List.mem_singleton_self _⟩
  have hchars := toList_countNote hnote
  rw [heq] at hnote
  rw [toList_countNote hnote] at hchars
  obtain ⟨hdeclared, hbehind⟩ := counted_append_inj hchars
  obtain ⟨hdispatched, _⟩ := counted_append_inj (List.append_cancel_left hbehind)
  exact ⟨hdeclared.symm, hdispatched.symm⟩

/-! ### Mismatches -/

/-- The lists of a mismatch that are told. -/
inductive Aspect where
  | notDispatched
  | notDeclared
  | repeatedDeclarations
  | repeatedEntries
deriving DecidableEq

def Aspect.all : List Aspect :=
  [notDispatched, notDeclared, repeatedDeclarations, repeatedEntries]

theorem Aspect.mem_all (aspect : Aspect) : aspect ∈ all := by
  cases aspect <;> decide

def Aspect.words : Aspect → String
  | notDispatched => "implemented but not dispatched: "
  | notDeclared => "dispatched but not implemented: "
  | repeatedDeclarations => "declared more than once: "
  | repeatedEntries => "dispatched more than once: "

def items (mismatch : DispatchMismatch) : Aspect → List String
  | .notDispatched => mismatch.notDispatched
  | .notDeclared => mismatch.notDeclared
  | .repeatedDeclarations => mismatch.repeatedDeclarations.map Tally.text
  | .repeatedEntries => mismatch.repeatedEntries.map Tally.text

theorem notes_eq (mismatch : DispatchMismatch) : mismatch.notes =
    Aspect.all.flatMap (fun aspect => listing aspect.words (mismatch.items aspect)) ++
      mismatch.countNotes := by
  simp [notes, Aspect.all, Aspect.words, items, countNotes]

theorem apart_words : Aspect.all.Pairwise fun aspect other =>
    Apart aspect.words.toList other.words.toList := by
  decide

/-- Whether everything that the mismatch lists is a name. -/
structure OfNames (mismatch : DispatchMismatch) : Prop where
  notDispatched : ∀ name ∈ mismatch.notDispatched, IsName name.toList
  notDeclared : ∀ name ∈ mismatch.notDeclared, IsName name.toList
  repeatedDeclarations : ∀ tally ∈ mismatch.repeatedDeclarations, IsName tally.name.toList
  repeatedEntries : ∀ tally ∈ mismatch.repeatedEntries, IsName tally.name.toList

/-- Whether the mismatches list the same, and the counts are the same unless each side has as
many in both. -/
structure Alike (mismatch mismatch' : DispatchMismatch) : Prop where
  notDispatched : mismatch.notDispatched = mismatch'.notDispatched
  notDeclared : mismatch.notDeclared = mismatch'.notDeclared
  repeatedDeclarations : mismatch.repeatedDeclarations = mismatch'.repeatedDeclarations
  repeatedEntries : mismatch.repeatedEntries = mismatch'.repeatedEntries
  counts : mismatch.declaredCount ≠ mismatch.dispatchedCount ∨
      mismatch'.declaredCount ≠ mismatch'.dispatchedCount →
    mismatch.declaredCount = mismatch'.declaredCount ∧
      mismatch.dispatchedCount = mismatch'.dispatchedCount

theorem OfNames.isItem (hnames : mismatch.OfNames) :
    ∀ aspect, ∀ item ∈ mismatch.items aspect, IsItem item := by
  have htext : ∀ tallies : List Tally, (∀ tally ∈ tallies, IsName tally.name.toList) →
      ∀ item ∈ tallies.map Tally.text, IsItem item := by
    intro tallies htallies item hitem
    obtain ⟨tally, htally, rfl⟩ := List.mem_map.mp hitem
    exact isItem_text (htallies tally htally)
  intro aspect
  cases aspect with
  | notDispatched => exact fun name hname => isItem_of_isName (hnames.notDispatched name hname)
  | notDeclared => exact fun name hname => isItem_of_isName (hnames.notDeclared name hname)
  | repeatedDeclarations => exact htext _ hnames.repeatedDeclarations
  | repeatedEntries => exact htext _ hnames.repeatedEntries

theorem not_begins_countNote : ∀ aspect ∈ Aspect.all, ∀ note ∈ mismatch.countNotes,
    ¬ aspect.words.toList <+: note.toList := by
  intro aspect _ note hnote
  have hfirst : aspect.words.toList.head?.any (fun c => !c.isDigit) = true := by
    cases aspect <;> decide
  rw [toList_countNote hnote]
  exact not_begins_counted hfirst _

theorem map_text_inj {tallies tallies' : List Tally}
    (hnames : ∀ tally ∈ tallies, IsName tally.name.toList)
    (hnames' : ∀ tally ∈ tallies', IsName tally.name.toList)
    (heq : tallies.map Tally.text = tallies'.map Tally.text) : tallies = tallies' := by
  induction tallies generalizing tallies' with
  | nil => exact (List.map_eq_nil_iff.mp heq.symm).symm
  | cons tally later ih =>
      obtain ⟨tally', later', rfl, htext, hlater⟩ := List.map_eq_cons_iff.mp heq.symm
      obtain ⟨hname, hnames⟩ := List.forall_mem_cons.mp hnames
      obtain ⟨hname', hnames'⟩ := List.forall_mem_cons.mp hnames'
      rw [Tally.text_inj hname hname' htext.symm, ih hnames hnames' hlater.symm]

theorem Alike.notes_eq (halike : mismatch.Alike mismatch') : mismatch.notes = mismatch'.notes := by
  obtain ⟨hnotDispatched, hnotDeclared, hdeclarations, hentries, hcounts⟩ := halike
  have hitems : mismatch.items = mismatch'.items := by
    funext aspect
    cases aspect <;> simp only [items, hnotDispatched, hnotDeclared, hdeclarations, hentries]
  have hcountNotes : mismatch.countNotes = mismatch'.countNotes := by
    by_cases hdiffer : mismatch.declaredCount ≠ mismatch.dispatchedCount ∨
        mismatch'.declaredCount ≠ mismatch'.dispatchedCount
    · obtain ⟨hdeclared, hdispatched⟩ := hcounts hdiffer
      rw [countNotes, countNotes, hdeclared, hdispatched]
    · obtain ⟨hsame, hsame'⟩ := not_or.mp hdiffer
      rw [countNotes, countNotes, if_pos (not_not.mp hsame), if_pos (not_not.mp hsame')]
  rw [DispatchMismatch.notes_eq, DispatchMismatch.notes_eq, hitems, hcountNotes]

/-- The notes on mismatches of names settle what is alike in them. -/
theorem OfNames.alike_of_notes_eq (hnames : mismatch.OfNames) (hnames' : mismatch'.OfNames)
    (heq : mismatch.notes = mismatch'.notes) : mismatch.Alike mismatch' := by
  rw [notes_eq, notes_eq] at heq
  obtain ⟨hitems, hcounts⟩ := telling_inj apart_words (fun aspect _ => hnames.isItem aspect)
    (fun aspect _ => hnames'.isItem aspect) not_begins_countNote not_begins_countNote heq
  have hall : ∀ aspect, mismatch.items aspect = mismatch'.items aspect := fun aspect =>
    hitems aspect aspect.mem_all
  refine ⟨hall .notDispatched, hall .notDeclared,
    map_text_inj hnames.repeatedDeclarations hnames'.repeatedDeclarations
      (hall .repeatedDeclarations),
    map_text_inj hnames.repeatedEntries hnames'.repeatedEntries (hall .repeatedEntries), ?_⟩
  rintro (hdiffer | hdiffer)
  · exact countNotes_inj hcounts hdiffer
  · obtain ⟨hdeclared, hdispatched⟩ := countNotes_inj hcounts.symm hdiffer
    exact ⟨hdeclared.symm, hdispatched.symm⟩

theorem OfNames.feed_not_mem (hnames : mismatch.OfNames) {note : String}
    (hnote : note ∈ mismatch.notes) : '\n' ∉ note.toList := by
  rw [notes_eq, List.mem_append] at hnote
  rcases hnote with hnote | hnote
  · obtain ⟨aspect, _, hnote⟩ := List.mem_flatMap.mp hnote
    have hwords : '\n' ∉ aspect.words.toList := by
      cases aspect <;> decide
    exact feed_not_mem_of_mem_listing hwords (hnames.isItem aspect) hnote
  · rw [toList_countNote hnote, List.append_nil, List.mem_append, List.mem_append]
    rintro (hmem | hmem | hmem)
    · exact feed_not_mem_counted (by decide) (by decide) hmem
    · exact absurd hmem (by decide)
    · exact feed_not_mem_counted (by decide) (by decide) hmem

theorem ofNames_between {declared dispatched : Roster}
    (hdeclared : ∀ name ∈ declared.names, IsName name.toList)
    (hdispatched : ∀ name ∈ dispatched.names, IsName name.toList) :
    (between declared dispatched).OfNames where
  notDispatched name hname := hdeclared name (Roster.mem_missingFrom.mp hname).1
  notDeclared name hname := hdispatched name (Roster.mem_missingFrom.mp hname).1
  repeatedDeclarations _ htally := hdeclared _ (Roster.name_mem_of_mem_repeated htally)
  repeatedEntries _ htally := hdispatched _ (Roster.name_mem_of_mem_repeated htally)

end DispatchMismatch

/-! ### Verdicts -/

namespace Verdict

variable {verdict verdict' : Verdict}

def OnNames (verdict : Verdict) : Prop :=
  ∃ rule declared dispatched available, (∀ name ∈ declared.names, IsName name.toList) ∧
    (∀ name ∈ dispatched.names, IsName name.toList) ∧
      verdict = Verdict.of rule declared dispatched available

/-- Whether the verdicts are of one kind and their details are alike. -/
inductive Alike : Verdict → Verdict → Prop where
  | valid : Alike valid valid
  | dispatchMismatch {mismatch mismatch' : DispatchMismatch} (halike : mismatch.Alike mismatch') :
      Alike (dispatchMismatch mismatch) (dispatchMismatch mismatch')
  | availabilityMismatch {mismatch mismatch' : AvailabilityMismatch}
      (hunavailable : mismatch.unavailable = mismatch'.unavailable) :
      Alike (availabilityMismatch mismatch) (availabilityMismatch mismatch')

theorem Alike.notes_eq (halike : verdict.Alike verdict') : verdict.notes = verdict'.notes := by
  cases halike with
  | valid => rfl
  | dispatchMismatch halike => exact halike.notes_eq
  | availabilityMismatch hunavailable =>
      rw [notes, notes, AvailabilityMismatch.notes, AvailabilityMismatch.notes, hunavailable]

theorem Alike.headline?_eq (halike : verdict.Alike verdict') (settings : Settings) :
    verdict.headline? settings = verdict'.headline? settings := by
  cases halike <;> rfl

theorem OnNames.ofNames {mismatch : DispatchMismatch}
    (hnames : (dispatchMismatch mismatch).OnNames) : mismatch.OfNames := by
  obtain ⟨rule, declared, dispatched, available, hdeclared, hdispatched, hverdict⟩ := hnames
  obtain ⟨_, rfl⟩ := of_eq_dispatchMismatch_iff_between.mp hverdict.symm
  exact DispatchMismatch.ofNames_between hdeclared hdispatched

theorem OnNames.unavailable {mismatch : AvailabilityMismatch}
    (hnames : (availabilityMismatch mismatch).OnNames) :
    mismatch.unavailable ≠ [] ∧ ∀ item ∈ mismatch.unavailable, IsItem item := by
  obtain ⟨rule, declared, dispatched, available, _, hdispatched, hverdict⟩ := hnames
  obtain ⟨_, hsome, table, _, hmissing⟩ := of_eq_availabilityMismatch_iff_missing.mp hverdict.symm
  refine ⟨hsome, fun item hitem => ?_⟩
  rw [hmissing] at hitem
  exact isItem_of_isName (hdispatched item (Roster.mem_missingFrom.mp hitem).1)

theorem OnNames.notes_availabilityMismatch {mismatch : AvailabilityMismatch}
    (hnames : (availabilityMismatch mismatch).OnNames) :
    (availabilityMismatch mismatch).notes =
      listing "dispatched but not in the interface table: " mismatch.unavailable :=
  (listing_of_ne_nil hnames.unavailable.1).symm

theorem OnNames.feed_not_mem (hnames : verdict.OnNames) :
    ∀ note ∈ verdict.notes, '\n' ∉ note.toList := by
  intro note hnote
  cases verdict with
  | valid => cases hnote
  | dispatchMismatch mismatch => exact hnames.ofNames.feed_not_mem hnote
  | availabilityMismatch mismatch =>
      rw [hnames.notes_availabilityMismatch] at hnote
      exact feed_not_mem_of_mem_listing (by decide) hnames.unavailable.2 hnote

theorem OnNames.unavailable_eq_of_notes_eq {mismatch mismatch' : AvailabilityMismatch}
    (hnames : (availabilityMismatch mismatch).OnNames)
    (hnames' : (availabilityMismatch mismatch').OnNames)
    (heq : (availabilityMismatch mismatch).notes = (availabilityMismatch mismatch').notes) :
    mismatch.unavailable = mismatch'.unavailable := by
  obtain ⟨hsome, hitems⟩ := hnames.unavailable
  obtain ⟨hsome', hitems'⟩ := hnames'.unavailable
  have hsame := String.append_right_inj _ |>.mp (List.cons.inj heq).1
  exact enumerated_inj hitems hitems' hsome hsome' hsame

end Verdict

end DispatchAudit.Audit
