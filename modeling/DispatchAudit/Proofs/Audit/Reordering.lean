import DispatchAudit.Proofs.Audit.Acceptance
import DispatchAudit.Proofs.Audit.Reading
import DispatchAudit.Proofs.Roster.Differences

/-!
# Implementations in another order

In another order the implementations are the same texts, so the same names are declared in another
order. A rule asks for a permutation and for repetitions only, so it accepts as before, and what
the interface source and the table give is left as it was. Of the details only those that follow
the declarations can change, and they change in their order alone.
-/

namespace DispatchAudit.Audit

open Files Source

/-- Whether two dispatch mismatches differ at most in the order of what the declarations give. -/
structure DispatchMismatch.Reordered (mismatch other : DispatchMismatch) : Prop where
  declaredCount : mismatch.declaredCount = other.declaredCount
  dispatchedCount : mismatch.dispatchedCount = other.dispatchedCount
  notDispatched : mismatch.notDispatched.Perm other.notDispatched
  notDeclared : mismatch.notDeclared = other.notDeclared
  repeatedDeclarations : mismatch.repeatedDeclarations.Perm other.repeatedDeclarations
  repeatedEntries : mismatch.repeatedEntries = other.repeatedEntries

/-- Whether two verdicts are of one kind and differ at most in the order of what the declarations
give. -/
inductive Verdict.Reordered : Verdict → Verdict → Prop where
  | valid : Reordered .valid .valid
  | dispatchMismatch {mismatch other : DispatchMismatch} (hdetails : mismatch.Reordered other) :
      Reordered (.dispatchMismatch mismatch) (.dispatchMismatch other)
  | availabilityMismatch (mismatch : AvailabilityMismatch) :
      Reordered (.availabilityMismatch mismatch) (.availabilityMismatch mismatch)

structure Findings.Reordered (findings other : Findings) : Prop where
  declared : findings.declared.names.Perm other.declared.names
  dispatched : findings.dispatched = other.dispatched
  available : findings.available = other.available
  verdict : findings.verdict.Reordered other.verdict

variable {rule : DuplicateRule} {declared declared' dispatched : Roster}
  {available : Option Roster} {workspace : Workspace} {settings : Settings}
  {sources sources' : Sources} {paths : List FilePath} {findings findings' : Findings}

/-! ### Verdicts -/

theorem DuplicateRule.accepts_eq_of_perm (rule : DuplicateRule) (dispatched : Roster)
    (hperm : declared.names.Perm declared'.names) :
    rule.accepts declared dispatched = rule.accepts declared' dispatched := by
  have hdispatched : dispatched.names.Perm declared.names ↔ dispatched.names.Perm declared'.names :=
    ⟨fun hsame => hsame.trans hperm, fun hsame => hsame.trans hperm.symm⟩
  rw [Bool.eq_iff_iff]
  cases rule with
  | length => rw [length_accepts_iff, length_accepts_iff, hperm.nodup_iff, hdispatched]
  | multiset => rw [multiset_accepts_iff, multiset_accepts_iff, hdispatched]

theorem DispatchMismatch.between_reordered (dispatched : Roster)
    (hperm : declared.names.Perm declared'.names) :
    (between declared dispatched).Reordered (between declared' dispatched) where
  declaredCount := hperm.length_eq
  dispatchedCount := rfl
  notDispatched := Roster.missingFrom_perm hperm dispatched
  notDeclared := Roster.missingFrom_eq_of_perm dispatched hperm
  repeatedDeclarations := Roster.repeated_perm hperm
  repeatedEntries := rfl

theorem Verdict.reordered_refl (verdict : Verdict) : verdict.Reordered verdict := by
  cases verdict with
  | valid => exact .valid
  | dispatchMismatch mismatch => exact .dispatchMismatch ⟨rfl, rfl, .refl _, rfl, .refl _, rfl⟩
  | availabilityMismatch mismatch => exact .availabilityMismatch mismatch

theorem Verdict.of_reordered (rule : DuplicateRule) (dispatched : Roster)
    (available : Option Roster) (hperm : declared.names.Perm declared'.names) :
    (Verdict.of rule declared dispatched available).Reordered
      (Verdict.of rule declared' dispatched available) := by
  rw [Verdict.of, Verdict.of, rule.accepts_eq_of_perm dispatched hperm]
  split
  · exact reordered_refl _
  · exact .dispatchMismatch (DispatchMismatch.between_reordered dispatched hperm)

/-! ### Audits -/

theorem findingsIn_reordered {texts texts' : List String} (sources sources' : Sources)
    (settings : Settings) (rule : DeclarationRule) (interface : String) (header : Option String)
    (hperm : texts.Perm texts') :
    (findingsIn sources settings rule texts interface header).Reordered
      (findingsIn sources' settings rule texts' interface header) := by
  have hdeclared : (Roster.concat (texts.map rule.declared)).names.Perm
      (Roster.concat (texts'.map rule.declared)).names := by
    rw [Roster.names_concat, Roster.names_concat]
    exact (hperm.map rule.declared).flatMap_right Roster.names
  exact ⟨hdeclared, rfl, rfl, Verdict.of_reordered _ _ _ hdeclared⟩

theorem exists_check_reordered (hperm : sources.implementations.Perm paths)
    (hcheck : check workspace settings sources = .ok findings) :
    ∃ findings', check workspace settings { sources with implementations := paths } =
        .ok findings' ∧ findings.Reordered findings' := by
  obtain ⟨rule, texts, interface, header, hrule, hread, hinterface, hheader, rfl⟩ :=
    check_eq_ok_iff.mp hcheck
  obtain ⟨texts', hread', hperm'⟩ := exists_readSources_of_perm hperm hread
  exact ⟨_, check_eq_ok_iff.mpr ⟨rule, texts', interface, header, hrule, hread', hinterface,
    hheader, rfl⟩, findingsIn_reordered _ _ _ _ _ _ hperm'.symm⟩

/-- The order of the implementations decides neither whether an audit succeeds nor its verdict.
What the interface source and the table give is the same, and the declared names and the details
that follow them are the same up to their order. -/
theorem check_of_perm {paths paths' : List FilePath} (hperm : paths.Perm paths')
    (workspace : Workspace) (settings : Settings) (interface : FilePath)
    (header : Option FilePath) :
    ((∃ findings, check workspace settings ⟨paths, interface, header⟩ = .ok findings) ↔
      ∃ findings, check workspace settings ⟨paths', interface, header⟩ = .ok findings) ∧
    ∀ findings findings',
      check workspace settings ⟨paths, interface, header⟩ = .ok findings →
      check workspace settings ⟨paths', interface, header⟩ = .ok findings' →
      findings.declared.names.Perm findings'.declared.names ∧
        findings.dispatched = findings'.dispatched ∧
        findings.available = findings'.available ∧
        findings.verdict.Reordered findings'.verdict := by
  refine ⟨⟨?_, ?_⟩, ?_⟩
  · rintro ⟨findings, hcheck⟩
    obtain ⟨findings', hcheck', _⟩ := exists_check_reordered hperm hcheck
    exact ⟨findings', hcheck'⟩
  · rintro ⟨findings, hcheck⟩
    obtain ⟨findings', hcheck', _⟩ := exists_check_reordered hperm.symm hcheck
    exact ⟨findings', hcheck'⟩
  · intro findings findings' hcheck hcheck'
    obtain ⟨found, hfound, hreordered⟩ := exists_check_reordered hperm hcheck
    obtain rfl : found = findings' := Except.ok.inj (hfound.symm.trans hcheck')
    exact ⟨hreordered.declared, hreordered.dispatched, hreordered.available, hreordered.verdict⟩

def scatteredFiles : List TextFile :=
  [⟨⟨"a.cpp"⟩, "NvAPI_Status __cdecl Foo()\nNvAPI_Status __cdecl Kept()\n"⟩,
    ⟨⟨"b.cpp"⟩, "NvAPI_Status __cdecl Bar()\nNvAPI_Status __cdecl Foo()"⟩,
    ⟨⟨"i.cpp"⟩, "/* Start NVAPI methods */\ntbl(Kept)\ntbl(Other)\n/* End */\n"⟩]

def scatteredWorkspace : Workspace :=
  Workspace.writeAll ⟨.emptyDirectory, ["work"]⟩ scatteredFiles

theorem check_of_perm_scattered :
    List.Perm [FilePath.mk "a.cpp", ⟨"b.cpp"⟩] [⟨"b.cpp"⟩, ⟨"a.cpp"⟩] ∧
      ∃ findings findings',
        check scatteredWorkspace .standard ⟨[⟨"a.cpp"⟩, ⟨"b.cpp"⟩], ⟨"i.cpp"⟩, none⟩ =
          .ok findings ∧
        check scatteredWorkspace .standard ⟨[⟨"b.cpp"⟩, ⟨"a.cpp"⟩], ⟨"i.cpp"⟩, none⟩ =
          .ok findings' ∧
        findings.declared.names = ["Foo", "Kept", "Bar", "Foo"] ∧
        findings'.declared.names = ["Bar", "Foo", "Foo", "Kept"] ∧
        findings.dispatched = findings'.dispatched ∧
        findings.verdict.Reordered findings'.verdict := by
  have hperm : List.Perm [FilePath.mk "a.cpp", ⟨"b.cpp"⟩] [⟨"b.cpp"⟩, ⟨"a.cpp"⟩] := .swap _ _ _
  have hwrite : Workspace.CanWrite ⟨.emptyDirectory, ["work"]⟩ scatteredFiles :=
    ⟨by decide, by decide, by decide⟩
  have hholds : ∀ file ∈ scatteredFiles, scatteredWorkspace.Holds file := hwrite.holds
  obtain ⟨hfirst, hlater⟩ := List.forall_mem_cons.mp hholds
  obtain ⟨hsecond, hlater⟩ := List.forall_mem_cons.mp hlater
  have hfirst := readSource_of_holds hfirst
  have hsecond := readSource_of_holds hsecond
  have hinterface := readSource_of_holds (List.forall_mem_cons.mp hlater).1
  have hread := readSources_eq_ok_iff.mpr (.cons hfirst (.cons hsecond .nil))
  have hread' := readSources_eq_ok_iff.mpr (.cons hsecond (.cons hfirst .nil))
  let rule : DeclarationRule := ⟨"NvAPI_Status", "__cdecl", by decide⟩
  have hrule : Settings.standard.rule? = some rule := rfl
  have hcheck : check scatteredWorkspace .standard
      ⟨[⟨"a.cpp"⟩, ⟨"b.cpp"⟩], ⟨"i.cpp"⟩, none⟩ = .ok _ :=
    check_eq_ok_iff.mpr ⟨rule, _, _, none, hrule, hread, hinterface, rfl, rfl⟩
  have hcheck' : check scatteredWorkspace .standard
      ⟨[⟨"b.cpp"⟩, ⟨"a.cpp"⟩], ⟨"i.cpp"⟩, none⟩ = .ok _ :=
    check_eq_ok_iff.mpr ⟨rule, _, _, none, hrule, hread', hinterface, rfl, rfl⟩
  obtain ⟨_, hsame⟩ := check_of_perm hperm scatteredWorkspace .standard ⟨"i.cpp"⟩ none
  obtain ⟨_, hdispatched, _, hverdict⟩ := hsame _ _ hcheck hcheck'
  refine ⟨hperm, _, _, hcheck, hcheck', ?_, ?_, hdispatched, hverdict⟩ <;> decide +kernel

end DispatchAudit.Audit
