import DispatchAudit.Audit.Check
import DispatchAudit.Proofs.Files.Writing
import DispatchAudit.Proofs.Steps
import Mathlib.Data.List.Perm.Basic

/-!
# What an audit reads

An audit succeeds exactly if its rule can be built and every source can be read, and what it finds
is then what is in their texts. Each path is read by itself, so the texts of the implementations
stand in the order of their paths, and in another order the same texts are read.
-/

namespace DispatchAudit.Audit

open Files

variable {workspace other : Workspace} {settings : Settings} {sources : Sources}
  {findings : Findings} {path : FilePath} {paths paths' : List FilePath} {text : String}
  {texts : List String}

/-! ### Reading sources -/

theorem readSources_eq_ok_iff : readSources workspace paths = .ok texts ↔
    List.Forall₂ (fun path text => readSource workspace path = .ok text) paths texts := by
  induction paths generalizing texts with
  | nil =>
      rw [readSources, List.forall₂_nil_left_iff, Except.ok.injEq]
      exact eq_comm
  | cons path rest ih =>
      rw [readSources]
      constructor
      · intro hread
        split at hread
        · cases hread
        · next text htext =>
            obtain ⟨later, hlater, rfl⟩ := map_eq_ok_iff.mp hread
            exact .cons htext (ih.mp hlater)
      · rintro (_ | ⟨htext, hlater⟩)
        rw [htext, ih.mpr hlater]
        rfl

theorem readSources_singleton (hread : readSource workspace path = .ok text) :
    readSources workspace [path] = .ok [text] :=
  readSources_eq_ok_iff.mpr (.cons hread .nil)

/-- In another order of the paths the same texts are read. -/
theorem exists_readSources_of_perm (hperm : paths.Perm paths')
    (hread : readSources workspace paths = .ok texts) :
    ∃ texts', readSources workspace paths' = .ok texts' ∧ texts'.Perm texts := by
  obtain ⟨texts', hread', hperm'⟩ :=
    List.perm_comp_forall₂ hperm.symm (readSources_eq_ok_iff.mp hread)
  exact ⟨texts', readSources_eq_ok_iff.mpr hread', hperm'⟩

theorem readSources_congr
    (hsame : ∀ path ∈ paths, readSource other path = readSource workspace path) :
    readSources other paths = readSources workspace paths := by
  induction paths with
  | nil => rfl
  | cons path rest ih =>
      obtain ⟨hpath, hrest⟩ := List.forall_mem_cons.mp hsame
      rw [readSources, readSources, hpath, ih hrest]

theorem readSources_mono (hmore : ∀ path ∈ paths, ∀ text, readSource workspace path = .ok text →
      readSource other path = .ok text)
    (hread : readSources workspace paths = .ok texts) : readSources other paths = .ok texts := by
  rw [readSources_eq_ok_iff] at hread ⊢
  induction hread with
  | nil => exact .nil
  | cons htext _ ih =>
      obtain ⟨hpath, hrest⟩ := List.forall_mem_cons.mp hmore
      exact .cons (hpath _ htext) (ih hrest)

theorem errorOf?_readSources (workspace : Workspace) (paths : List FilePath) :
    errorOf? (readSources workspace paths) =
      paths.findSome? fun path => errorOf? (readSource workspace path) := by
  induction paths with
  | nil => rfl
  | cons path rest ih =>
      rw [readSources, List.findSome?_cons, ← ih]
      cases readSource workspace path with
      | error failure => rfl
      | ok text => exact errorOf?_map _

theorem errorOf?_readSource? (workspace : Workspace) (path? : Option FilePath) :
    errorOf? (readSource? workspace path?) =
      path?.toList.findSome? fun path => errorOf? (readSource workspace path) := by
  cases path? with
  | none => rfl
  | some path =>
      rw [readSource?, errorOf?_map, Option.toList_some, List.findSome?_singleton]

theorem readSource_of_holds {file : TextFile} (hholds : workspace.Holds file) :
    readSource workspace file.path = .ok file.text := by
  rw [readSource, hholds.read]
  rfl

theorem readSources_of_holds {files : List TextFile}
    (hholds : ∀ file ∈ files, workspace.Holds file) :
    readSources workspace (files.map TextFile.path) = .ok (files.map TextFile.text) := by
  rw [readSources_eq_ok_iff, List.forall₂_map_left_iff, List.forall₂_map_right_iff,
    List.forall₂_same]
  exact fun file hmem => readSource_of_holds (hholds file hmem)

/-! ### Audits that succeed -/

theorem check_eq_ok_iff : check workspace settings sources = .ok findings ↔
    ∃ rule implementations interface header, settings.rule? = some rule ∧
      readSources workspace sources.implementations = .ok implementations ∧
      readSource workspace sources.interface = .ok interface ∧
      readSource? workspace sources.header = .ok header ∧
      findingsIn sources settings rule implementations interface header = findings := by
  constructor
  · intro hcheck
    unfold check at hcheck
    split at hcheck
    · cases hcheck
    · next rule hrule =>
        obtain ⟨implementations, himplementations, hcheck⟩ := bind_eq_ok_iff.mp hcheck
        obtain ⟨interface, hinterface, hcheck⟩ := bind_eq_ok_iff.mp hcheck
        obtain ⟨header, hheader, hcheck⟩ := bind_eq_ok_iff.mp hcheck
        exact ⟨rule, implementations, interface, header, hrule, himplementations, hinterface,
          hheader, Except.ok.inj hcheck⟩
  · rintro ⟨rule, implementations, interface, header, hrule, himplementations, hinterface, hheader,
      rfl⟩
    unfold check
    rw [hrule, himplementations, hinterface, hheader]
    rfl

theorem check_of_no_rule (hrule : settings.rule? = none) :
    check workspace settings sources =
      .error (.heavyRule settings.returnType settings.callingConvention) := by
  rw [check, hrule]

theorem errorOf?_check_of_rule {rule : Source.DeclarationRule}
    (hrule : settings.rule? = some rule) :
    errorOf? (check workspace settings sources) =
      (errorOf? (readSources workspace sources.implementations)).or
        ((errorOf? (readSource workspace sources.interface)).or
          (errorOf? (readSource? workspace sources.header))) := by
  rw [check, hrule]
  cases readSources workspace sources.implementations with
  | error failure => rfl
  | ok implementations =>
      cases readSource workspace sources.interface with
      | error failure => rfl
      | ok interface => cases readSource? workspace sources.header <;> rfl

theorem verdict_of_check (hcheck : check workspace settings sources = .ok findings) :
    findings.verdict =
      .of settings.duplicateCheck findings.declared findings.dispatched findings.available := by
  obtain ⟨rule, texts, interface, header, _, _, _, _, rfl⟩ := check_eq_ok_iff.mp hcheck
  rfl

theorem isSome_available_of_check (hcheck : check workspace settings sources = .ok findings) :
    findings.available.isSome = sources.header.isSome := by
  obtain ⟨rule, texts, interface, header, _, _, _, hheader, rfl⟩ := check_eq_ok_iff.mp hcheck
  cases hsources : sources.header with
  | none =>
      rw [hsources] at hheader
      cases hheader
      rfl
  | some path =>
      rw [hsources] at hheader
      obtain ⟨text, _, rfl⟩ := map_eq_ok_iff.mp hheader
      rfl

end DispatchAudit.Audit
