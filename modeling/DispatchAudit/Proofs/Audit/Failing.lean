import DispatchAudit.Proofs.Audit.Reading

/-!
# Why an audit fails

An audit reads its paths in one order: the implementations, the interface source, the header. What
it fails with is decided by the rule alone if that cannot be built, and otherwise by the first path
in this order that does not lead to a file with text. If there is neither cause it succeeds, and
what it finds then depends on nothing but the contents of those files and on the five settings that
an audit uses: two settings are only names for the report.
-/

namespace DispatchAudit

namespace Files.Workspace

variable {workspace : Workspace} {path : FilePath} {fault : FileFault} {text : String}

inductive Unreadable (workspace : Workspace) (path : FilePath) : FileFault → Prop where
  | lost {fault : FileFault} (hfind : workspace.find path = .error fault) :
      Unreadable workspace path fault
  | directory {entries : List (String × Entry)}
      (hfind : workspace.find path = .ok (.directory entries)) :
      Unreadable workspace path .isDirectory
  | notText {content : ByteArray} (hfind : workspace.find path = .ok (.file content))
      (hcontent : ∀ text : String, text.toUTF8 ≠ content) : Unreadable workspace path .notText

theorem fromUTF8?_eq_some_iff {content : ByteArray} :
    String.fromUTF8? content = some text ↔ text.toUTF8 = content := by
  constructor
  · intro htext
    unfold String.fromUTF8? at htext
    split at htext
    · obtain rfl := Option.some.inj htext
      rfl
    · cases htext
  · rintro rfl
    exact fromUTF8?_toUTF8 text

theorem read_eq_ok_iff_holds :
    workspace.read path = .ok text ↔ workspace.Holds ⟨path, text⟩ := by
  simp only [read_eq_ok_iff, fromUTF8?_eq_some_iff]
  constructor
  · rintro ⟨_, hfind, rfl⟩
    exact hfind
  · exact fun hholds => ⟨_, hholds, rfl⟩

theorem read_eq_error_iff :
    workspace.read path = .error fault ↔ workspace.Unreadable path fault := by
  constructor
  · intro hread
    cases hfind : workspace.find path with
    | error found =>
        rw [read, hfind] at hread
        cases hread
        exact .lost hfind
    | ok entry =>
        cases entry with
        | directory entries =>
            rw [read, hfind] at hread
            cases hread
            exact .directory hfind
        | file content =>
            cases hcontent : String.fromUTF8? content with
            | some text =>
                rw [read_eq_ok_iff.mpr ⟨content, hfind, hcontent⟩] at hread
                cases hread
            | none =>
                simp only [read, hfind, bind, Except.bind, hcontent] at hread
                cases hread
                refine .notText hfind fun text htext => ?_
                rw [fromUTF8?_eq_some_iff.mpr htext] at hcontent
                cases hcontent
  · intro hunreadable
    cases hunreadable with
    | lost hfind =>
        rw [read, hfind]
        rfl
    | directory hfind =>
        rw [read, hfind]
        rfl
    | @notText content hfind hcontent =>
        have hnone : String.fromUTF8? content = none := by
          rw [Option.eq_none_iff_forall_ne_some]
          exact fun text htext => hcontent text (fromUTF8?_eq_some_iff.mp htext)
        simp only [read, hfind, bind, Except.bind, hnone]
        rfl

end Files.Workspace

namespace Audit

open Files

def Sources.paths (sources : Sources) : List FilePath :=
  sources.implementations ++ sources.interface :: sources.header.toList

/-- Whether an audit has to fail with this failure. -/
inductive FirstCause (workspace : Workspace) (settings : Settings) (sources : Sources) :
    Failure → Prop where
  | rule (hrule : settings.rule? = none) :
      FirstCause workspace settings sources
        (.heavyRule settings.returnType settings.callingConvention)
  | source {before after : List FilePath} {path : FilePath} {fault : FileFault}
      (hrule : settings.rule?.isSome = true) (hpaths : sources.paths = before ++ path :: after)
      (hbefore : ∀ earlier ∈ before, ∃ text, workspace.Holds ⟨earlier, text⟩)
      (hfault : workspace.Unreadable path fault) :
      FirstCause workspace settings sources (.unreadableSource path fault)

/-- Whether an audit treats its sources alike with both settings. -/
structure SameAudit (settings other : Settings) : Prop where
  returnType : other.returnType = settings.returnType
  callingConvention : other.callingConvention = settings.callingConvention
  startMarker : other.startMarker = settings.startMarker
  endMarker : other.endMarker = settings.endMarker
  duplicateCheck : other.duplicateCheck = settings.duplicateCheck

variable {workspace other : Workspace} {settings settings' : Settings} {sources : Sources}
  {findings : Findings} {failure : Failure} {path : FilePath} {text : String}

/-! ### The first cause -/

theorem readSource_eq_ok_iff :
    readSource workspace path = .ok text ↔ workspace.Holds ⟨path, text⟩ := by
  rw [← Workspace.read_eq_ok_iff_holds, readSource]
  cases workspace.read path <;> simp [Except.mapError]

theorem errorOf?_readSource_eq_none_iff :
    errorOf? (readSource workspace path) = none ↔ ∃ text, workspace.Holds ⟨path, text⟩ := by
  rw [errorOf?_eq_none_iff]
  exact exists_congr fun text => readSource_eq_ok_iff

theorem errorOf?_readSource_eq_some_iff :
    errorOf? (readSource workspace path) = some failure ↔
      ∃ fault, workspace.Unreadable path fault ∧ failure = .unreadableSource path fault := by
  simp only [← Workspace.read_eq_error_iff, readSource]
  cases workspace.read path with
  | error fault => simp [Except.mapError, errorOf?, eq_comm]
  | ok text => simp [Except.mapError, errorOf?]

theorem errorOf?_check_eq_findSome? {rule : Source.DeclarationRule}
    (hrule : settings.rule? = some rule) :
    errorOf? (check workspace settings sources) =
      sources.paths.findSome? fun path => errorOf? (readSource workspace path) := by
  rw [errorOf?_check_of_rule hrule, errorOf?_readSources, errorOf?_readSource?, Sources.paths,
    List.findSome?_append, ← List.singleton_append, List.findSome?_append,
    List.findSome?_singleton]

theorem check_eq_error_iff :
    check workspace settings sources = .error failure ↔
      FirstCause workspace settings sources failure := by
  cases hrule : settings.rule? with
  | none =>
      rw [check_of_no_rule hrule]
      constructor
      · rintro ⟨⟩
        exact .rule hrule
      · rintro (_ | ⟨hsome, _⟩)
        · rfl
        · rw [hrule] at hsome
          cases hsome
  | some rule =>
      rw [← errorOf?_eq_some_iff, errorOf?_check_eq_findSome? hrule, List.findSome?_eq_some_iff]
      constructor
      · rintro ⟨before, path, after, hpaths, hfailed, hbefore⟩
        obtain ⟨fault, hfault, rfl⟩ := errorOf?_readSource_eq_some_iff.mp hfailed
        have hread : ∀ earlier ∈ before, ∃ text, workspace.Holds ⟨earlier, text⟩ :=
          fun earlier hmem => errorOf?_readSource_eq_none_iff.mp (hbefore earlier hmem)
        exact .source (Option.isSome_of_eq_some hrule) hpaths hread hfault
      · rintro (hnone | ⟨_, hpaths, hbefore, hfault⟩)
        · rw [hrule] at hnone
          cases hnone
        · exact ⟨_, _, _, hpaths, errorOf?_readSource_eq_some_iff.mpr ⟨_, hfault, rfl⟩,
            fun earlier hmem => errorOf?_readSource_eq_none_iff.mpr (hbefore earlier hmem)⟩

theorem exists_check_eq_error_iff : (∃ failure, check workspace settings sources = .error failure) ↔
    settings.rule? = none ∨ ∃ path ∈ sources.paths, ∀ text, ¬ workspace.Holds ⟨path, text⟩ := by
  cases hrule : settings.rule? with
  | none => exact iff_of_true ⟨_, check_of_no_rule hrule⟩ (.inl rfl)
  | some rule =>
      simp only [← errorOf?_eq_some_iff, errorOf?_check_eq_findSome? hrule, reduceCtorEq, false_or,
        ← Option.isSome_iff_exists, List.findSome?_isSome_iff]
      refine exists_congr fun path => and_congr_right fun _ => ?_
      rw [← not_iff_not, Bool.not_eq_true, Option.isSome_eq_false_iff, Option.isNone_iff_eq_none,
        errorOf?_readSource_eq_none_iff]
      simp

/-! ### What the findings depend on -/

theorem readSource_of_same_content
    (hsame : ∀ content, workspace.find path = .ok (.file content) →
      other.find path = .ok (.file content))
    (hread : readSource workspace path = .ok text) : readSource other path = .ok text :=
  readSource_eq_ok_iff.mpr (hsame _ (readSource_eq_ok_iff.mp hread))

theorem SameAudit.rule?_eq (hsettings : SameAudit settings settings') :
    settings'.rule? = settings.rule? := by
  rw [Settings.rule?, Settings.rule?, hsettings.returnType, hsettings.callingConvention]

theorem SameAudit.findingsIn_eq (hsettings : SameAudit settings settings')
    (rule : Source.DeclarationRule) (implementations : List String) (interface : String)
    (header : Option String) :
    findingsIn sources settings' rule implementations interface header =
      findingsIn sources settings rule implementations interface header := by
  rw [findingsIn, findingsIn, Settings.markers, Settings.markers, hsettings.startMarker,
    hsettings.endMarker, hsettings.duplicateCheck]

theorem check_of_same_contents (hsettings : SameAudit settings settings')
    (hsame : ∀ path ∈ sources.paths, ∀ content, workspace.find path = .ok (.file content) →
      other.find path = .ok (.file content))
    (hcheck : check workspace settings sources = .ok findings) :
    check other settings' sources = .ok findings := by
  obtain ⟨rule, implementations, interface, header, hrule, himplementations, hinterface, hheader,
    rfl⟩ := check_eq_ok_iff.mp hcheck
  rw [Sources.paths, List.forall_mem_append, List.forall_mem_cons] at hsame
  obtain ⟨hfirst, hsecond, hthird⟩ := hsame
  have himplementations' : readSources other sources.implementations = .ok implementations :=
    readSources_mono (fun path hmem _ => readSource_of_same_content (hfirst path hmem))
      himplementations
  have hheader' : readSource? other sources.header = .ok header := by
    cases hpath : sources.header with
    | none =>
        rw [hpath] at hheader
        exact hheader
    | some path =>
        rw [hpath] at hheader hthird
        obtain ⟨text, htext, rfl⟩ := map_eq_ok_iff.mp hheader
        exact map_eq_ok_iff.mpr
          ⟨text, readSource_of_same_content (hthird path List.mem_cons_self) htext, rfl⟩
  exact check_eq_ok_iff.mpr ⟨rule, implementations, interface, header,
    hsettings.rule?_eq.trans hrule, himplementations',
    readSource_of_same_content hsecond hinterface, hheader', hsettings.findingsIn_eq _ _ _ _⟩

/-- An audit fails exactly if its rule cannot be built or some path does not lead to a file with
text, and then with the first cause: the rule whatever the files are, or else the first such path.
If it succeeds it finds the same wherever the files at its paths have the same contents, and with
all settings that agree on the tokens, the markers and the rule on repeated names. -/
theorem check_fails_with_first_cause (workspace : Workspace) (settings : Settings)
    (sources : Sources) :
    ((∃ failure, check workspace settings sources = .error failure) ↔
      settings.rule? = none ∨ ∃ path ∈ sources.paths, ∀ text, ¬ workspace.Holds ⟨path, text⟩) ∧
    (∀ failure, check workspace settings sources = .error failure ↔
      FirstCause workspace settings sources failure) ∧
    ∀ findings, check workspace settings sources = .ok findings →
      ∀ other settings', SameAudit settings settings' →
        (∀ path ∈ sources.paths, ∀ content, workspace.find path = .ok (.file content) →
          other.find path = .ok (.file content)) →
        check other settings' sources = .ok findings :=
  ⟨exists_check_eq_error_iff, fun _ => check_eq_error_iff,
    fun _ hcheck _ _ hsettings hsame => check_of_same_contents hsettings hsame hcheck⟩

/-- Two implementations, of which the second is a directory, an interface source that is not text
and no header. -/
def brokenWorkspace : Workspace where
  root := .directory [("a.cpp", .file "NvAPI_Status __cdecl A()".toUTF8), ("b.cpp", .directory []),
    ("i.cpp", .file ⟨#[255]⟩)]
  directory := []

def barrenWorkspace : Workspace where
  root := .directory [("a.cpp", .file "NvAPI_Status __cdecl A()".toUTF8)]
  directory := []

def renamedSettings : Settings := { Settings.standard with dispatchFunction := "query" }

theorem check_brokenWorkspace :
    check brokenWorkspace .standard ⟨[⟨"a.cpp"⟩, ⟨"b.cpp"⟩, ⟨"c.cpp"⟩], ⟨"i.cpp"⟩, some ⟨"i.h"⟩⟩ =
        .error (.unreadableSource ⟨"b.cpp"⟩ .isDirectory) ∧
      check brokenWorkspace .standard ⟨[⟨"a.cpp"⟩], ⟨"i.cpp"⟩, none⟩ =
        .error (.unreadableSource ⟨"i.cpp"⟩ .notText) ∧
      ∃ findings,
        check brokenWorkspace .standard ⟨[⟨"a.cpp"⟩, ⟨"a.cpp"⟩], ⟨"a.cpp"⟩, none⟩ = .ok findings ∧
        check barrenWorkspace renamedSettings ⟨[⟨"a.cpp"⟩, ⟨"a.cpp"⟩], ⟨"a.cpp"⟩, none⟩ =
          .ok findings := by
  let paths : List FilePath := [⟨"a.cpp"⟩]
  have hfirst : ∀ path ∈ paths, ∃ text, brokenWorkspace.Holds ⟨path, text⟩ :=
    List.forall_mem_singleton.mpr ⟨"NvAPI_Status __cdecl A()", rfl⟩
  have hinterface : brokenWorkspace.Unreadable ⟨"i.cpp"⟩ .notText :=
    Workspace.read_eq_error_iff.mp rfl
  obtain ⟨_, hsecond, _⟩ := check_fails_with_first_cause brokenWorkspace .standard
    ⟨[⟨"a.cpp"⟩, ⟨"b.cpp"⟩, ⟨"c.cpp"⟩], ⟨"i.cpp"⟩, some ⟨"i.h"⟩⟩
  obtain ⟨_, hthird, _⟩ := check_fails_with_first_cause brokenWorkspace .standard
    ⟨[⟨"a.cpp"⟩], ⟨"i.cpp"⟩, none⟩
  obtain ⟨hfails, _, hsame⟩ := check_fails_with_first_cause brokenWorkspace .standard
    ⟨[⟨"a.cpp"⟩, ⟨"a.cpp"⟩], ⟨"a.cpp"⟩, none⟩
  have hpaths : ∀ path ∈ [FilePath.mk "a.cpp", ⟨"a.cpp"⟩, ⟨"a.cpp"⟩], path ∈ paths := by decide
  refine ⟨(hsecond _).mpr (.source rfl (rfl : _ = paths ++ _) hfirst (.directory rfl)),
    (hthird _).mpr (.source rfl (rfl : _ = paths ++ _) hfirst hinterface), ?_⟩
  cases hcheck : check brokenWorkspace .standard ⟨[⟨"a.cpp"⟩, ⟨"a.cpp"⟩], ⟨"a.cpp"⟩, none⟩ with
  | error failure =>
      rcases hfails.mp ⟨failure, hcheck⟩ with hrule | ⟨path, hmem, hlost⟩
      · cases hrule
      · obtain ⟨text, htext⟩ := hfirst path (hpaths path hmem)
        exact absurd htext (hlost text)
  | ok findings =>
      refine ⟨findings, rfl, hsame findings hcheck _ _ ⟨rfl, rfl, rfl, rfl, rfl⟩ ?_⟩
      intro path hmem content hfind
      obtain rfl : path = ⟨"a.cpp"⟩ := List.mem_singleton.mp (hpaths path hmem)
      exact hfind

end Audit

end DispatchAudit
