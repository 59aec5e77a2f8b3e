import DispatchAudit.Proofs.Audit.Reading
import DispatchAudit.Proofs.Source.Declarations

/-!
# Implementations that are read as one

Where a method is declared among the implementations makes no difference but for its place in the
order, and the order is that of the texts one after another. So the implementations can be joined
by line feeds into one: the lines stay apart, a line feed more at the end of a text declares
nothing, and a return that a line loses to its end was a blank behind the declaration.
-/

namespace DispatchAudit.Audit

open Files Source

variable {workspace other : Workspace} {settings : Settings} {sources : Sources}
  {rule : DeclarationRule} {texts : List String} {path : FilePath}

def Sources.joinedAt (sources : Sources) (path : FilePath) : Sources :=
  { sources with implementations := [path] }

theorem findingsIn_joinedAt (sources : Sources) (settings : Settings) (rule : DeclarationRule)
    (texts : List String) (path : FilePath) (interface : String) (header : Option String) :
    findingsIn (sources.joinedAt path) settings rule ["\n".intercalate texts] interface header =
      { findingsIn sources settings rule texts interface header with
        sources := sources.joinedAt path } := by
  simp only [findingsIn, List.map_singleton, Roster.concat_singleton, rule.declared_intercalate]

theorem check_joinedAt (hrule : settings.rule? = some rule)
    (hread : readSources workspace sources.implementations = .ok texts)
    (hjoined : readSource other path = .ok ("\n".intercalate texts))
    (hinterface : readSource other sources.interface = readSource workspace sources.interface)
    (hheader : readSource? other sources.header = readSource? workspace sources.header) :
    check other settings (sources.joinedAt path) =
      (check workspace settings sources).map fun findings =>
        { findings with sources := sources.joinedAt path } := by
  have hread' := readSources_singleton hjoined
  have hinterface' : readSource other (sources.joinedAt path).interface = _ := hinterface
  have hheader' : readSource? other (sources.joinedAt path).header = _ := hheader
  have himplementations : (sources.joinedAt path).implementations = [path] := rfl
  simp only [check, hrule, himplementations, hread, hread', hinterface', hheader']
  cases readSource workspace sources.interface with
  | error failure => rfl
  | ok interface =>
      cases readSource? workspace sources.header with
      | error failure => rfl
      | ok header =>
          exact congrArg Except.ok (findingsIn_joinedAt sources settings rule texts path _ _)

/-- The names that texts declare one after another are those that the texts joined by line feeds
declare, in the same order. So wherever the texts are read from, an audit collects the names of
the joined text, and an audit of one implementation that holds it fails alike or finds the same,
with the same verdict. -/
theorem check_joined_implementations (rule : DeclarationRule) (texts : List String) :
    Roster.concat (texts.map rule.declared) = rule.declared ("\n".intercalate texts) ∧
    ∀ (workspace other : Workspace) (settings : Settings) (sources : Sources) (path : FilePath),
      settings.rule? = some rule →
      readSources workspace sources.implementations = .ok texts →
      (∀ findings, check workspace settings sources = .ok findings →
        findings.declared = rule.declared ("\n".intercalate texts)) ∧
      (readSource other path = .ok ("\n".intercalate texts) →
        readSource other sources.interface = readSource workspace sources.interface →
        readSource? other sources.header = readSource? workspace sources.header →
        check other settings (sources.joinedAt path) =
          (check workspace settings sources).map fun findings =>
            { findings with sources := sources.joinedAt path }) := by
  have hjoined := (rule.declared_intercalate texts).symm
  refine ⟨hjoined, ?_⟩
  intro workspace other settings sources path hrule hread
  refine ⟨?_, check_joinedAt hrule hread⟩
  intro findings hcheck
  obtain ⟨rule', texts', interface, header, hrule', hread', _, _, rfl⟩ :=
    check_eq_ok_iff.mp hcheck
  obtain rfl : rule' = rule := Option.some.inj (hrule'.symm.trans hrule)
  obtain rfl : texts' = texts := Except.ok.inj (hread'.symm.trans hread)
  exact hjoined

/-- Implementations of which one ends in a return, one is empty and one begins with a byte order
mark. -/
def raggedTexts : List String :=
  ["NvAPI_Status __cdecl Foo() \x7b\x7d\r", "",
    "\uFEFFNvAPI_Status __cdecl Lost();\nNvAPI_Status __cdecl Bar()"]

def raggedFiles : List TextFile :=
  [⟨⟨"i.cpp"⟩, "/* Start NVAPI methods */\ntbl(Foo)\ntbl(Bar)\n"⟩,
    ⟨⟨"all.cpp"⟩, "\n".intercalate raggedTexts⟩] ++
    [⟨"a.cpp"⟩, ⟨"b.cpp"⟩, ⟨"c.cpp"⟩].zipWith TextFile.mk raggedTexts

def raggedWorkspace : Workspace := Workspace.writeAll ⟨.emptyDirectory, ["work"]⟩ raggedFiles

def raggedSources : Sources := ⟨[⟨"a.cpp"⟩, ⟨"b.cpp"⟩, ⟨"c.cpp"⟩], ⟨"i.cpp"⟩, none⟩

theorem check_joined_ragged :
    readSources raggedWorkspace raggedSources.implementations = .ok raggedTexts ∧
      readSource raggedWorkspace ⟨"all.cpp"⟩ = .ok ("\n".intercalate raggedTexts) ∧
      (∃ findings, check raggedWorkspace .standard raggedSources = .ok findings ∧
        findings.declared.names = ["Foo", "Bar"]) ∧
      check raggedWorkspace .standard (raggedSources.joinedAt ⟨"all.cpp"⟩) =
        (check raggedWorkspace .standard raggedSources).map fun findings =>
          { findings with sources := raggedSources.joinedAt ⟨"all.cpp"⟩ } := by
  have hwrite : Workspace.CanWrite ⟨.emptyDirectory, ["work"]⟩ raggedFiles :=
    ⟨by decide, by decide, by decide⟩
  have hholds := hwrite.holds
  have hread : readSources raggedWorkspace raggedSources.implementations = .ok raggedTexts :=
    readSources_of_holds fun file hmem => hholds file (List.mem_append_right _ hmem)
  have hjoined : readSource raggedWorkspace ⟨"all.cpp"⟩ = .ok ("\n".intercalate raggedTexts) :=
    readSource_of_holds (hholds ⟨⟨"all.cpp"⟩, "\n".intercalate raggedTexts⟩ (by simp [raggedFiles]))
  have hinterface := readSource_of_holds (hholds _ List.mem_cons_self)
  let rule : DeclarationRule := ⟨"NvAPI_Status", "__cdecl", by decide⟩
  have hrule : Settings.standard.rule? = some rule := rfl
  have hcheck := check_eq_ok_iff.mpr
    ⟨rule, raggedTexts, _, none, hrule, hread, hinterface, rfl, rfl⟩
  obtain ⟨_, haudit⟩ := check_joined_implementations rule raggedTexts
  obtain ⟨hdeclared, hsame⟩ := haudit raggedWorkspace raggedWorkspace .standard raggedSources
    ⟨"all.cpp"⟩ hrule hread
  refine ⟨hread, hjoined, ⟨_, hcheck, ?_⟩, hsame hjoined rfl rfl⟩
  rw [hdeclared _ hcheck]
  decide +kernel

end DispatchAudit.Audit
