import DispatchAudit.Proofs.CommandLine.Ending
import DispatchAudit.Proofs.Settings.Encoding
import DispatchAudit.Proofs.Settings.Fitness

/-!
# Settings are loaded or the run fails

One configuration is chosen before any is read: the one that is asked for, or else the nearest. If
one is chosen its settings are loaded or the run fails, whatever is wrong with it. The defaults are
loaded only if none is chosen. So what reaches an audit are settings that were found fit or the
defaults, which are fit as well, and strictness changes neither tokens nor markers.
-/

namespace DispatchAudit

open Audit Files Text

/-! ### What settings are good for -/

def IsWord (token : String) : Prop := token ≠ "" ∧ ∀ c ∈ token.toList, isBlank c = false

def IsTrimmed (marker : String) : Prop := marker ≠ "" ∧ trim marker.toList = marker.toList

/-- Whether declarations and a region can be found with the settings. -/
structure Settings.Usable (settings : Settings) : Prop where
  returnType : IsWord settings.returnType
  callingConvention : IsWord settings.callingConvention
  startMarker : IsTrimmed settings.startMarker
  endMarker : IsTrimmed settings.endMarker
  distinct : settings.startMarker ≠ settings.endMarker

variable {settings : Settings} {workspace : Workspace} {asked : Option FilePath}
  {directory path : FilePath} {failure : Failure} {loaded : LoadedSettings}

namespace Settings

theorem isWord_of_isToken {token : String} (htoken : isToken token = true) : IsWord token := by
  refine ⟨?_, isBlank_of_mem_token htoken⟩
  rintro rfl
  exact toList_ne_nil_of_isToken htoken rfl

theorem isTrimmed_of_isMarker {marker : String} (hmarker : isMarker marker = true) :
    IsTrimmed marker := by
  refine ⟨?_, trim_marker hmarker⟩
  rintro rfl
  cases hmarker

theorem Fit.usable (hfit : settings.Fit) : settings.Usable where
  returnType := isWord_of_isToken hfit.returnType
  callingConvention := isWord_of_isToken hfit.callingConvention
  startMarker := isTrimmed_of_isMarker hfit.startMarker
  endMarker := isTrimmed_of_isMarker hfit.endMarker
  distinct := hfit.distinct

theorem Usable.effective (husable : settings.Usable) (arguments : CommandLine.Arguments) :
    (CommandLine.effectiveSettings arguments settings).Usable := by
  rw [CommandLine.effectiveSettings]
  split
  · exact ⟨husable.returnType, husable.callingConvention, husable.startMarker, husable.endMarker,
      husable.distinct⟩
  · exact husable

end Settings

/-! ### One configuration -/

namespace Files.Workspace

/-- Whether the configuration at the path is the one to use. -/
def Chosen (workspace : Workspace) (asked : Option FilePath) (directory path : FilePath) : Prop :=
  asked = some path ∨ asked = none ∧ workspace.findSettings directory = some path

/-- Whether the file at the path is a configuration with these settings, which are fit. -/
inductive Provides (workspace : Workspace) (path : FilePath) : Settings → Prop where
  | mk {content : ByteArray} {text : String} {settings : Settings}
      (hfile : workspace.find path = .ok (.file content))
      (htext : String.fromUTF8? content = some text) (hparsed : Settings.ofText text = .ok settings)
      (hfit : settings.fault? = none) : Provides workspace path settings

/-- Whether the configuration at the path cannot be used for the given reason. -/
inductive Refuses (workspace : Workspace) (path : FilePath) : Failure → Prop where
  | unreadable {fault : FileFault} (hread : workspace.read path = .error fault) :
      Refuses workspace path (.unreadableSettings path fault)
  | malformed {text : String} {fault : Json.Fault} (hread : workspace.read path = .ok text)
      (hparsed : Settings.ofText text = .error fault) :
      Refuses workspace path (.malformedSettings path fault)
  | unfit {text : String} {settings : Settings} {fault : SettingsFault}
      (hread : workspace.read path = .ok text) (hparsed : Settings.ofText text = .ok settings)
      (hfault : settings.fault? = some fault) : Refuses workspace path (.unfitSettings fault)

theorem chosen_iff : workspace.Chosen asked directory path ↔
    (asked <|> workspace.findSettings directory) = some path := by
  cases asked <;> simp [Chosen]

theorem readSettings_eq_ok_iff :
    workspace.readSettings path = .ok settings ↔ workspace.Provides path settings := by
  constructor
  · fun_cases readSettings workspace path <;> intro hread <;> cases hread
    case mp.case4 hread hparsed hfit =>
      obtain ⟨content, hfile, hcontent⟩ := read_eq_ok_iff.mp hread
      exact .mk hfile hcontent hparsed hfit
  · rintro ⟨hfile, hcontent, hparsed, hfit⟩
    have htext := read_eq_ok_iff.mpr ⟨_, hfile, hcontent⟩
    simp only [readSettings, htext, hparsed, hfit]

theorem readSettings_eq_error_iff :
    workspace.readSettings path = .error failure ↔ workspace.Refuses path failure := by
  constructor
  · fun_cases readSettings workspace path <;> intro hread <;> cases hread
    case mp.case1 hread => exact .unreadable hread
    case mp.case2 hread _ hparsed => exact .malformed hread hparsed
    case mp.case3 hread _ hparsed _ hfault => exact .unfit hread hparsed hfault
  · intro hrefuses
    cases hrefuses with
    | unreadable hread => simp only [readSettings, hread]
    | malformed hread hparsed => simp only [readSettings, hread, hparsed]
    | unfit hread hparsed hfault => simp only [readSettings, hread, hparsed, hfault]

/-! ### Loading -/

theorem loadSettings_of_chosen (hchosen : workspace.Chosen asked directory path) :
    workspace.loadSettings asked directory =
      (workspace.readSettings path).map fun settings => ⟨settings, some path⟩ := by
  rw [loadSettings, chosen_iff.mp hchosen]

theorem loadSettings_of_none (hasked : asked = none)
    (hnone : workspace.findSettings directory = none) :
    workspace.loadSettings asked directory = .ok ⟨.standard, none⟩ := by
  subst hasked
  rw [loadSettings, hnone]
  rfl

/-- Either one configuration is chosen, or none is asked for and none is found. -/
theorem exists_chosen_or_none (workspace : Workspace) (asked : Option FilePath)
    (directory : FilePath) : (∃ path, workspace.Chosen asked directory path) ∨
      asked = none ∧ workspace.findSettings directory = none := by
  cases asked with
  | some path => exact .inl ⟨path, .inl rfl⟩
  | none =>
      cases hfound : workspace.findSettings directory with
      | some path => exact .inl ⟨path, .inr ⟨rfl, hfound⟩⟩
      | none => exact .inr ⟨rfl, rfl⟩

theorem loadSettings_eq_ok_some_iff :
    workspace.loadSettings asked directory = .ok ⟨settings, some path⟩ ↔
      workspace.Chosen asked directory path ∧ workspace.Provides path settings := by
  constructor
  · intro hloaded
    rcases exists_chosen_or_none workspace asked directory with ⟨found, hchosen⟩ | ⟨hasked, hnone⟩
    · rw [loadSettings_of_chosen hchosen, map_eq_ok_iff] at hloaded
      obtain ⟨_, hread, hsame⟩ := hloaded
      cases hsame
      exact ⟨hchosen, readSettings_eq_ok_iff.mp hread⟩
    · rw [loadSettings_of_none hasked hnone] at hloaded
      cases hloaded
  · rintro ⟨hchosen, hprovides⟩
    rw [loadSettings_of_chosen hchosen, readSettings_eq_ok_iff.mpr hprovides]
    rfl

theorem loadSettings_eq_ok_none_iff :
    workspace.loadSettings asked directory = .ok ⟨settings, none⟩ ↔
      settings = .standard ∧ asked = none ∧ workspace.findSettings directory = none := by
  constructor
  · intro hloaded
    rcases exists_chosen_or_none workspace asked directory with ⟨found, hchosen⟩ | ⟨hasked, hnone⟩
    · rw [loadSettings_of_chosen hchosen, map_eq_ok_iff] at hloaded
      obtain ⟨_, _, hsame⟩ := hloaded
      cases hsame
    · rw [loadSettings_of_none hasked hnone] at hloaded
      cases hloaded
      exact ⟨rfl, hasked, hnone⟩
  · rintro ⟨rfl, hasked, hnone⟩
    exact loadSettings_of_none hasked hnone

theorem loadSettings_eq_error_iff :
    workspace.loadSettings asked directory = .error failure ↔
      ∃ path, workspace.Chosen asked directory path ∧ workspace.Refuses path failure := by
  constructor
  · intro hfailed
    rcases exists_chosen_or_none workspace asked directory with ⟨path, hchosen⟩ | ⟨hasked, hnone⟩
    · rw [loadSettings_of_chosen hchosen] at hfailed
      refine ⟨path, hchosen, readSettings_eq_error_iff.mp ?_⟩
      cases hread : workspace.readSettings path with
      | error found =>
          rw [hread] at hfailed
          cases hfailed
          rfl
      | ok settings =>
          rw [hread] at hfailed
          cases hfailed
    · rw [loadSettings_of_none hasked hnone] at hfailed
      cases hfailed
  · rintro ⟨path, hchosen, hrefuses⟩
    rw [loadSettings_of_chosen hchosen, readSettings_eq_error_iff.mpr hrefuses]
    rfl

theorem usable_of_loadSettings (hloaded : workspace.loadSettings asked directory = .ok loaded) :
    loaded.settings.Usable := by
  obtain ⟨settings, path?⟩ := loaded
  apply Settings.Fit.usable
  rw [← Settings.fault?_eq_none_iff]
  cases path? with
  | some path =>
      obtain ⟨_, hprovides⟩ := loadSettings_eq_ok_some_iff.mp hloaded
      cases hprovides with
      | mk _ _ _ hfit => exact hfit
  | none =>
      obtain ⟨rfl, _⟩ := loadSettings_eq_ok_none_iff.mp hloaded
      exact Settings.standard_fault?

end Files.Workspace

/-! ### What reaches an audit -/

namespace CommandLine

/-- The run over sources once the settings are loaded. -/
def checkedRun (workspace : Workspace) (color : Bool) (arguments : Arguments) (sources : Sources)
    (loaded : LoadedSettings) (settings : Settings) : Transcript :=
  let notes := if arguments.verbose then settingsNote loaded else ""
  match (sources.expand workspace).bind (check workspace settings) with
  | .error failure => .ofFailure notes failure
  | .ok findings =>
    { status := .ofVerdict findings.verdict
      output := report arguments.format color settings findings
      errors := notes ++ if arguments.verbose then summary color findings else "" }

theorem audit_eq_bind (workspace : Workspace) (settings : Settings) (sources : Sources) :
    audit workspace settings sources =
      (sources.expand workspace).bind (check workspace settings) := by
  rw [audit]
  cases sources.expand workspace <;> rfl

theorem runSources_of_loaded {arguments : Arguments}
    (hloaded : loading workspace arguments = .ok loaded) (color : Bool) (sources : Sources) :
    runSources workspace color arguments sources = checkedRun workspace color arguments sources
      loaded (effectiveSettings arguments loaded.settings) := by
  have hchecked := audit_eq_bind workspace (effectiveSettings arguments loaded.settings) sources
  cases haudit : audit workspace (effectiveSettings arguments loaded.settings) sources with
  | error failure =>
      rw [haudit] at hchecked
      simp only [runSources, loadSettings_eq_loading, hloaded, haudit, checkedRun, ← hchecked]
  | ok findings =>
      rw [haudit] at hchecked
      simp only [runSources, loadSettings_eq_loading, hloaded, haudit, checkedRun, ← hchecked]

theorem runSources_of_not_loaded {arguments : Arguments}
    (hfailed : loading workspace arguments = .error failure) (color : Bool) (sources : Sources) :
    runSources workspace color arguments sources = .ofFailure "" failure := by
  rw [runSources, loadSettings_eq_loading, hfailed]

/-- What a run comes to that checks no sources, or checks them with usable settings. -/
inductive ChecksUsable (workspace : Workspace) (color : Bool) (arguments : Arguments) :
    Transcript → Prop where
  | printing (hprint : arguments.printConfig = true) :
      ChecksUsable workspace color arguments ⟨.success, Settings.standard.toText ++ "\n", ""⟩
  | usage (hfew : Sources.ofPaths? arguments.scope arguments.paths = none) :
      ChecksUsable workspace color arguments ⟨.failure, usageReport arguments.format, ""⟩
  | unloaded {failure : Failure}
      (hfailed : workspace.loadSettings arguments.config workspace.directoryPath =
        .error failure) :
      ChecksUsable workspace color arguments (.ofFailure "" failure)
  | checked {sources : Sources} {loaded : LoadedSettings}
      (hsources : Sources.ofPaths? arguments.scope arguments.paths = some sources)
      (hloaded : workspace.loadSettings arguments.config workspace.directoryPath = .ok loaded)
      (husable : (effectiveSettings arguments loaded.settings).Usable) :
      ChecksUsable workspace color arguments (checkedRun workspace color arguments sources loaded
        (effectiveSettings arguments loaded.settings))

theorem run_checksUsable (workspace : Workspace) (color : Bool) (arguments : Arguments) :
    ChecksUsable workspace color arguments (run workspace color arguments) := by
  cases hprint : arguments.printConfig with
  | true =>
      rw [run_of_printConfig workspace color hprint]
      exact .printing hprint
  | false =>
      cases hsources : Sources.ofPaths? arguments.scope arguments.paths with
      | none =>
          rw [run_of_few_paths workspace color hprint hsources]
          exact .usage hsources
      | some sources =>
          rw [run_of_sources workspace color hprint hsources]
          cases hloaded : loading workspace arguments with
          | error failure =>
              rw [runSources_of_not_loaded hloaded]
              exact .unloaded hloaded
          | ok loaded =>
              rw [runSources_of_loaded hloaded]
              exact .checked hsources hloaded
                ((Workspace.usable_of_loadSettings hloaded).effective arguments)

/-- Loading never falls back. It gives the settings of a configuration only if that one is chosen
and can be used, and the defaults only if none is chosen; otherwise it fails for what is wrong with
the one that is chosen. So whatever a run checks its sources with is usable. -/
theorem loads_chosen_or_fails (workspace : Workspace) :
    (∀ asked directory settings path,
      workspace.loadSettings asked directory = .ok ⟨settings, some path⟩ ↔
        workspace.Chosen asked directory path ∧ workspace.Provides path settings) ∧
    (∀ asked directory settings,
      workspace.loadSettings asked directory = .ok ⟨settings, none⟩ ↔
        settings = .standard ∧ asked = none ∧ workspace.findSettings directory = none) ∧
    (∀ asked directory failure, workspace.loadSettings asked directory = .error failure ↔
      ∃ path, workspace.Chosen asked directory path ∧ workspace.Refuses path failure) ∧
    ∀ color arguments,
      ChecksUsable workspace color arguments (run workspace color arguments) :=
  ⟨fun _ _ _ _ => Workspace.loadSettings_eq_ok_some_iff,
    fun _ _ _ => Workspace.loadSettings_eq_ok_none_iff,
    fun _ _ _ => Workspace.loadSettings_eq_error_iff, run_checksUsable workspace⟩

def shortEnd : Settings := { Settings.standard with endMarker := "E" }

/-- A tree with a configuration in a directory and an empty one in the directory below it. -/
def emptyBelow : Workspace where
  root := .directory [("a", .directory [(".validate-methods.json", .file shortEnd.toText.toUTF8),
    ("b", .directory [(".validate-methods.json", .file ByteArray.empty)])])]
  directory := []

theorem loadSettings_emptyBelow :
    emptyBelow.loadSettings none ⟨"/a"⟩ = .ok ⟨shortEnd, some ⟨"/a/.validate-methods.json"⟩⟩ ∧
      ∃ failure, emptyBelow.loadSettings none ⟨"/a/b"⟩ = .error failure := by
  obtain ⟨hgiven, _, hfails, _⟩ := loads_chosen_or_fails emptyBelow
  have habove : emptyBelow.findSettings ⟨"/a"⟩ = some ⟨"/a/.validate-methods.json"⟩ := by
    rw [Workspace.findSettings, if_pos (by decide)]
    rfl
  have hbelow : emptyBelow.findSettings ⟨"/a/b"⟩ = some ⟨"/a/b/.validate-methods.json"⟩ := by
    rw [Workspace.findSettings, if_pos (by decide)]
    rfl
  have hprovides : emptyBelow.Provides ⟨"/a/.validate-methods.json"⟩ shortEnd :=
    .mk rfl (Workspace.fromUTF8?_toUTF8 shortEnd.toText) (Settings.ofText_toText shortEnd)
      (by decide)
  have hrefuses : emptyBelow.Refuses ⟨"/a/b/.validate-methods.json"⟩ _ :=
    .malformed rfl rfl
  exact ⟨(hgiven _ _ _ _).mpr ⟨.inr ⟨rfl, habove⟩, hprovides⟩, _,
    (hfails _ _ _).mpr ⟨_, .inr ⟨rfl, hbelow⟩, hrefuses⟩⟩

end CommandLine

end DispatchAudit
