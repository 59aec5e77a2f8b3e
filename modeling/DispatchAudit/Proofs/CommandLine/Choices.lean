import DispatchAudit.Proofs.CommandLine.Weaving

/-!
# What a run is given

The arguments of a run follow the choices of its command line: a flag is set if it is chosen, and
what is not chosen has its default or, for the configuration, what the environment names. This says
each of them apart from how and where the choices were spelled. So the arguments are determined by
the choices as a set and the paths as a list, and with them what every other spelling gives.
-/

namespace DispatchAudit.CommandLine

open Files

/-- Whether the configuration is left to the environment, and this gives an empty one. -/
def LacksConfig (choices : List Choice) (environment : Option String) : Prop :=
  environment = some "" ∧ ∀ path, .config path ∉ choices

/-- Whether the arguments of a run are as the choices say, where the environment may name a
configuration. -/
structure Arguments.Follows (arguments : Arguments) (choices : List Choice)
    (environment : Option String) : Prop where
  skipAvailability : arguments.skipAvailability = true ↔ .flag .skipAvailability ∈ choices
  strict : arguments.strict = true ↔ .flag .strict ∈ choices
  printConfig : arguments.printConfig = true ↔ .flag .printConfig ∈ choices
  verbose : arguments.verbose = true ↔ .flag .verbose ∈ choices
  config : ∀ path, .config path ∈ choices → arguments.config = some ⟨path⟩
  config_default : (∀ path, .config path ∉ choices) →
    arguments.config = environment.map FilePath.mk
  format : ∀ format, .format format ∈ choices → arguments.format = format
  format_default : (∀ format, .format format ∉ choices) → arguments.format = .text

def Progress.arguments (progress : Progress) (config : Option FilePath) : Arguments where
  paths := progress.paths
  skipAvailability := progress.flags.contains .skipAvailability
  config
  strict := progress.flags.contains .strict
  format := progress.format.getD .text
  printConfig := progress.flags.contains .printConfig
  verbose := progress.flags.contains .verbose

variable {choices others : List Choice} {paths otherPaths arguments otherArguments : List String}
  {path : String} {environment : Option String} {parsed otherParsed : Arguments}

/-! ### What the arguments of a run are -/

theorem config_known_of_none (hnone : ∀ path, .config path ∉ choices) :
    (Progress.known choices paths).config = none := by
  apply List.findSome?_eq_none_iff.mpr
  intro choice hmem
  cases choice with
  | config path => exact absurd hmem (hnone path)
  | flag _ => rfl
  | format _ => rfl

theorem format_known_of_none (hnone : ∀ format, .format format ∉ choices) :
    (Progress.known choices paths).format = none := by
  apply List.findSome?_eq_none_iff.mpr
  intro choice hmem
  cases choice with
  | format format => exact absurd hmem (hnone format)
  | flag _ => rfl
  | config _ => rfl

theorem configOr_known_of_mem (hdistinct : (choices.map Choice.switch).Nodup)
    (hmem : .config path ∈ choices) (paths : List String) (environment : Option String) :
    (Progress.known choices paths).configOr environment = .ok (some ⟨path⟩) := by
  have hconfig : (Progress.known choices paths).config = some ⟨path⟩ :=
    findSome?_eq_some_of_mem switch_of_config? hdistinct hmem rfl
  simp only [Progress.configOr, hconfig]

theorem configOr_known_of_none (hnone : ∀ path, .config path ∉ choices)
    (henvironment : environment ≠ some "") :
    (Progress.known choices paths).configOr environment = .ok (environment.map FilePath.mk) := by
  cases environment with
  | none => simp only [Progress.configOr, config_known_of_none hnone, Option.map_none]
  | some value =>
      have hvalue : ¬ value.isEmpty = true := by simpa using henvironment
      simp only [Progress.configOr, config_known_of_none hnone, if_neg hvalue, Option.map_some]

theorem configOr_known_of_empty (hnone : ∀ path, .config path ∉ choices) :
    (Progress.known choices paths).configOr (some "") = .error (.fault .invalidValue) := by
  simp only [Progress.configOr, config_known_of_none hnone]
  rfl

theorem ofList_of_conveys (hconveys : Conveys choices paths arguments)
    (hdistinct : (choices.map Choice.switch).Nodup) (environment : Option String) :
    Arguments.ofList arguments environment =
      ((Progress.known choices paths).configOr environment).map
        (Progress.known choices paths).arguments := by
  obtain ⟨next, hnext, hknown⟩ := Progress.addAll_start hconveys hdistinct
  rw [Arguments.ofList, hnext]
  change next.settle.bind _ = _
  rw [hknown]
  change ((Progress.known choices paths).configOr environment).bind _ = _
  cases (Progress.known choices paths).configOr environment <;> rfl

theorem ofList_of_lacksConfig (hconveys : Conveys choices paths arguments)
    (hdistinct : (choices.map Choice.switch).Nodup) (hlacks : LacksConfig choices environment) :
    Arguments.ofList arguments environment = .error (.fault .invalidValue) := by
  obtain ⟨rfl, hnone⟩ := hlacks
  rw [ofList_of_conveys hconveys hdistinct, configOr_known_of_empty hnone]
  rfl

theorem follows_known {config : Option FilePath} (hdistinct : (choices.map Choice.switch).Nodup)
    (hgiven : ∀ path, .config path ∈ choices → config = some ⟨path⟩)
    (hdefault : (∀ path, .config path ∉ choices) → config = environment.map FilePath.mk) :
    ((Progress.known choices paths).arguments config).Follows choices environment where
  skipAvailability := List.contains_iff_mem.trans mem_flags_iff
  strict := List.contains_iff_mem.trans mem_flags_iff
  printConfig := List.contains_iff_mem.trans mem_flags_iff
  verbose := List.contains_iff_mem.trans mem_flags_iff
  config := hgiven
  config_default := hdefault
  format format hmem := by
    have hformat : (Progress.known choices paths).format = some format :=
      findSome?_eq_some_of_mem switch_of_format? hdistinct hmem rfl
    rw [Progress.arguments, hformat]
    rfl
  format_default hnone := by
    rw [Progress.arguments, format_known_of_none hnone]
    rfl

theorem exists_ofList (hconveys : Conveys choices paths arguments)
    (hdistinct : (choices.map Choice.switch).Nodup) (hfull : ¬ LacksConfig choices environment) :
    ∃ parsed, Arguments.ofList arguments environment = .ok parsed ∧
      parsed.paths = paths.map FilePath.mk ∧ parsed.Follows choices environment := by
  rw [ofList_of_conveys hconveys hdistinct]
  by_cases hgiven : ∃ path, .config path ∈ choices
  · obtain ⟨path, hmem⟩ := hgiven
    rw [configOr_known_of_mem hdistinct hmem]
    refine ⟨_, rfl, rfl, follows_known hdistinct ?_ fun hnone => absurd hmem (hnone path)⟩
    intro other hother
    have hsame := configOr_known_of_mem hdistinct hother paths environment
    rw [configOr_known_of_mem hdistinct hmem] at hsame
    exact Except.ok.inj hsame
  · have hnone : ∀ path, .config path ∉ choices := not_exists.mp hgiven
    have henvironment : environment ≠ some "" := fun hempty => hfull ⟨hempty, hnone⟩
    rw [configOr_known_of_none hnone henvironment]
    exact ⟨_, rfl, rfl, follows_known hdistinct (fun path hmem => absurd hmem (hnone path))
      fun _ => rfl⟩

/-! ### The choices are a set -/

theorem Arguments.Follows.of_perm (hfollows : parsed.Follows choices environment)
    (hperm : others.Perm choices) : parsed.Follows others environment := by
  have hmem : ∀ choice, choice ∈ others ↔ choice ∈ choices := fun choice => hperm.mem_iff
  exact {
    skipAvailability := hfollows.skipAvailability.trans (hmem _).symm
    strict := hfollows.strict.trans (hmem _).symm
    printConfig := hfollows.printConfig.trans (hmem _).symm
    verbose := hfollows.verbose.trans (hmem _).symm
    config := fun path hpath => hfollows.config path ((hmem _).mp hpath)
    config_default := fun hnone => hfollows.config_default fun path hpath =>
      hnone path ((hmem _).mpr hpath)
    format := fun format hformat => hfollows.format format ((hmem _).mp hformat)
    format_default := fun hnone => hfollows.format_default fun format hformat =>
      hnone format ((hmem _).mpr hformat) }

theorem Arguments.Follows.withPaths (hfollows : parsed.Follows choices environment)
    (paths : List FilePath) : ({ parsed with paths } : Arguments).Follows choices environment :=
  ⟨hfollows.skipAvailability, hfollows.strict, hfollows.printConfig, hfollows.verbose,
    hfollows.config, hfollows.config_default, hfollows.format, hfollows.format_default⟩

theorem Arguments.Follows.unique (hfollows : parsed.Follows choices environment)
    (hother : otherParsed.Follows choices environment) (hpaths : parsed.paths = otherParsed.paths) :
    parsed = otherParsed := by
  have hconfig : parsed.config = otherParsed.config := by
    by_cases hgiven : ∃ path, .config path ∈ choices
    · obtain ⟨path, hmem⟩ := hgiven
      rw [hfollows.config path hmem, hother.config path hmem]
    · have hnone : ∀ path, .config path ∉ choices := not_exists.mp hgiven
      rw [hfollows.config_default hnone, hother.config_default hnone]
  have hformat : parsed.format = otherParsed.format := by
    by_cases hgiven : ∃ format, .format format ∈ choices
    · obtain ⟨format, hmem⟩ := hgiven
      rw [hfollows.format format hmem, hother.format format hmem]
    · have hnone : ∀ format, .format format ∉ choices := not_exists.mp hgiven
      rw [hfollows.format_default hnone, hother.format_default hnone]
  have hskip := Bool.eq_iff_iff.mpr (hfollows.skipAvailability.trans hother.skipAvailability.symm)
  have hstrict := Bool.eq_iff_iff.mpr (hfollows.strict.trans hother.strict.symm)
  have hprint := Bool.eq_iff_iff.mpr (hfollows.printConfig.trans hother.printConfig.symm)
  have hverbose := Bool.eq_iff_iff.mpr (hfollows.verbose.trans hother.verbose.symm)
  cases parsed
  cases otherParsed
  simp_all

theorem ofList_of_perm (hconveys : Conveys choices paths arguments)
    (hdistinct : (choices.map Choice.switch).Nodup) (hperm : others.Perm choices)
    (hother : Conveys others otherPaths otherArguments) (environment : Option String) :
    Arguments.ofList otherArguments environment =
      (Arguments.ofList arguments environment).map fun parsed =>
        { parsed with paths := otherPaths.map FilePath.mk } := by
  have hdistinct' : (others.map Choice.switch).Nodup := (hperm.map _).nodup_iff.mpr hdistinct
  have hlacks : LacksConfig others environment ↔ LacksConfig choices environment := by
    simp only [LacksConfig, hperm.mem_iff]
  by_cases hcase : LacksConfig choices environment
  · rw [ofList_of_lacksConfig hconveys hdistinct hcase,
      ofList_of_lacksConfig hother hdistinct' (hlacks.mpr hcase)]
    rfl
  · obtain ⟨parsed, hparsed, _, hfollows⟩ := exists_ofList hconveys hdistinct hcase
    obtain ⟨otherParsed, hotherParsed, hpaths, hfollows'⟩ :=
      exists_ofList hother hdistinct' (hlacks.not.mpr hcase)
    rw [hparsed, hotherParsed]
    exact congrArg Except.ok (hfollows'.unique ((hfollows.of_perm hperm).withPaths _) hpaths)

/-- Any command line that conveys a set of choices, one for each option, gives the arguments of a
run, and which ones depends on the set alone but for the paths, which are those of the command line
in their order. Only an empty environment where no configuration is chosen makes it fail. -/
theorem options_anywhere (hconveys : Conveys choices paths arguments)
    (hdistinct : (choices.map Choice.switch).Nodup) (environment : Option String) :
    (LacksConfig choices environment →
      Arguments.ofList arguments environment = .error (.fault .invalidValue)) ∧
    (¬ LacksConfig choices environment →
      ∃ parsed, Arguments.ofList arguments environment = .ok parsed ∧
        parsed.paths = paths.map FilePath.mk ∧ parsed.Follows choices environment) ∧
    ∀ others otherPaths otherArguments, others.Perm choices →
      Conveys others otherPaths otherArguments →
      Arguments.ofList otherArguments environment =
        (Arguments.ofList arguments environment).map fun parsed =>
          { parsed with paths := otherPaths.map FilePath.mk } :=
  ⟨ofList_of_lacksConfig hconveys hdistinct, exists_ofList hconveys hdistinct,
    fun _ _ _ hperm hother => ofList_of_perm hconveys hdistinct hperm hother environment⟩

/-- Choices stand in front of paths and between them, and a path behind the dashes looks like an
option. -/
def mixedArguments : List String :=
  ["-v", "a.cpp", "--config=-c.json", "-", "--format", "json", "--", "--strict", "i.cpp"]

def mixedChoices : List Choice := [.flag .verbose, .config "-c.json", .format .json]

def mixedPaths : List String := ["a.cpp", "-", "--strict", "i.cpp"]

theorem conveys_mixed : Conveys mixedChoices mixedPaths mixedArguments :=
  .dashed (.choice .letter (.path ⟨by decide, .inr (by decide)⟩
    (.choice (.attached (.config (by decide))) (.path ⟨by decide, .inl rfl⟩
      (.choice (.detached (.format .json) ⟨by decide, .inr (by decide)⟩) .nil))))) (by decide)

theorem conveys_orderly :
    Conveys [.format .json, .config "-c.json", .flag .verbose] ["a.cpp"]
      ["--format=json", "--config=-c.json", "--verbose", "a.cpp"] :=
  .woven (.choice (.attached (.format .json)) (.choice (.attached (.config (by decide)))
    (.choice (.long .verbose) (.path ⟨by decide, .inr (by decide)⟩ .nil))))

theorem options_anywhere_mixed :
    Conveys mixedChoices mixedPaths mixedArguments ∧ (mixedChoices.map Choice.switch).Nodup ∧
      (∃ parsed, Arguments.ofList mixedArguments (some "") = .ok parsed ∧
        parsed.paths = mixedPaths.map FilePath.mk ∧ parsed.Follows mixedChoices (some "")) ∧
      Arguments.ofList ["--format=json", "--config=-c.json", "--verbose", "a.cpp"] (some "") =
        .ok {
          paths := [⟨"a.cpp"⟩]
          skipAvailability := false
          config := some ⟨"-c.json"⟩
          strict := false
          format := .json
          printConfig := false
          verbose := true } ∧
      Arguments.ofList ["--strict"] (some "") = .error (.fault .invalidValue) := by
  have hdistinct : (mixedChoices.map Choice.switch).Nodup := by decide
  have hfull : ¬ LacksConfig mixedChoices (some "") := fun hlacks =>
    hlacks.2 "-c.json" (by decide)
  have hstrict : Conveys [.flag .strict] [] ["--strict"] := .woven (.choice (.long .strict) .nil)
  obtain ⟨_, hparsed, hother⟩ := options_anywhere conveys_mixed hdistinct (some "")
  obtain ⟨hfails, _, _⟩ := options_anywhere hstrict (by decide) (some "")
  refine ⟨conveys_mixed, hdistinct, hparsed hfull, ?_, hfails ⟨rfl, by simp⟩⟩
  rw [hother _ _ _ (by decide) conveys_orderly]
  rfl

end DispatchAudit.CommandLine
