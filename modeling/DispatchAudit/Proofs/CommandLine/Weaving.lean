import DispatchAudit.CommandLine.Arguments
import Mathlib.Data.List.Nodup
import Mathlib.Data.List.TakeWhile

/-!
# Options woven into paths

A command line makes choices and names paths. Each choice is spelled by one or two arguments, and
these groups stand anywhere among the paths and in any order; behind two dashes there are only
paths. Reading such a command line ends with just these choices and these paths known.

The value of an option and the paths in a row wait while the arguments are read, so the state of the
reader does not say what is known. What is known is the state in which nothing waits. Reading a
path or a whole group takes what is known on by that path or choice, whatever waited before.
-/

namespace DispatchAudit.CommandLine

open Files

/-- What one option says. -/
inductive Choice where
  | flag (flag : Flag)
  | config (path : String)
  | format (format : Format)
deriving DecidableEq

def Choice.switch : Choice → Switch
  | .flag given => .flag given
  | .config _ => .value .config
  | .format _ => .value .format

def Choice.flag? : Choice → Option Flag
  | .flag given => some given
  | _ => none

def Choice.config? : Choice → Option FilePath
  | .config path => some ⟨path⟩
  | _ => none

def Choice.format? : Choice → Option Format
  | .format given => some given
  | _ => none

def Flag.longName : Flag → String
  | skipAvailability => "skip-availability"
  | strict => "strict"
  | printConfig => "print-config"
  | verbose => "verbose"

def ValueOption.longName : ValueOption → String
  | config => "config"
  | format => "format"

/-- Whether an argument can be a path or a value of its own: it is not empty and does not look like
an option. -/
structure IsOperand (argument : String) : Prop where
  nonempty : argument ≠ ""
  plain : argument = "-" ∨ argument.toList.head? ≠ some '-'

inductive Sets : ValueOption → String → Choice → Prop where
  | config {path : String} (hpath : path ≠ "") : Sets .config path (.config path)
  | format (format : Format) : Sets .format format.word (.format format)

/-- The groups of arguments that make a choice. A value is attached to its option or stands behind
it. -/
inductive Spelled : Choice → List String → Prop where
  | long (flag : Flag) : Spelled (.flag flag) ["--" ++ flag.longName]
  | letter : Spelled (.flag .verbose) ["-v"]
  | attached {option : ValueOption} {value : String} {choice : Choice}
      (hsets : Sets option value choice) : Spelled choice ["--" ++ option.longName ++ "=" ++ value]
  | detached {option : ValueOption} {value : String} {choice : Choice}
      (hsets : Sets option value choice) (hvalue : IsOperand value) :
      Spelled choice ["--" ++ option.longName, value]

/-- Whether the arguments are groups for the choices in their order and the paths in their order,
interleaved. -/
inductive Woven : List Choice → List String → List String → Prop where
  | nil : Woven [] [] []
  | choice {choice : Choice} {group : List String} {choices : List Choice}
      {paths arguments : List String} (hgroup : Spelled choice group)
      (hrest : Woven choices paths arguments) : Woven (choice :: choices) paths (group ++ arguments)
  | path {path : String} {choices : List Choice} {paths arguments : List String}
      (hpath : IsOperand path) (hrest : Woven choices paths arguments) :
      Woven choices (path :: paths) (path :: arguments)

/-- Whether the arguments make the choices and name the paths, some of them behind two dashes or
none. -/
inductive Conveys : List Choice → List String → List String → Prop where
  | woven {choices : List Choice} {paths arguments : List String}
      (hwoven : Woven choices paths arguments) : Conveys choices paths arguments
  | dashed {choices : List Choice} {paths arguments further : List String}
      (hwoven : Woven choices paths arguments) (hfurther : ∀ path ∈ further, path ≠ "") :
      Conveys choices (paths ++ further) (arguments ++ "--" :: further)

/-- What is known once the choices and the paths are read and nothing waits. -/
def Progress.known (choices : List Choice) (paths : List String) : Progress where
  paths := paths.map FilePath.mk
  flags := choices.filterMap Choice.flag?
  config := choices.findSome? Choice.config?
  format := choices.findSome? Choice.format?
  waiting := .nothing

/-- Whether the arguments make the choices and the paths known, whatever stands behind them. -/
def Progress.Learns (progress : Progress) (arguments : List String) (choices : List Choice)
    (paths : List String) : Prop :=
  ∃ next : Progress, (∀ rest, progress.addAll (arguments ++ rest) = next.addAll rest) ∧
    next.settle = .ok (known choices paths)

variable {progress : Progress} {choice : Choice} {choices others : List Choice}
  {paths otherPaths arguments group : List String} {option : ValueOption} {value path : String}

/-! ### One choice for each option -/

theorem mem_flags_iff {flag : Flag} :
    flag ∈ choices.filterMap Choice.flag? ↔ .flag flag ∈ choices := by
  rw [List.mem_filterMap]
  constructor
  · rintro ⟨choice, hmem, hflag⟩
    cases choice <;> cases hflag
    exact hmem
  · intro hmem
    exact ⟨.flag flag, hmem, rfl⟩

theorem switch_of_config? (choice : Choice) (hsome : choice.config?.isSome = true) :
    choice.switch = .value .config := by
  cases choice <;> simp_all [Choice.config?, Choice.switch]

theorem switch_of_format? (choice : Choice) (hsome : choice.format?.isSome = true) :
    choice.switch = .value .format := by
  cases choice <;> simp_all [Choice.format?, Choice.switch]

section

variable {β : Type} {f : Choice → Option β} {switch : Switch}
  (hswitch : ∀ choice : Choice, (f choice).isSome = true → choice.switch = switch)
include hswitch

theorem findSome?_eq_none_of_new (hnew : switch ∉ choices.map Choice.switch) :
    choices.findSome? f = none := by
  rw [List.findSome?_eq_none_iff]
  intro choice hmem
  by_contra hsome
  exact hnew (hswitch choice (Option.isSome_iff_ne_none.mpr hsome) ▸ List.mem_map_of_mem hmem)

theorem findSome?_eq_some_of_mem {b : β} (hdistinct : (choices.map Choice.switch).Nodup)
    (hmem : choice ∈ choices) (hchoice : f choice = some b) : choices.findSome? f = some b := by
  obtain ⟨before, later, rfl⟩ := List.append_of_mem hmem
  have hnew : switch ∉ before.map Choice.switch := by
    rw [← hswitch choice (by rw [hchoice]; rfl)]
    rw [List.map_append, List.map_cons] at hdistinct
    exact fun hold => List.disjoint_of_nodup_append hdistinct hold List.mem_cons_self
  rw [List.findSome?_append, findSome?_eq_none_of_new hswitch hnew, List.findSome?_cons, hchoice]
  rfl

end

/-! ### Reading names of options -/

/-- Whether the name is read as that of the option, also with an equals sign behind it. -/
structure IsLongName (name : String) (switch : Switch) : Prop where
  found : Switch.ofName? name = some switch
  plain : ∀ c ∈ name.toList, (c != '=') = true

theorem isLongName_flag (flag : Flag) : IsLongName flag.longName (.flag flag) where
  found := by cases flag <;> rfl
  plain := List.all_eq_true.mp (by cases flag <;> rfl)

theorem isLongName_value (option : ValueOption) : IsLongName option.longName (.value option) where
  found := by cases option <;> rfl
  plain := List.all_eq_true.mp (by cases option <;> rfl)

theorem ofWord?_word (format : Format) : Format.ofWord? format.word = some format := by
  cases format <;> decide

theorem IsOperand.ne_dashes (hoperand : IsOperand path) : path ≠ "--" := by
  rintro rfl
  rcases hoperand.plain with hplain | hplain
  · exact absurd hplain (by decide)
  · exact hplain rfl

theorem assignment_ne_dashes (option : ValueOption) (value : String) :
    "--" ++ option.longName ++ "=" ++ value ≠ "--" := by
  intro heq
  have hlength := congrArg (fun text : String => text.toList.length) heq
  simp at hlength

namespace Progress

theorem addAll_cons (hargument : path ≠ "--") (progress : Progress) (rest : List String) :
    progress.addAll (path :: rest) = (progress.add path).bind fun next => next.addAll rest :=
  if_neg hargument

theorem add_dashes (progress : Progress) (text : String) :
    progress.add ("--" ++ text) = progress.addLong text.toList := by
  rw [add, String.toList_append]
  rfl

theorem add_longName {name : String} {switch : Switch} (hname : IsLongName name switch)
    (progress : Progress) : progress.add ("--" ++ name) = progress.addSwitch switch := by
  rw [add_dashes, addLong, List.takeWhile_eq_self_iff.mpr hname.plain,
    List.dropWhile_eq_nil_iff.mpr hname.plain, String.ofList_toList, hname.found]

theorem add_assignment {name : String} {switch : Switch} (hname : IsLongName name switch)
    (progress : Progress) (value : String) :
    progress.add ("--" ++ name ++ "=" ++ value) = progress.addAssignment switch value := by
  have htext : (name ++ "=" ++ value).toList = name.toList ++ '=' :: value.toList := by simp
  have hbehind : ('=' :: value.toList).takeWhile (· != '=') = [] := rfl
  rw [String.append_assoc, String.append_assoc, ← @String.append_assoc name, add_dashes, htext,
    addLong, List.takeWhile_append_of_pos hname.plain, List.dropWhile_append_of_pos hname.plain,
    hbehind, List.append_nil, String.ofList_toList, hname.found]
  exact congrArg (addAssignment progress switch) String.ofList_toList

theorem add_letter (progress : Progress) :
    progress.add "-v" = progress.addSwitch (.flag .verbose) := by
  change (progress.addSwitch (.flag .verbose)).bind Except.ok = _
  cases progress.addSwitch (.flag .verbose) <;> rfl

theorem add_operand (hoperand : IsOperand path) (progress : Progress) :
    progress.add path = progress.addPlain path := by
  rcases hoperand.plain with rfl | hhead
  · rfl
  · rw [add]
    split
    · next htext => exact absurd (congrArg List.head? htext) hhead
    · next htext => exact absurd (congrArg List.head? htext) hhead
    · rfl

/-! ### One more path -/

theorem known_append_path (choices : List Choice) (paths : List String) (path : String) :
    known choices (paths ++ [path]) =
      { known choices paths with paths := (known choices paths).paths ++ [⟨path⟩] } := by
  simp [known]

theorem settle_addPath (hknown : progress.settle = .ok (known choices paths)) (hpath : path ≠ "") :
    ∃ next, progress.addPath path = .ok next ∧
      next.settle = .ok (known choices (paths ++ [path])) := by
  have hnonempty : path.isEmpty = false := by simpa using hpath
  have hfirst : ({ known choices paths with waiting := .paths [path] } : Progress).settle =
      .ok (known choices (paths ++ [path])) := by
    simp [settle, known, hnonempty]
  cases hwaiting : progress.waiting with
  | nothing => exact ⟨_, by rw [addPath, hwaiting, hknown]; rfl, hfirst⟩
  | option option value? => exact ⟨_, by rw [addPath, hwaiting, hknown]; rfl, hfirst⟩
  | paths waiting =>
      have hnext : progress.addPath path =
          .ok { progress with waiting := .paths (waiting ++ [path]) } := by rw [addPath, hwaiting]
      refine ⟨_, hnext, ?_⟩
      rw [known_append_path]
      simp only [settle, hwaiting] at hknown ⊢
      split at hknown
      · cases hknown
      · next hall =>
          have hstill : ¬ (waiting ++ [path]).any (·.isEmpty) = true := by
            simpa [hnonempty] using hall
          rw [if_neg hstill, ← Except.ok.inj hknown]
          simp

theorem settle_addPaths {further : List String}
    (hknown : progress.settle = .ok (known choices paths))
    (hfurther : ∀ path ∈ further, path ≠ "") :
    ∃ next, further.foldlM addPath progress = .ok next ∧
      next.settle = .ok (known choices (paths ++ further)) := by
  induction further generalizing progress paths with
  | nil => exact ⟨progress, rfl, by rwa [List.append_nil]⟩
  | cons path further ih =>
      obtain ⟨hpath, hfurther⟩ := List.forall_mem_cons.mp hfurther
      obtain ⟨next, hnext, hknown⟩ := settle_addPath hknown hpath
      obtain ⟨last, hlast, hknown⟩ := ih hknown hfurther
      refine ⟨last, ?_, by rwa [List.append_assoc] at hknown⟩
      rw [List.foldlM_cons, hnext]
      exact hlast

theorem addPlain_of_settle (hknown : progress.settle = .ok (known choices paths)) (path : String) :
    progress.addPlain path = progress.addPath path := by
  rw [addPlain]
  split
  · next hwaiting =>
      rw [settle, hwaiting] at hknown
      cases hknown
  · rfl

theorem learns_operand (hoperand : IsOperand path)
    (hknown : progress.settle = .ok (known choices paths)) :
    progress.Learns [path] choices (paths ++ [path]) := by
  obtain ⟨next, hnext, hknown'⟩ := settle_addPath hknown hoperand.nonempty
  refine ⟨next, fun rest => ?_, hknown'⟩
  rw [List.singleton_append, addAll_cons hoperand.ne_dashes, add_operand hoperand,
    addPlain_of_settle hknown, hnext]
  rfl

/-! ### One more choice -/

theorem addSwitch_flag {flag : Flag} (hknown : progress.settle = .ok (known choices paths))
    (hnew : .flag flag ∉ choices.map Choice.switch) :
    progress.addSwitch (.flag flag) = .ok (known (choices ++ [.flag flag]) paths) := by
  have hlacks : (known choices paths).flags.contains flag = false := by
    rw [← Bool.not_eq_true, List.contains_iff_mem]
    exact fun hmem => hnew (List.mem_map_of_mem (f := Choice.switch) (mem_flags_iff.mp hmem))
  rw [addSwitch, hknown]
  change (if (known choices paths).flags.contains flag = true then _ else _) = _
  rw [hlacks]
  simp [known, Choice.flag?, Choice.config?, Choice.format?, pure, Except.pure]

theorem addSwitch_value (hknown : progress.settle = .ok (known choices paths))
    (option : ValueOption) :
    progress.addSwitch (.value option) =
      .ok { known choices paths with waiting := .option option none } := by
  rw [addSwitch, hknown]
  rfl

theorem assign_known (hsets : Sets option value choice)
    (hnew : choice.switch ∉ choices.map Choice.switch) :
    (known choices paths).assign option value = .ok (known (choices ++ [choice]) paths) := by
  cases hsets with
  | config hvalue =>
      have hnone : choices.findSome? Choice.config? = none :=
        findSome?_eq_none_of_new switch_of_config? hnew
      have hnonempty : value.isEmpty = false := by simpa using hvalue
      simp [assign, known, hnone, hnonempty, Choice.flag?, Choice.config?, Choice.format?]
  | format format =>
      have hnone : choices.findSome? Choice.format? = none :=
        findSome?_eq_none_of_new switch_of_format? hnew
      simp [assign, known, hnone, ofWord?_word, Choice.flag?, Choice.config?, Choice.format?]

theorem learns_group (hgroup : Spelled choice group)
    (hnew : choice.switch ∉ choices.map Choice.switch)
    (hknown : progress.settle = .ok (known choices paths)) :
    progress.Learns group (choices ++ [choice]) paths := by
  cases hgroup with
  | long flag =>
      refine ⟨known (choices ++ [.flag flag]) paths, fun rest => ?_, rfl⟩
      rw [List.singleton_append, addAll_cons (by cases flag <;> decide),
        add_longName (isLongName_flag flag), addSwitch_flag hknown hnew]
      rfl
  | letter =>
      refine ⟨known (choices ++ [.flag .verbose]) paths, fun rest => ?_, rfl⟩
      rw [List.singleton_append, addAll_cons (by decide), add_letter, addSwitch_flag hknown hnew]
      rfl
  | @attached option value _ hsets =>
      refine ⟨known (choices ++ [choice]) paths, fun rest => ?_, rfl⟩
      rw [List.singleton_append, addAll_cons (assignment_ne_dashes option value),
        add_assignment (isLongName_value option), addAssignment, hknown]
      change (((known choices paths).assign option value).bind fun next => next.addAll rest) = _
      rw [assign_known hsets hnew]
      rfl
  | @detached option value _ hsets hvalue =>
      refine ⟨{ known choices paths with waiting := .option option (some value) },
        fun rest => ?_, assign_known hsets hnew⟩
      rw [List.cons_append, List.singleton_append, addAll_cons (by cases option <;> decide),
        add_longName (isLongName_value option), addSwitch_value hknown]
      change addAll _ (value :: rest) = _
      rw [addAll_cons hvalue.ne_dashes, add_operand hvalue]
      rfl

/-! ### Whole command lines -/

theorem Learns.append {further : List String} (hlearns : progress.Learns group choices paths)
    (hfurther : ∀ next : Progress, next.settle = .ok (known choices paths) →
      next.Learns further others otherPaths) :
    progress.Learns (group ++ further) others otherPaths := by
  obtain ⟨next, hnext, hknown⟩ := hlearns
  obtain ⟨last, hlast, hknown⟩ := hfurther next hknown
  refine ⟨last, fun rest => ?_, hknown⟩
  rw [List.append_assoc, hnext, hlast]

theorem learns_woven (hwoven : Woven others otherPaths arguments)
    (hdistinct : ((choices ++ others).map Choice.switch).Nodup)
    (hknown : progress.settle = .ok (known choices paths)) :
    progress.Learns arguments (choices ++ others) (paths ++ otherPaths) := by
  induction hwoven generalizing progress choices paths with
  | nil => exact ⟨progress, fun _ => rfl, by rwa [List.append_nil, List.append_nil]⟩
  | @choice choice group others otherPaths arguments hgroup _ ih =>
      rw [List.append_cons] at hdistinct ⊢
      have hnew : choice.switch ∉ choices.map Choice.switch := by
        rw [List.map_append, List.map_append] at hdistinct
        have hfront := (List.nodup_append.mp hdistinct).1
        exact fun hold => List.disjoint_of_nodup_append hfront hold List.mem_cons_self
      exact (learns_group hgroup hnew hknown).append fun next hnext => ih hdistinct hnext
  | @path path others otherPaths arguments hpath _ ih =>
      rw [List.append_cons paths]
      exact (learns_operand hpath hknown).append fun next hnext => ih hdistinct hnext

theorem addAll_start (hconveys : Conveys choices paths arguments)
    (hdistinct : (choices.map Choice.switch).Nodup) :
    ∃ next, start.addAll arguments = .ok next ∧ next.settle = .ok (known choices paths) := by
  have hwhole : ∀ paths arguments, Woven choices paths arguments →
      start.Learns arguments ([] ++ choices) ([] ++ paths) :=
    fun _ _ hwoven => learns_woven hwoven hdistinct rfl
  cases hconveys with
  | woven hwoven =>
      obtain ⟨next, hnext, hknown⟩ := hwhole _ _ hwoven
      refine ⟨next, ?_, hknown⟩
      rw [← List.append_nil arguments]
      exact hnext []
  | dashed hwoven hfurther =>
      obtain ⟨next, hnext, hknown⟩ := hwhole _ _ hwoven
      rw [hnext]
      exact settle_addPaths hknown hfurther

end Progress

end DispatchAudit.CommandLine
