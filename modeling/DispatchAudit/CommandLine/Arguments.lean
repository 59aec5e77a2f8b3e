import DispatchAudit.Audit.Sources

/-!
# Command line arguments

Arguments are read from the left. An option may be given once, anywhere among the paths, and
after two dashes everything is a path. The value of an option stands behind an equals sign or is
the next argument, which must not look like an option.

What is wrong with an argument is found out only when something after it is understood: the value
of an option and the paths in a row wait until the next known option or the end. An unknown
option, or a value for an option that takes none, is reported at once and hides what waits.
-/

namespace DispatchAudit.CommandLine

open Audit Files

inductive Format where
  | text
  | json
deriving DecidableEq, Repr, Inhabited

def Format.word : Format → String
  | text => "text"
  | json => "json"

def Format.ofWord? (word : String) : Option Format :=
  if word = text.word then some text
  else if word = json.word then some json
  else none

structure Arguments where
  paths : List FilePath
  skipAvailability : Bool
  config : Option FilePath
  strict : Bool
  format : Format
  printConfig : Bool
  verbose : Bool
deriving DecidableEq, Repr

def Arguments.scope (arguments : Arguments) : Scope :=
  if arguments.skipAvailability then .withoutAvailability else .full

inductive UsageFault where
  | unknownArgument
  | invalidValue
  | argumentConflict
  | tooManyValues
deriving DecidableEq, Repr, Inhabited

def UsageFault.message : UsageFault → String
  | unknownArgument => "unknown option"
  | invalidValue => "a value is missing or invalid"
  | argumentConflict => "an option is given twice"
  | tooManyValues => "an option takes no value"

/-- Why arguments lead to no run. -/
inductive Interruption where
  | help
  | version
  | fault (fault : UsageFault)
deriving DecidableEq, Repr, Inhabited

/-- The options that take no value. -/
inductive Flag where
  | skipAvailability
  | strict
  | printConfig
  | verbose
deriving DecidableEq, Repr, Inhabited

/-- The options that take a value. -/
inductive ValueOption where
  | config
  | format
deriving DecidableEq, Repr, Inhabited

inductive Switch where
  | flag (flag : Flag)
  | value (option : ValueOption)
  | help
  | version
deriving DecidableEq, Repr, Inhabited

def Switch.ofName? (name : String) : Option Switch :=
  [("skip-availability", flag .skipAvailability), ("config", value .config),
    ("strict", flag .strict), ("format", value .format), ("print-config", flag .printConfig),
    ("verbose", flag .verbose), ("help", help), ("version", version)].lookup name

def Switch.ofLetter? (letter : Char) : Option Switch :=
  [('v', flag .verbose), ('h', help), ('V', version)].lookup letter

/-- What waits for something after it to be understood. -/
inductive Waiting where
  | nothing
  | option (option : ValueOption) (value : Option String)
  | paths (paths : List String)
deriving DecidableEq, Repr, Inhabited

/-- What is known after some of the arguments. -/
structure Progress where
  paths : List FilePath
  flags : List Flag
  config : Option FilePath
  format : Option Format
  waiting : Waiting
deriving DecidableEq, Repr, Inhabited

namespace Progress

def start : Progress := ⟨[], [], none, none, .nothing⟩

def assign (progress : Progress) (option : ValueOption) (value : String) :
    Except Interruption Progress :=
  match option with
  | .config =>
    if progress.config.isSome then .error (.fault .argumentConflict)
    else if value.isEmpty then .error (.fault .invalidValue)
    else .ok { progress with config := some ⟨value⟩ }
  | .format =>
    if progress.format.isSome then .error (.fault .argumentConflict)
    else match Format.ofWord? value with
      | none => .error (.fault .invalidValue)
      | some format => .ok { progress with format := some format }

/-- The progress in which nothing waits. -/
def settle (progress : Progress) : Except Interruption Progress :=
  let settled := { progress with waiting := .nothing }
  match progress.waiting with
  | .nothing => .ok settled
  | .option _ none => .error (.fault .invalidValue)
  | .option option (some value) => settled.assign option value
  | .paths paths =>
    if paths.any (·.isEmpty) then .error (.fault .invalidValue)
    else .ok { settled with paths := progress.paths ++ paths.map FilePath.mk }

/-- The progress with one more path, which waits together with the paths directly before it. -/
def addPath (progress : Progress) (path : String) : Except Interruption Progress :=
  match progress.waiting with
  | .paths paths => .ok { progress with waiting := .paths (paths ++ [path]) }
  | _ => progress.settle.map fun settled => { settled with waiting := .paths [path] }

def addSwitch (progress : Progress) (switch : Switch) : Except Interruption Progress := do
  let settled ← progress.settle
  match switch with
  | .help => throw .help
  | .version => throw .version
  | .value option => return { settled with waiting := .option option none }
  | .flag flag =>
    if settled.flags.contains flag then throw (.fault .argumentConflict)
    else return { settled with flags := settled.flags ++ [flag] }

def addAssignment (progress : Progress) (switch : Switch) (value : String) :
    Except Interruption Progress :=
  match switch with
  | .value option => progress.settle.bind fun settled => settled.assign option value
  | _ => .error (.fault .tooManyValues)

def addLong (progress : Progress) (text : List Char) : Except Interruption Progress :=
  match Switch.ofName? (String.ofList (text.takeWhile (· != '='))) with
  | none => .error (.fault .unknownArgument)
  | some switch =>
    match text.dropWhile (· != '=') with
    | [] => progress.addSwitch switch
    | _ :: value => progress.addAssignment switch (String.ofList value)

def addLetters (progress : Progress) : List Char → Except Interruption Progress
  | [] => .ok progress
  | letter :: rest =>
    match Switch.ofLetter? letter with
    | none => .error (.fault .unknownArgument)
    | some switch => (progress.addSwitch switch).bind fun next => next.addLetters rest

/-- The progress with an argument that is not an option: the value that an option waits for, or
a path. -/
def addPlain (progress : Progress) (argument : String) : Except Interruption Progress :=
  match progress.waiting with
  | .option option none => .ok { progress with waiting := .option option (some argument) }
  | _ => progress.addPath argument

/-- The progress with one more argument, unless it is two dashes. -/
def add (progress : Progress) (argument : String) : Except Interruption Progress :=
  match argument.toList with
  | '-' :: '-' :: name => progress.addLong name
  | '-' :: letter :: letters => progress.addLetters (letter :: letters)
  | _ => progress.addPlain argument

def addAll (progress : Progress) : List String → Except Interruption Progress
  | [] => .ok progress
  | argument :: rest =>
    if argument = "--" then rest.foldlM addPath progress
    else (progress.add argument).bind fun next => next.addAll rest

/-- The configuration that is asked for: the option's value or else that of the environment. -/
def configOr (progress : Progress) (environment : Option String) :
    Except Interruption (Option FilePath) :=
  match progress.config, environment with
  | some path, _ => .ok (some path)
  | none, none => .ok none
  | none, some value =>
    if value.isEmpty then .error (.fault .invalidValue) else .ok (some ⟨value⟩)

end Progress

/-- The arguments that a command line gives, where the environment may name a configuration. -/
def Arguments.ofList (arguments : List String) (environment : Option String) :
    Except Interruption Arguments := do
  let progress ← (← Progress.start.addAll arguments).settle
  let config ← progress.configOr environment
  return {
    paths := progress.paths
    skipAvailability := progress.flags.contains .skipAvailability
    config
    strict := progress.flags.contains .strict
    format := progress.format.getD .text
    printConfig := progress.flags.contains .printConfig
    verbose := progress.flags.contains .verbose }

end DispatchAudit.CommandLine
