import DispatchAudit.Text.Terminal

/-!
# Usage texts

What the command line says about itself. The environment's value in the help is laid out with it
and shows as a terminal would show it.
-/

namespace DispatchAudit.CommandLine

open Text

def versionText : String := "validate-methods 0.1.0\n"

def environmentName : String := "VALIDATE_METHODS_CONFIG"

/-- The column in which the help says what an option does. -/
def helpColumn : Nat := 27

/-- The lines of a text in the column of the help, the first of which is already there. -/
def inHelpColumn (text : String) : String :=
  String.ofList (text.toList.flatMap fun c =>
    if c = '\n' then c :: List.replicate helpColumn ' ' else [c])

/-- What the help says of the environment's value, up to the next option. Option names are set off
by a sequence of their own, so a sequence that the value leaves open ends there. -/
def environmentNote (environment : Option String) : String :=
  withoutSequences (inHelpColumn (environmentName ++ "=" ++ environment.getD "") ++ "]\n      ")

/-- What the program does and how it is called. -/
def helpText (environment : Option String) : String :=
  "Build-time consistency checker for NVAPI method dispatch and availability tables\n" ++
  "\n" ++
  "Usage: validate-methods [OPTIONS] [PATH]...\n" ++
  "\n" ++
  "Arguments:\n" ++
  "  [PATH]...  Implementation sources, then the interface source, then the interface header\n" ++
  "\n" ++
  "Options:\n" ++
  "      --skip-availability  Only check dispatch completeness (no interface header is given)\n" ++
  "      --config <CONFIG>    Configuration file (default: search for .validate-methods.json " ++
  "upwards) [env: " ++ environmentNote environment ++
  "--strict             Require each method to be dispatched exactly as often as it is " ++
  "declared\n" ++
  "      --format <FORMAT>    Output format [default: text] [possible values: text, json]\n" ++
  "      --print-config       Print the default configuration and exit\n" ++
  "  -v, --verbose            Enable verbose output\n" ++
  "  -h, --help               Print help\n" ++
  "  -V, --version            Print version\n"

/-- What a run with too few paths reports. -/
def tooFewPaths : String :=
  "Method validation failed due to invalid usage. Usage: validate-methods " ++
  "<implementation1.cpp> [implementation2.cpp] <interface.cpp> <interface.h>"

end DispatchAudit.CommandLine
