import DispatchAudit.Files.Expansion
import DispatchAudit.Settings.Decode

/-!
# Failures

A failure ends a run without a verdict. Its message is a chain of causes, the outermost first.
-/

namespace DispatchAudit

open Files Text

/-- Why a run ends without a verdict. -/
inductive Failure where
  | unreadableSource (path : FilePath) (fault : FileFault)
  | unreadableSettings (path : FilePath) (fault : FileFault)
  | malformedSettings (path : FilePath) (fault : Json.Fault)
  | unfitSettings (fault : SettingsFault)
  | badPattern (path : FilePath) (fault : PatternFault)
  | noMatch (path : FilePath)
  | unlistedDirectory (path directory : FilePath)
  | heavyRule (returnType callingConvention : String)
deriving DecidableEq, Repr

/-- What a failure comes down to. -/
inductive FailureKind where
  | io
  | json
  | glob
  | regex
  | message
deriving DecidableEq, Repr

def FailureKind.word : FailureKind → String
  | io => "io"
  | json => "json"
  | glob => "glob"
  | regex => "regex"
  | message => "message"

/-- Whether a pattern writes the character with a backslash in front of it. -/
def isPatternSign (c : Char) : Bool :=
  ['\\', '.', '+', '*', '?', '(', ')', '|', '[', ']', '\x7b', '\x7d', '^', '$', '#', '&', '-',
    '~'].contains c

def patternText (token : String) : String :=
  String.ofList (token.toList.flatMap fun c => if isPatternSign c then ['\\', c] else [c])

/-- The pattern that a declaration rule stands for. -/
def rulePattern (returnType callingConvention : String) : String :=
  "^\\s*" ++ patternText returnType ++ "\\s+" ++ patternText callingConvention ++ "\\s+(\\w+)"

def inQuotes (text : String) : String := "\"" ++ text ++ "\""

namespace Failure

/-- The causes of a failure, the outermost first. -/
def causes : Failure → List String
  | unreadableSource path fault =>
    ["Failed to read source file: " ++ quoted path.text, fault.message]
  | unreadableSettings path fault =>
    ["Failed to read config file: " ++ quoted path.text, fault.message]
  | malformedSettings path fault =>
    ["Failed to parse config file: " ++ quoted path.text, fault.message]
  | unfitSettings fault => [fault.message]
  | badPattern path fault =>
    ["Invalid glob pattern: " ++ inQuotes path.text, fault.message]
  | noMatch path => ["Pattern matched no files: " ++ inQuotes path.text]
  | unlistedDirectory path directory =>
    ["Failed to expand glob pattern: " ++ inQuotes path.text,
      "attempting to read " ++ Json.ticked directory.text ++ " resulted in an error: " ++
        FileFault.nameTooLong.message]
  | heavyRule returnType callingConvention =>
    ["Failed to build declaration pattern: " ++ rulePattern returnType callingConvention,
      "Compiled regex exceeds size limit of " ++ toString Source.weightLimit ++ " bytes."]

/-- The kind of a failure's innermost cause. What keeps a directory from being listed counts as a
message: the walk that comes to it words the fault itself and does not pass it on. -/
def kind : Failure → FailureKind
  | unreadableSource .. => .io
  | unreadableSettings .. => .io
  | malformedSettings .. => .json
  | badPattern .. => .glob
  | heavyRule .. => .regex
  | unfitSettings _ => .message
  | noMatch _ => .message
  | unlistedDirectory .. => .message

def message (failure : Failure) : String := String.intercalate ": " failure.causes

end Failure

end DispatchAudit
