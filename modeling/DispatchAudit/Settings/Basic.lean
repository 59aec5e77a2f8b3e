import DispatchAudit.Audit.Verdict
import DispatchAudit.Source.Dispatch

/-!
# Settings

The settings of an audit name the two tokens of a declaration, the two markers of the dispatch
region, how repeated names are compared, and what the messages call the dispatching function and
the interface table. Every setting has a default. Settings are fit for an audit when the tokens
are single words and the markers can stand alone on a line and be told apart.
-/

namespace DispatchAudit

open Audit Source Text

/-- The settings that are texts, in the order in which a configuration lists them. -/
inductive TextSetting where
  | returnType
  | callingConvention
  | startMarker
  | endMarker
  | dispatchFunction
  | availabilityTable
deriving DecidableEq, Repr, Inhabited

namespace TextSetting

def all : List TextSetting :=
  [returnType, callingConvention, startMarker, endMarker, dispatchFunction, availabilityTable]

def key : TextSetting → String
  | returnType => "returnType"
  | callingConvention => "callingConvention"
  | startMarker => "startMarker"
  | endMarker => "endMarker"
  | dispatchFunction => "dispatchFunction"
  | availabilityTable => "availabilityTable"

/-- The value of a setting that a configuration does not give. -/
def fallback : TextSetting → String
  | returnType => "NvAPI_Status"
  | callingConvention => "__cdecl"
  | startMarker => "/* Start NVAPI methods */"
  | endMarker => "/* End */"
  | dispatchFunction => "nvapi_QueryInterface"
  | availabilityTable => "nvapi_interface_table"

end TextSetting

structure Settings where
  returnType : String
  callingConvention : String
  startMarker : String
  endMarker : String
  dispatchFunction : String
  availabilityTable : String
  duplicateCheck : DuplicateRule
deriving DecidableEq, Repr

inductive SettingsFault where
  | notOneWord (setting : TextSetting) (value : String)
  | notTrimmed (setting : TextSetting) (value : String)
  | sameMarkers (value : String)
deriving DecidableEq, Repr

def SettingsFault.message : SettingsFault → String
  | notOneWord setting value =>
    "Invalid token in '" ++ setting.key ++ "': \"" ++ value ++ "\" (expected a single word)"
  | notTrimmed setting value =>
    "Invalid marker in '" ++ setting.key ++ "': \"" ++ value ++
      "\" (expected non-empty text without surrounding whitespace)"
  | sameMarkers value => "'startMarker' and 'endMarker' must differ: \"" ++ value ++ "\""

namespace Settings

def text (settings : Settings) : TextSetting → String
  | .returnType => settings.returnType
  | .callingConvention => settings.callingConvention
  | .startMarker => settings.startMarker
  | .endMarker => settings.endMarker
  | .dispatchFunction => settings.dispatchFunction
  | .availabilityTable => settings.availabilityTable

def ofTexts (texts : TextSetting → String) (duplicateCheck : DuplicateRule) : Settings where
  returnType := texts .returnType
  callingConvention := texts .callingConvention
  startMarker := texts .startMarker
  endMarker := texts .endMarker
  dispatchFunction := texts .dispatchFunction
  availabilityTable := texts .availabilityTable
  duplicateCheck := duplicateCheck

/-- The settings of an audit without a configuration. -/
def standard : Settings := ofTexts TextSetting.fallback .length

instance : Inhabited Settings := ⟨standard⟩

/-- Whether a token is one word: it is not empty and holds no blank. -/
def isToken (token : String) : Bool := !token.toList.isEmpty && !token.toList.any isBlank

/-- Whether a marker can be told from its line: it is not empty and already trimmed. -/
def isMarker (marker : String) : Bool :=
  !marker.toList.isEmpty && trim marker.toList == marker.toList

/-- The first reason why the settings are not fit for an audit, if there is one. -/
def fault? (settings : Settings) : Option SettingsFault :=
  let token? (setting : TextSetting) :=
    if isToken (settings.text setting) then none
    else some (SettingsFault.notOneWord setting (settings.text setting))
  let marker? (setting : TextSetting) :=
    if isMarker (settings.text setting) then none
    else some (SettingsFault.notTrimmed setting (settings.text setting))
  let distinct? :=
    if settings.startMarker = settings.endMarker then
      some (SettingsFault.sameMarkers settings.startMarker)
    else none
  token? .returnType <|> token? .callingConvention <|> marker? .startMarker <|>
    marker? .endMarker <|> distinct?

/-- The declaration rule of the settings, unless its tokens weigh too much. -/
def rule? (settings : Settings) : Option DeclarationRule :=
  DeclarationRule.ofTokens? settings.returnType settings.callingConvention

def markers (settings : Settings) : Markers := ⟨settings.startMarker, settings.endMarker⟩

theorem ofTexts_text (settings : Settings) :
    ofTexts settings.text settings.duplicateCheck = settings := rfl

theorem standard_fault? : standard.fault? = none := by decide

end Settings

end DispatchAudit
