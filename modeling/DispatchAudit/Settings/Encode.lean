import DispatchAudit.Json.Value
import DispatchAudit.Settings.Decode

/-!
# Settings as a configuration text

Settings are written as an object that gives every one of them, in the order of the settings.
-/

namespace DispatchAudit

open Json

namespace Settings

def toValue (settings : Settings) : Value :=
  .object (TextSetting.all.map (fun setting => (setting.key, .string (settings.text setting))) ++
    [(SettingKey.duplicateCheck.word, .string settings.duplicateCheck.word)])

def toText (settings : Settings) : String := settings.toValue.pretty

end Settings

end DispatchAudit
