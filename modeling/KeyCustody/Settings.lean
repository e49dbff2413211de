import KeyCustody.Gate
import KeyCustody.Settings.Layer
import KeyCustody.Text.Occurrence
import KeyCustody.Text.Quoted

/-!
# Settings

The settings of the server, with a default for each that no layer sets, and what they have to satisfy:
the database has to be one that survives a restart, and the root key has to be shared out so that more
than one and no more than all pieces are needed.
-/

namespace KeyCustody

/-- Why settings are refused. -/
inductive SettingsFault where
  | otherDatabase (url : String)
  | volatileDatabase
  | thresholdTooSmall (threshold : UInt8)
  | thresholdAboveTotal (threshold total : UInt8)
deriving DecidableEq, Repr

/-- The wording of the fault. -/
def SettingsFault.message : SettingsFault → String
  | otherDatabase url => "database url must be a sqlite: url, got " ++ url
  | volatileDatabase => "an in-memory database cannot keep the root key digest record"
  | thresholdTooSmall threshold => s!"unseal threshold must be at least 2, got {threshold}"
  | thresholdAboveTotal threshold total =>
    s!"unseal threshold ({threshold}) cannot exceed total shares ({total})"

/-- Why a file of settings cannot be read. -/
inductive FileFault where
  | isDirectory
  | notText
deriving DecidableEq, Repr

/-- Why the settings could not be determined. -/
inductive SettingsError where
  | invalidValue (name kind value : String)
  | malformed (path : String)
  | unreadable (path : String) (fault : FileFault)
  | refused (fault : SettingsFault)
deriving DecidableEq, Repr

namespace SettingsError

/-- What is wrong with the value of a variable. -/
def valueFault (kind value : String) : String :=
  "invalid " ++ kind ++ " value '" ++ value ++ "'"

/-- The wording of the error. -/
def message : SettingsError → String
  | invalidValue name kind value =>
    "Invalid value for " ++ name ++ ": " ++ valueFault kind value
  | malformed path => "Failed to parse TOML config at " ++ path
  | unreadable path .isDirectory =>
    "Failed to read config file " ++ path ++ ": Is a directory (os error 21)"
  | unreadable path .notText =>
    "Failed to read config file " ++ path ++ ": stream did not contain valid UTF-8"
  | refused fault => "Validation error: " ++ fault.message

/-- How a failure report shows the cause of a file that cannot be read. -/
def shownFault : FileFault → String
  | .isDirectory =>
    "Os \x7b code: 21, kind: IsADirectory, message: " ++ Text.quoted "Is a directory" ++ " \x7d"
  | .notText =>
    "Error \x7b kind: InvalidData, message: " ++
      Text.quoted "stream did not contain valid UTF-8" ++ " \x7d"

/-- The error as a failure report shows it. -/
def shown : SettingsError → String
  | invalidValue name kind value =>
    "InvalidValue \x7b key: " ++ Text.quoted name ++ ", message: " ++
      Text.quoted (valueFault kind value) ++ " \x7d"
  | malformed _ => "TomlParse"
  | unreadable path fault =>
    "FileRead \x7b path: " ++ Text.quoted path ++ ", source: " ++ shownFault fault ++ " \x7d"
  | refused fault => "Validation(" ++ Text.quoted fault.message ++ ")"

end SettingsError

/-- The settings of the server. -/
structure Settings where
  host : String
  port : UInt16
  databaseUrl : String
  logLevel : String
  total : UInt8
  /-- The number of pieces needed to unseal, as long as no root key is recorded. -/
  threshold : UInt8
  allowList : List String
deriving DecidableEq, Repr

namespace Settings

/-- The settings of a layer, with the default where it sets nothing. -/
def ofLayer (layer : SettingsLayer) : Settings :=
  let http := layer.http.getD .empty
  let unsealing := layer.unsealing.getD .empty
  { host := http.host.getD "0.0.0.0"
    port := http.port.getD 8080
    databaseUrl := (layer.database.getD .empty).url.getD "sqlite:./warden.db"
    logLevel := (layer.logging.getD .empty).level.getD "info"
    total := unsealing.total.getD 10
    threshold := unsealing.threshold.getD 5
    allowList := unsealing.allowList.getD SealGate.defaultAllowList }

/-- The settings when nothing is set. -/
def defaults : Settings := ofLayer .empty

/-- The address to listen on. -/
def address (settings : Settings) : String :=
  s!"{settings.host}:{settings.port}"

/-- What is wrong with the database, if anything. -/
def databaseFault? (settings : Settings) : Option SettingsFault :=
  let url := settings.databaseUrl.toList
  if !"sqlite:".toList.isPrefixOf url then some (.otherDatabase settings.databaseUrl)
  else if Text.occursIn ":memory:".toList url then some .volatileDatabase
  else none

/-- What is wrong with the sharing, if anything. -/
def sharingFault? (settings : Settings) : Option SettingsFault :=
  if settings.threshold < 2 then some (.thresholdTooSmall settings.threshold)
  else if settings.total < settings.threshold then
    some (.thresholdAboveTotal settings.threshold settings.total)
  else none

/-- The settings of a layer, if nothing is wrong with them. -/
def resolve (layer : SettingsLayer) : Except SettingsError Settings :=
  let settings := ofLayer layer
  match settings.databaseFault?.or settings.sharingFault? with
  | some fault => .error (.refused fault)
  | none => .ok settings

end Settings

end KeyCustody
