import KeyCustody.Settings
import KeyCustody.Settings.Decoding
import KeyCustody.Text.Blank
import KeyCustody.Text.Numeral
import KeyCustody.Toml
import KeyCustody.Variables

/-!
# Sources of settings

The layers of settings come from sources with a precedence: the built-in defaults, a file, and the
environment. They are read in the order of their precedence, so that one of higher precedence lies over
the others; the first one that cannot be read decides.
-/

namespace KeyCustody

/-- The precedence of a source. -/
inductive Precedence where
  | defaults
  | configFile
  | environment
deriving DecidableEq, Repr

namespace Precedence

/-- The rank of a precedence: a higher one lies over a lower one. -/
def rank : Precedence → Nat
  | defaults => 10
  | configFile => 20
  | environment => 50

/-- The word for a precedence. -/
def word : Precedence → String
  | defaults => "Defaults"
  | configFile => "ConfigFile"
  | environment => "Environment"

end Precedence

/-- A source of settings. -/
structure SettingsSource where
  name : String
  precedence : Precedence
  layer : Except SettingsError SettingsLayer

/-- What is found in the place of a file of settings. -/
inductive SettingsFile where
  | missing
  | directory
  | bytes (content : ByteString)
deriving DecidableEq, Repr

/-- The number that a variable holds, if it holds anything. -/
def Variables.number? {Value : Type} (given : Variables) (read : String → Option Value)
    (kind name : String) : Except SettingsError (Option Value) :=
  match given.value? name with
  | none => .ok none
  | some text =>
    match read text with
    | some value => .ok (some value)
    | none => .error (.invalidValue name kind text)

/-- The parts of a text between commas, without blanks around them and without empty ones. -/
def listOfText (text : String) : List String :=
  ((text.toList.splitOn ',').map fun part => Text.trim (String.ofList part)).filter (· ≠ "")

namespace SettingsSource

/-- The built-in defaults, which every setting has anyway. -/
def defaults : SettingsSource := ⟨"defaults", .defaults, .ok .empty⟩

/-- The layer of a file. A file that is missing sets nothing. -/
def fileLayer (path : String) : SettingsFile → Except SettingsError SettingsLayer
  | .missing => .ok .empty
  | .directory => .error (.unreadable path .isDirectory)
  | .bytes content =>
    match Text.ofUtf8 content with
    | .error _ => .error (.unreadable path .notText)
    | .ok text =>
      match (Toml.read? text).bind (SettingsLayer.ofDocument? .ignored) with
      | some layer => .ok layer
      | none => .error (.malformed path)

/-- A file in the TOML format. -/
def file (path : String) (content : SettingsFile) : SettingsSource :=
  ⟨"toml-config", .configFile, fileLayer path content⟩

/-- The layer of an environment. It has every section. -/
def environmentLayer (given : Variables) : Except SettingsError SettingsLayer := do
  let port ← given.number? Text.port? "u16" "WARDEN_SERVER_PORT"
  let total ← given.number? Text.byte? "u8" "WARDEN_SERVER_UNSEAL_TOTAL_SHARES"
  let threshold ← given.number? Text.byte? "u8" "WARDEN_SERVER_UNSEAL_THRESHOLD"
  let allowList := given.value? "WARDEN_SERVER_UNSEAL_GATE_ALLOW_LIST"
  return {
    http := some ⟨given.value? "WARDEN_SERVER_HOST", port⟩
    database := some ⟨given.value? "WARDEN_SERVER_DATABASE_URL"⟩
    logging := some ⟨given.value? "WARDEN_SERVER_LOG_LEVEL"⟩
    unsealing := some ⟨total, threshold, allowList.map listOfText⟩ }

/-- The environment. -/
def environment (given : Variables) : SettingsSource :=
  ⟨"environment", .environment, environmentLayer given⟩

/-- The sources in the order in which they are read: by precedence, and as listed where that is the
same. -/
def inOrder (sources : List SettingsSource) : List SettingsSource :=
  sources.mergeSort fun first second => first.precedence.rank ≤ second.precedence.rank

/-- The layers of sources, one over the other. -/
def combined (sources : List SettingsSource) : Except SettingsError SettingsLayer :=
  sources.foldlM (fun earlier source => source.layer.map earlier.override) .empty

end SettingsSource

namespace Settings

/-- The settings that sources give. -/
def ofSources (sources : List SettingsSource) : Except SettingsError Settings :=
  match SettingsSource.combined (SettingsSource.inOrder sources) with
  | .error error => .error error
  | .ok layer => resolve layer

/-- The path of the file of settings when none is named. -/
def systemPath : String := "/etc/warden/server.toml"

/-- The settings that the defaults, a file and the environment give. -/
def load (path : String) (content : SettingsFile) (given : Variables) :
    Except SettingsError Settings :=
  ofSources [.defaults, .file path content, .environment given]

end Settings

end KeyCustody
