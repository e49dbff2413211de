import KeyCustody.Bootstrap
import KeyCustody.CommandLine
import KeyCustody.DatabaseFile
import KeyCustody.Directory
import KeyCustody.EnvironmentFile
import KeyCustody.Service.Server
import KeyCustody.Settings.Source

/-!
# Running the program

A run reads its arguments, then the environment file, then the settings; it opens and prepares the
database and carries out its command. Each step can end the run, and what it wrote until then stays.
The file of settings is chosen before the environment file is read, so a path given there comes too late.
-/

namespace KeyCustody

/-- Why the server cannot listen. -/
inductive ListenFault where
  | addressNotAvailable
deriving DecidableEq, Repr

/-- The fault as a failure report shows it. -/
def ListenFault.shown : ListenFault → String
  | addressNotAvailable =>
    "Os \x7b code: 99, kind: AddrNotAvailable, message: " ++
      Text.quoted "Cannot assign requested address" ++ " \x7d"

/-- Why a run failed. -/
inductive Failure where
  | settings (error : SettingsError)
  | database (error : DatabaseError)
  | custody (error : CustodyError)
  | server (error : CustodyError)
  | listening (fault : ListenFault)
deriving DecidableEq, Repr

/-- The failure as it is reported. -/
def Failure.shown : Failure → String
  | settings error => error.shown
  | database error => error.shown
  | custody error => error.shown
  | server error => "Unseal(" ++ error.shown ++ ")"
  | listening fault => fault.shown

/-- How a run ends. -/
inductive RunResult where
  /-- The run printed something, perhaps nothing, and succeeded. -/
  | printed (output : String)
  | explained
  /-- The arguments were not understood. -/
  | misused
  | failed (failure : Failure)
  | serving (address : String) (server : Server) (store : SharedStore)

namespace RunResult

/-- The exit status. -/
def exitStatus : RunResult → Nat
  | failed _ => 1
  | misused => 2
  | _ => 0

/-- What is printed. -/
def output : RunResult → String
  | printed output => output
  | _ => ""

/-- The failure, if the run failed. -/
def failure? : RunResult → Option Failure
  | failed failure => some failure
  | _ => none

end RunResult

namespace Directory

/-- A file as a file of settings. -/
def asSettings : Option FileContent → SettingsFile
  | none => .missing
  | some (.bytes content) => .bytes content
  | some (.database table) => .bytes (DatabaseFile.encode table)

/-- What is found where a file of settings is looked for. A file out of sight is known by its path. -/
def settingsFile (directory : Directory) (path : String) : SettingsFile :=
  match directory.place path with
  | .here => .directory
  | .outOfSight => asSettings (directory.content? path)
  | .entry name =>
    if path.toList.getLast? = some '/' then .missing else asSettings (directory.content? name)

/-- The variables with those of the environment file in the directory added. -/
def environment (directory : Directory) (given : Variables) : Variables :=
  match directory.content? ".env" with
  | some (.bytes content) =>
    match Text.ofUtf8 content with
    | .ok text => EnvironmentFile.load given text
    | .error _ => given
  | _ => given

end Directory

namespace Program

/-- The line that tells the version. -/
def versionLine : String := "warden-server 0.1.0\n"

/-- What the arguments ask for, under the variables that the program was started with. -/
def commandLine (given : Variables) (arguments : List String) : CommandLine :=
  let environmentPath := (given.lookup "WARDEN_SERVER_CONFIG").map Text.ofUtf8Repaired
  CommandLine.ofArguments environmentPath arguments

/-- The settings of a run. -/
def settings (directory : Directory) (given : Variables) (settingsPath : Option String) :
    Except SettingsError Settings :=
  let path := settingsPath.getD Settings.systemPath
  Settings.load path (directory.settingsFile path) (directory.environment given)

variable {Supply : Type} [ByteSupply Supply]

/-- Carries out a command on a prepared database: the result, and the database afterwards. -/
def carryOut (settings : Settings) (command : Command) (database : Database) (supply : Supply)
    (listen : String → Option ListenFault) : RunResult × Database :=
  let store := SharedStore.ofStore (.database database)
  match command with
  | .initialise total threshold =>
    let sharing : Sharing := ⟨total.getD settings.total, threshold.getD settings.threshold⟩
    let made := bootstrap store sharing supply
    let after := match made.store.digests with
      | .database changed => changed
      | .memory _ => database
    match made.result with
    | .error error => (.failed (.custody error), after)
    | .ok pieces =>
      (.printed (String.join (pieces.map fun piece => piece.toHexadecimal ++ "\n")), after)
  | .serve =>
    match Server.start settings.threshold settings.allowList store with
    | .error error => (.failed (.server error), database)
    | .ok server =>
      match listen settings.address with
      | some fault => (.failed (.listening fault), database)
      | none => (.serving settings.address server store, database)

/-- Runs a command: the result, and the directory afterwards. -/
def runCommand (directory : Directory) (given : Variables) (settingsPath : Option String)
    (command : Command) (supply : Supply) (listen : String → Option ListenFault) :
    RunResult × Directory :=
  match settings directory given settingsPath with
  | .error error => (.failed (.settings error), directory)
  | .ok settings =>
    match directory.connect settings.databaseUrl with
    | (.error error, after) => (.failed (.database error), after)
    | (.ok opened, connected) =>
      match opened.database.migrate with
      | (.error error, _) => (.failed (.database error), connected)
      | (.ok (), database) =>
        let (result, after) := carryOut settings command database supply listen
        (result, connected.keep { opened with database := after })

/-- Runs the program: the result, and the directory afterwards. -/
def run (directory : Directory) (given : Variables) (arguments : List String)
    (supply : Supply) (listen : String → Option ListenFault) : RunResult × Directory :=
  match commandLine given arguments with
  | .version => (.printed versionLine, directory)
  | .help => (.explained, directory)
  | .misused => (.misused, directory)
  | .run settingsPath command =>
    runCommand directory given settingsPath command supply listen

end Program

end KeyCustody
