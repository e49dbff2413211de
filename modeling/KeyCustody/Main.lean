import KeyCustody.Program
import KeyCustody.Service.ResponseText

/-!
# The program

The outer layer: it finds the arguments, the variables, the files and random bytes, lets the program run
on them, and writes what the run left. A server that is ready takes its requests from standard input,
one on each line: the method, the target, and the body, if there is one, which is taken as JSON.
-/

namespace KeyCustody

/-- The file of a name, if there is one. -/
def readFile? (name : String) : IO (Option FileContent) := do
  try
    let content ← IO.FS.readBinFile name
    let bytes := content.data.toList
    match DatabaseFile.decode? bytes with
    | some table => return some (.database table)
    | none => return some (.bytes bytes)
  catch _ => return none

/-- The directory with a file that the run may need, if there is one. -/
def withFile (directory : Directory) (name : String) : IO Directory := do
  match ← readFile? name with
  | some content => return directory.write name content
  | none => return directory

/-- The variables of this process. -/
def readVariables : IO Variables := do
  try
    let content ← IO.FS.readBinFile "/proc/self/environ"
    return (content.data.toList.splitOn 0).map fun entry =>
      (Text.ofUtf8Repaired (entry.takeWhile (· != 0x3D)), (entry.dropWhile (· != 0x3D)).drop 1)
  catch _ => return []

/-- The path of the database that a run will open, if its settings can be determined. -/
def databasePath? (directory : Directory) (given : Variables) (settingsPath : Option String) :
    Option String :=
  match Program.settings directory given settingsPath with
  | .error _ => none
  | .ok settings =>
    match DatabaseUrl.ofText settings.databaseUrl with
    | .ok url => some url.path
    | .error _ => none

/-- The name under which a directory holds the file of a path. -/
def nameIn (directory : Directory) (path : String) : String :=
  match directory.place path with
  | .entry name => name
  | _ => path

/-- The files that a run will look at. -/
def readDirectory (given : Variables) (arguments : List String) : IO Directory := do
  let current ← IO.currentDir
  let directory ← withFile ⟨current.toString, []⟩ ".env"
  match Program.commandLine given arguments with
  | .run settingsPath _ =>
    let directory ← withFile directory (nameIn directory (settingsPath.getD Settings.systemPath))
    match databasePath? directory given settingsPath with
    | some path => withFile directory (nameIn directory path)
    | none => return directory
  | _ => return directory

/-- Writes the databases of a directory. -/
def writeDatabases (directory : Directory) : IO Unit := do
  for (name, content) in directory.files do
    if let .database table := content then
      IO.FS.writeBinFile name ⟨(DatabaseFile.encode table).toArray⟩

/-- The request that a line stands for. -/
def requestOfLine (line : String) : Request :=
  let characters := line.toList
  let method := characters.takeWhile (· != ' ')
  let afterMethod := (characters.dropWhile (· != ' ')).drop 1
  let target := afterMethod.takeWhile (· != ' ')
  let body := String.ofList ((afterMethod.dropWhile (· != ' ')).drop 1)
  { method := String.ofList method
    target := String.ofList target
    contentType := if body = "" then none else some "application/json"
    body := ByteString.ofText body }

/-- The line that answers a request. -/
def lineOfResponse (response : Response) : String :=
  let body := match response.body with
    | some body => if response.isHeadOnly then "" else " " ++ body.toJson
    | none => ""
  toString response.status ++ body

/-- Answers requests until the input ends. -/
partial def serveRequests (server : Server) (store : SharedStore) : IO Unit := do
  let line ← (← IO.getStdin).getLine
  if line.isEmpty then return
  let text := String.ofList (line.toList.filter fun character => character != '\n')
  let (response, server, store) := server.handle store (requestOfLine text)
  IO.println (lineOfResponse response)
  (← IO.getStdout).flush
  serveRequests server store

/-- How the program is used. -/
def usage : String :=
  "Usage: warden-server [--config <CONFIG>] [serve | init [--shares <N>] [--threshold <N>]]"

/-- Runs the program. -/
def runProgram (arguments : List String) : IO UInt32 := do
  let given ← readVariables
  let randomBytes ← IO.getRandomBytes 16384
  let tape : ByteTape := ⟨randomBytes.data.toList⟩
  let directory ← readDirectory given arguments
  let (result, after) := Program.run directory given arguments tape fun _ => none
  writeDatabases after
  IO.print result.output
  match result with
  | .explained => IO.println usage
  | .misused => IO.eprintln usage
  | .failed failure => IO.eprintln ("Error: " ++ failure.shown)
  | .serving address server store =>
    IO.eprintln ("serving as " ++ address)
    serveRequests server store
  | .printed _ => pure ()
  return result.exitStatus.toUInt32

end KeyCustody

/-- Starts the program. -/
def main (arguments : List String) : IO UInt32 :=
  KeyCustody.runProgram arguments
