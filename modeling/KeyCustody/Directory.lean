import KeyCustody.DatabaseUrl
import KeyCustody.DigestTable

/-!
# The working directory

The files that a run of the program finds and leaves: texts such as its configuration, and databases.
The directory holds no others, so a path either leads to the directory itself, to a file in it, or to a
place that is out of sight.
-/

namespace KeyCustody

/-- What a file holds. -/
inductive FileContent where
  | bytes (content : ByteString)
  | database (table : Option DigestTable)
deriving DecidableEq, Repr

/-- A directory of files. -/
structure Directory where
  path : String
  files : List (String × FileContent)
deriving DecidableEq, Repr

/-- Where a path leads. -/
inductive Place where
  /-- To the directory itself. -/
  | here
  /-- To an entry of the directory, whether there is one of that name or not. -/
  | entry (name : String)
  /-- Out of the directory. -/
  | outOfSight
deriving DecidableEq, Repr

/-- A database that has been opened, and the name of the file that keeps it, if one does. -/
structure OpenedDatabase where
  database : Database
  fileName : Option String
deriving DecidableEq, Repr

namespace Directory

/-- The components that lead from one place to another, after a component was followed. Going up from
the start leads nowhere that is known. -/
def follow (component : List Char) : Option (List (List Char)) → Option (List (List Char))
  | none => none
  | some reversed =>
    if component = [] ∨ component = ['.'] then some reversed
    else if component = ['.', '.'] then
      match reversed with
      | [] => none
      | _ :: parents => some parents
    else some (component :: reversed)

/-- The part of a path below the directory. -/
def relative? (directory : Directory) (path : List Char) : Option (List Char) :=
  let base := directory.path.toList
  if path = base then some []
  else if (base ++ ['/']).isPrefixOf path then some (path.drop (base.length + 1))
  else if ['/'].isPrefixOf path then none
  else some path

/-- Where a path leads. -/
def place (directory : Directory) (path : String) : Place :=
  match directory.relative? path.toList with
  | none => .outOfSight
  | some relative =>
    match (relative.splitOn '/').foldl (fun place component => follow component place) (some []) with
    | some [] => .here
    | some [name] => .entry (String.ofList name)
    | _ => .outOfSight

/-- The content of the file of a name. -/
def content? (directory : Directory) (name : String) : Option FileContent :=
  directory.files.lookup name

/-- The directory with a file written. -/
def write (directory : Directory) (name : String) (content : FileContent) : Directory :=
  { directory with
    files := (directory.files.filter fun file => file.1 ≠ name) ++ [(name, content)] }

/-- The names of the files, in the order of their characters. -/
def names (directory : Directory) : List String :=
  (directory.files.map (·.1)).mergeSort fun first second => first ≤ second

/-- The file system layers that keep a database in files. -/
def fileSystems : List String := ["unix", "unix-dotfile", "unix-excl", "unix-none"]

/-- The name of the file system layer that keeps a database in memory. -/
def memoryFileSystem : String := "memdb"

/-- Opens the database in a file, which is created unless the database is only to be read. A file that
is taken never to change can be read but not written. -/
def openFile (directory : Directory) (url : DatabaseUrl) (name : String) :
    Except DatabaseFault OpenedDatabase × Directory :=
  let opened (table : Option DigestTable) : Except DatabaseFault OpenedDatabase :=
    .ok ⟨⟨table, true, url.isReadOnly || url.isImmutable⟩, some name⟩
  let created := if url.isImmutable then FileContent.bytes [] else .database none
  match directory.content? name with
  | none =>
    if url.isReadOnly then (.error .cannotOpen, directory)
    else (opened none, directory.write name created)
  | some (.bytes []) =>
    if url.isReadOnly && !url.isImmutable then (.error .readOnly, directory)
    else (opened none, directory.write name created)
  | some (.bytes _) => (.error .notDatabase, directory)
  | some (.database table) => (opened table, directory)

/-- Opens a database whose path has been resolved. -/
def openResolved (directory : Directory) (url : DatabaseUrl) :
    Except DatabaseFault OpenedDatabase × Directory :=
  match url.fileSystem.filter fun name => !(memoryFileSystem :: fileSystems).contains name with
  | some name => (.error (.noFileSystem name), directory)
  | none =>
    if url.isVolatile || url.fileSystem = some memoryFileSystem then
      (.ok ⟨⟨none, true, url.isReadOnly⟩, none⟩, directory)
    else
      match directory.place url.path with
      | .entry name => directory.openFile url name
      | _ => (.error .cannotOpen, directory)

/-- Opens a database. -/
def openDatabase (directory : Directory) (url : DatabaseUrl) :
    Except DatabaseFault OpenedDatabase × Directory :=
  if url.path.toList.contains '\x00' then (.error .zeroInPath, directory)
  else
    match url.resolve with
    | .error fault => (.error fault, directory)
    | .ok resolved => directory.openResolved resolved

/-- Opens the database of a URL. -/
def connect (directory : Directory) (url : String) :
    Except DatabaseError OpenedDatabase × Directory :=
  match DatabaseUrl.ofText url with
  | .error fault => (.error fault.toDatabaseError, directory)
  | .ok url =>
    match directory.openDatabase url with
    | (.ok opened, after) => (.ok opened, after)
    | (.error fault, after) => (.error (.engine fault), after)

/-- The directory after an opened database was changed. -/
def keep (directory : Directory) (opened : OpenedDatabase) : Directory :=
  match opened.fileName with
  | some name =>
    if opened.database.isReadOnly then directory
    else directory.write name (.database opened.database.table)
  | none => directory

end Directory

end KeyCustody
