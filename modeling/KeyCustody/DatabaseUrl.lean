import KeyCustody.DatabaseError
import KeyCustody.Text.PercentEncoding
import KeyCustody.Text.Quoted

/-!
# Database URLs

A database URL is a scheme, the path of the database file, and parameters after a question mark. The
path is percent-encoded, so that it may hold a question mark itself. Not every URL leads to a file: the
path `:memory:` and a parameter stand for a database in memory, and an empty path for one that is dropped
when it is closed. A path may itself be a URI of a file, which the engine resolves.
-/

namespace KeyCustody

/-- What a database URL says. -/
structure DatabaseUrl where
  path : String
  isInMemory : Bool
  isReadOnly : Bool
  /-- Whether the file is taken never to change. -/
  isImmutable : Bool
  fileSystem : Option String
deriving DecidableEq, Repr

/-- Why a text is no database URL. -/
inductive DatabaseUrlFault where
  | badPath (fault : Text.Utf8Fault)
  | unknownValue (parameter value : String)
  | unknownParameter (name : String)
deriving DecidableEq, Repr

/-- The wording of the fault. -/
def DatabaseUrlFault.message : DatabaseUrlFault → String
  | badPath fault => fault.message
  | unknownValue parameter value =>
    "unknown value " ++ Text.quoted value ++ " for `" ++ parameter ++ "`"
  | unknownParameter name =>
    "unknown query parameter `" ++ name ++ "` while parsing connection URL"

/-- The error of a database that cannot be reached because of its URL. -/
def DatabaseUrlFault.toDatabaseError (fault : DatabaseUrlFault) : DatabaseError :=
  .internal ("Invalid database URL: error with configuration: " ++ fault.message)

namespace DatabaseUrl

/-- The path that stands for a database in memory. -/
def memoryPath : String := ":memory:"

/-- Whether the database is gone once it is closed. -/
def isVolatile (url : DatabaseUrl) : Bool :=
  url.isInMemory || url.path = "" || url.path = memoryPath

/-- The scheme of a path that is itself a URI. -/
def fileScheme : List Char := "file:".toList

/-- The path in a URI of a file after its scheme, which ends where the parameters, the fragment or an
encoded zero byte start. -/
def uriPath (text : List Char) : String :=
  let encoded := text.takeWhile fun char => char ≠ '?' && char ≠ '#'
  let decoded := Text.percentDecode (ByteString.ofText (String.ofList encoded))
  Text.ofUtf8Repaired (decoded.takeWhile (· ≠ 0))

/-- The path in a URI of a file, which may name the local host and no other. -/
def resolveUri (text : List Char) : Except DatabaseFault String :=
  match text with
  | '/' :: '/' :: rest =>
    let host := rest.takeWhile (· ≠ '/')
    if host = [] ∨ host = "localhost".toList then .ok (uriPath (rest.dropWhile (· ≠ '/')))
    else .error (.foreignHost (String.ofList host))
  | _ => .ok (uriPath text)

/-- The URL with the path that the engine opens. Where a parameter is passed on to the engine, the path
is taken as it is. -/
def resolve (url : DatabaseUrl) : Except DatabaseFault DatabaseUrl :=
  let path := url.path.toList
  if fileScheme.isPrefixOf path && !url.isImmutable && url.fileSystem.isNone then
    (resolveUri (path.drop fileScheme.length)).map fun resolved => { url with path := resolved }
  else .ok url

theorem length_drop_lt {word text : List Char} (starts : word ≠ [] ∧ word.isPrefixOf text) :
    (text.drop word.length).length < text.length := by
  have isPositive := List.length_pos_iff.mpr starts.1
  have isBounded := (List.isPrefixOf_iff_prefix.mp starts.2).length_le
  simp only [List.length_drop]
  omega

/-- The text after a word that it may start with any number of times. -/
def dropRepeated (word : List Char) (text : List Char) : List Char :=
  if starts : word ≠ [] ∧ word.isPrefixOf text then
    have := length_drop_lt starts
    dropRepeated word (text.drop word.length)
  else text
  termination_by text.length
  decreasing_by assumption

/-- The text without the scheme, in either of its forms. -/
def dropScheme (text : String) : List Char :=
  dropRepeated "sqlite:".toList (dropRepeated "sqlite://".toList text.toList)

/-- The URL of a path without parameters. -/
def ofPath (path : String) : Except DatabaseUrlFault DatabaseUrl :=
  if path = memoryPath then .ok ⟨"", true, false, false, none⟩
  else
    match Text.ofUtf8 (Text.percentDecode (ByteString.ofText path)) with
    | .ok decoded => .ok ⟨decoded, false, false, false, none⟩
    | .error fault => .error (.badPath fault)

/-- The URL with a parameter added. -/
def withParameter (url : DatabaseUrl) (parameter : String × String) :
    Except DatabaseUrlFault DatabaseUrl :=
  match parameter with
  | ("mode", value) =>
    match value with
    | "ro" => .ok { url with isReadOnly := true }
    | "rw" => .ok url
    | "rwc" => .ok url
    | "memory" => .ok { url with isInMemory := true }
    | _ => .error (.unknownValue "mode" value)
  | ("cache", value) =>
    if value = "private" ∨ value = "shared" then .ok url
    else .error (.unknownValue "cache" value)
  | ("immutable", value) =>
    if value = "true" ∨ value = "1" then .ok { url with isImmutable := true }
    else if value = "false" ∨ value = "0" then .ok { url with isImmutable := false }
    else .error (.unknownValue "immutable" value)
  | ("vfs", value) => .ok { url with fileSystem := some value }
  | (name, _) => .error (.unknownParameter name)

/-- The URL that a text stands for. -/
def ofText (text : String) : Except DatabaseUrlFault DatabaseUrl := do
  let rest := dropScheme text
  let path := rest.takeWhile (· != '?')
  let parameters := (rest.dropWhile (· != '?')).drop 1
  let url ← ofPath (String.ofList path)
  (Text.queryFields (String.ofList parameters)).foldlM withParameter url

end DatabaseUrl

end KeyCustody
