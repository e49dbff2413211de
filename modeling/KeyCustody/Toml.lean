import KeyCustody.Toml.Value

/-!
# TOML documents

A document is read line by line. A line is empty, sets a key of the current table, or opens another
table by a header.
-/

namespace KeyCustody.Toml

/-- How far a document has been read: its tables, and the path of the current one. -/
structure Reading where
  root : Entries
  /-- The path of the current table. -/
  current : List String

namespace Reading

/-- Reads a line that sets a key of the current table. -/
def setKey? (reading : Reading) (text : List Char) : Option (Reading × List Char) := do
  let (key, value, after) ← keyValue? (value? depthLimit) text
  let rest ← afterTrailing? after
  let root ← reading.root.changeAt reading.current fun form entries =>
    entries.insert key.path key.name value form
  return ({ reading with root }, rest)

/-- Reads the line of a header after its opening brackets. -/
def openHeader? (reading : Reading) (opener : List String → String → Entries → Option Entries)
    (closing : String) (text : List Char) : Option (Reading × List Char) := do
  let (key, after) ← key? text
  let rest ← afterTrailing? (← afterWord? closing after)
  let root ← opener key.path key.name reading.root
  return (⟨root, key.path ++ [key.name]⟩, rest)

/-- Reads a line that is not blank. -/
def line? (reading : Reading) (text : List Char) : Option (Reading × List Char) :=
  match text with
  | '#' :: _ => (afterTrailing? text).map fun rest => (reading, rest)
  | '[' :: '[' :: rest => reading.openHeader? Entries.openListTable "]]" rest
  | '[' :: rest => reading.openHeader? Entries.openTable "]" rest
  | _ =>
    match afterNewline? text with
    | some rest => some (reading, rest)
    | none => reading.setKey? text

/-- Reads lines until the text ends. -/
def lines? : Nat → Reading → List Char → Option Reading
  | 0, _, _ => none
  | fuel + 1, reading, text =>
    match skipBlanks text with
    | [] => some reading
    | start => do
      let (next, rest) ← reading.line? start
      lines? fuel next rest

end Reading

/-- The text without the mark that may stand at the start of a file. -/
def skipByteOrderMark : List Char → List Char
  | '\ufeff' :: rest => rest
  | text => text

/-- The document that a text stands for. -/
def read? (text : String) : Option Document :=
  let start := skipByteOrderMark text.toList
  (Reading.lines? (start.length + 1) ⟨[], []⟩ start).map fun reading =>
    .table .headed reading.root

end KeyCustody.Toml
