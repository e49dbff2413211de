import KeyCustody.Toml.Entries
import KeyCustody.Toml.Moment
import KeyCustody.Toml.Quotation

/-!
# Values in TOML

Keys and values. Lists and tables within values nest up to a fixed depth, and keys have no more parts
than that.
-/

namespace KeyCustody.Toml

/-- How deep lists and tables may nest, and how many parts a key may have. -/
def depthLimit : Nat := 79

/-- Whether a character may stand in a key without quotes. -/
def isKeyChar (character : Char) : Bool :=
  character.isAlphanum || character == '-' || character == '_'

/-- One part of a key, and what follows it. -/
def keyPart? (text : List Char) : Option (String × List Char) :=
  match text with
  | '"' :: _ => lineText? text
  | '\'' :: _ => lineText? text
  | _ =>
    let name := text.takeWhile isKeyChar
    if name = [] then none else some (String.ofList name, text.dropWhile isKeyChar)

/-- The parts of a key, and what follows them. -/
def keyParts? : Nat → List Char → Option (List String × List Char)
  | 0, _ => none
  | fuel + 1, text => do
    let (part, after) ← keyPart? (skipBlanks text)
    match skipBlanks after with
    | '.' :: rest =>
      let (parts, following) ← keyParts? fuel rest
      return (part :: parts, following)
    | rest => return ([part], rest)

/-- A key, as the path to a table and the name in it. -/
structure Key where
  path : List String
  name : String

/-- A key, and what follows it. -/
def key? (text : List Char) : Option (Key × List Char) := do
  let (parts, rest) ← keyParts? depthLimit text
  let name ← parts.getLast?
  return (⟨parts.dropLast, name⟩, rest)

/-- What follows a word. -/
def afterWord? (word : String) (text : List Char) : Option (List Char) :=
  if word.toList.isPrefixOf text then some (text.drop word.length) else none

/-- A value without parts, and what follows it. -/
def scalar? (text : List Char) : Option (Document × List Char) :=
  match text with
  | [] => none
  | first :: _ =>
    if first = '"' ∨ first = '\'' then
      (quotedText? text).map fun (value, rest) => (.text value, rest)
    else if first = 't' then (afterWord? "true" text).map fun rest => (.boolean true, rest)
    else if first = 'f' then (afterWord? "false" text).map fun rest => (.boolean false, rest)
    else
      match afterMoment? text with
      | some rest => some (.moment, rest)
      | none => number? text

/-- What reads a value: the value, and what follows it. -/
abbrev ValueReader := List Char → Option (Document × List Char)

/-- The items of a list up to its closing bracket, and what follows it. A comma may stand after the
last one. -/
def listItems? (item? : ValueReader) : Nat → List Char → Option (List Document × List Char)
  | 0, _ => none
  | fuel + 1, text =>
    match skipLayout (text.length + 1) text with
    | ']' :: rest => some ([], rest)
    | start => do
      let (item, after) ← item? start
      match skipLayout (after.length + 1) after with
      | ',' :: rest =>
        let (items, following) ← listItems? item? fuel rest
        return (item :: items, following)
      | ']' :: rest => return ([item], rest)
      | _ => none

/-- A key with its value, and what follows them. -/
def keyValue? (item? : ValueReader) (text : List Char) : Option (Key × Document × List Char) := do
  let (key, afterKey) ← key? text
  let (value, rest) ← item? (skipBlanks (← after? '=' afterKey))
  return (key, value, rest)

/-- The entries of a table within a value up to its closing bracket, added to those read already, and
what follows it. All stand on one line, and no comma stands after the last one. -/
def inlineEntries? (item? : ValueReader) : Nat → Entries → List Char → Option (Entries × List Char)
  | 0, _, _ => none
  | fuel + 1, entries, text => do
    let (key, value, after) ← keyValue? item? text
    let extended ← entries.insert key.path key.name value .closed
    match skipBlanks after with
    | ',' :: rest => inlineEntries? item? fuel extended rest
    | '\x7d' :: rest => return (extended, rest)
    | _ => none

/-- A table within a value after its opening bracket, and what follows it. -/
def inlineTable? (item? : ValueReader) (text : List Char) : Option (Document × List Char) :=
  match skipBlanks text with
  | '\x7d' :: rest => some (.table .closed [], rest)
  | start => (inlineEntries? item? (start.length + 1) [] start).map fun (entries, rest) =>
      (.table .closed entries, rest)

/-- A value in which lists and tables nest no deeper than given, and what follows it. -/
def value? : Nat → ValueReader
  | 0, text => scalar? text
  | depth + 1, text =>
    match text with
    | '[' :: rest => (listItems? (value? depth) (rest.length + 1) rest).map fun (items, after) =>
        (.list items, after)
    | '\x7b' :: rest => inlineTable? (value? depth) rest
    | _ => scalar? text

end KeyCustody.Toml
