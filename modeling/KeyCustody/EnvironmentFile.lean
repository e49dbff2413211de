import KeyCustody.Text.Alphanumeric
import KeyCustody.Text.Blank
import KeyCustody.Variables

/-!
# Environment files

A file with a variable and its value on every line, read before the settings. It never changes a
variable that is set already, and reading it stops at the first line that is malformed. Quotes may
run over several lines; outside single quotes a dollar sign stands for the value of a variable.
-/

namespace KeyCustody

namespace EnvironmentFile

/-- What the division into lines is in the middle of. -/
inductive LineState where
  /-- Nothing: the line may end here. -/
  | complete
  /-- A character after a backslash comes next. -/
  | escaped
  /-- A blank was read, after which a comment may start. -/
  | blank
  | single
  | singleEscaped
  | double
  /-- Double quotes are open, and a character after a backslash comes next. -/
  | doubleEscaped
deriving DecidableEq, Repr

namespace LineState

/-- What a character opens outside quotes. -/
def opened (character : Char) : LineState :=
  if character = '\\' then .escaped
  else if character = '"' then .double
  else if character = '\'' then .single
  else .complete

/-- The state after a character. -/
def next (state : LineState) (character : Char) : LineState :=
  match state with
  | .complete =>
    if Text.isBlank character && character != '\n' && character != '\r' then .blank
    else opened character
  | .blank => opened character
  | .escaped => .complete
  | .single =>
    if character = '\\' then .singleEscaped
    else if character = '\'' then .complete
    else .single
  | .singleEscaped => .single
  | .double =>
    if character = '\\' then .doubleEscaped
    else if character = '"' then .complete
    else .double
  | .doubleEscaped => .double

end LineState

/-- How the characters of a physical line end. -/
inductive LineEnd where
  /-- In a comment, before which these characters stand. -/
  | comment (before : List Char)
  | reached (state : LineState)
deriving DecidableEq, Repr

/-- Follows the characters of a physical line. -/
def follow (state : LineState) (before : List Char) : List Char → LineEnd
  | [] => .reached state
  | character :: rest =>
    if state = .blank ∧ character = '#' then .comment before
    else follow (state.next character) (before ++ [character]) rest

/-- The first physical line of a text with its line feed, and what follows it. -/
def splitLine : List Char → List Char × List Char
  | [] => ([], [])
  | '\n' :: rest => (['\n'], rest)
  | character :: rest =>
    let (line, after) := splitLine rest
    (character :: line, after)

/-- A line without its line break. -/
def dropNewline (line : List Char) : List Char :=
  match line.reverse with
  | '\n' :: '\r' :: rest => rest.reverse
  | '\n' :: rest => rest.reverse
  | _ => line

/-- What a file starts with. -/
inductive LogicalLine where
  | atEnd
  | unfinished
  | line (content rest : List Char)
deriving DecidableEq, Repr

/-- The next line, which goes on over physical lines until nothing is open. A line whose first visible
character is a number sign is a comment. -/
def nextLine : Nat → LineState → List Char → List Char → LogicalLine
  | 0, _, _, _ => .unfinished
  | fuel + 1, state, held, text =>
    if text = [] then if state = .complete then .atEnd else .unfinished
    else
      let (physical, rest) := splitLine text
      let extended := held ++ physical
      if (extended.dropWhile Text.isBlank).head? = some '#' then .line [] rest
      else
        match follow state [] physical with
        | .comment before => .line (held ++ before) rest
        | .reached .complete => .line (dropNewline extended) rest
        | .reached reached => nextLine fuel reached extended rest

/-- Which quotes a value is read in. -/
inductive Quoting where
  | plain
  | single
  | double
deriving DecidableEq, Repr

/-- What the reading of a value is in the middle of. -/
inductive ValuePhase where
  | plain
  | escaped
  | name (isBraced : Bool) (read : List Char)
  /-- The value is complete, and a comment may follow. -/
  | complete
deriving DecidableEq, Repr

/-- How far a value has been read. -/
structure ValueState where
  quoting : Quoting
  phase : ValuePhase
  output : List Char
deriving DecidableEq, Repr

namespace ValueState

/-- The state with a character added to the value. -/
def push (state : ValueState) (character : Char) : ValueState :=
  { state with phase := .plain, output := state.output ++ [character] }

/-- The state with the value of a variable added; nothing, if the variable is not set. -/
def substitute (given : Variables) (state : ValueState) (name : List Char) : ValueState :=
  let value := (given.text? (String.ofList name)).getD ""
  { state with phase := .plain, output := state.output ++ value.toList }

/-- What an escaped character stands for. -/
def unescape? (character : Char) : Option Char :=
  if ['\\', '\'', '"', '$', ' '].contains character then some character
  else if character = 'n' then some '\n'
  else none

/-- The state after a character of the name of a variable, or after the one that ends it. -/
def afterName (given : Variables) (state : ValueState) (isBraced : Bool) (name : List Char)
    (character : Char) : ValueState :=
  if Text.isAlphanumeric character then
    { state with phase := .name isBraced (name ++ [character]) }
  else if isBraced then
    if character = '\x7d' then state.substitute given name
    else { state with phase := .name true (name ++ [character]) }
  else if character = '\x7b' ∧ name = [] then { state with phase := .name true [] }
  else if character = '$' then { state.substitute given name with phase := .name false [] }
  else (state.substitute given name).push character

/-- The state after a character that no escape, name or single quote decides about. -/
def afterPlain (state : ValueState) (character : Char) : ValueState :=
  if character = '$' then { state with phase := .name false [] }
  else if character = '\\' then { state with phase := .escaped }
  else if state.quoting = .double then
    if character = '"' then { state with quoting := .plain } else state.push character
  else if character = '\'' then { state with quoting := .single }
  else if character = '"' then { state with quoting := .double }
  else if character = ' ' ∨ character = '\t' then { state with phase := .complete }
  else state.push character

/-- The state after a character; none if the character cannot stand there. -/
def next? (given : Variables) (state : ValueState) (character : Char) : Option ValueState :=
  match state.phase with
  | .complete => if character = ' ' ∨ character = '\t' then some state else none
  | .escaped => (unescape? character).map state.push
  | .name isBraced name => some (state.afterName given isBraced name character)
  | .plain =>
    if state.quoting = .single then
      some (if character = '\'' then { state with quoting := .plain } else state.push character)
    else some (state.afterPlain character)

/-- The value when its characters end, if nothing is left open. -/
def finish? (given : Variables) (state : ValueState) : Option (List Char) :=
  if state.quoting ≠ .plain then none
  else
    match state.phase with
    | .name true _ => none
    | .name false name => some (state.substitute given name).output
    | _ => some state.output

end ValueState

/-- Reads a value up to its end or to the comment after it. -/
def readValue? (given : Variables) : ValueState → List Char → Option (List Char)
  | state, [] => state.finish? given
  | state, character :: rest =>
    if state.phase = .complete ∧ character = '#' then state.finish? given
    else (state.next? given character).bind fun after => readValue? given after rest

/-- Whether a character may start the name of a variable. -/
def startsName (character : Char) : Bool :=
  character.isAlpha || character == '_'

/-- Whether a character may stand in the name of a variable. -/
def isNameChar (character : Char) : Bool :=
  character.isAlphanum || character == '_' || character == '.'

/-- The name of a variable, and what follows it and the blanks after it. -/
def name? (text : List Char) : Option (String × List Char) :=
  match text with
  | first :: _ =>
    if startsName first then
      some (String.ofList (text.takeWhile isNameChar),
        (text.dropWhile isNameChar).dropWhile Text.isBlank)
    else none
  | [] => none

/-- What follows an equals sign and the blanks after it. -/
def afterEquals? : List Char → Option (List Char)
  | '=' :: rest => some (rest.dropWhile Text.isBlank)
  | _ => none

/-- The name that a line sets, and the text of the value. The word `export` may stand before the name,
and may be a name itself. -/
def assignment? (line : List Char) : Option (String × List Char) := do
  let (name, afterName) ← name? line
  match afterEquals? afterName with
  | some value => return (name, value)
  | none =>
    if name = "export" then
      let (exported, afterExported) ← name? afterName
      return (exported, ← afterEquals? afterExported)
    else none

/-- The variables after a line; none if it is malformed. -/
def readLine? (given : Variables) (line : List Char) : Option Variables :=
  let content := Text.trimChars line
  if content = [] ∨ content.head? = some '#' then some given
  else do
    let (name, text) ← assignment? content
    let value ← if text.head? = some '#' then some []
      else readValue? given ⟨.plain, .plain, []⟩ text
    return given.setIfAbsent name (String.ofList value)

/-- The variables after the lines of a file, up to the first one that is malformed. -/
def readLines : Nat → Variables → List Char → Variables
  | 0, given, _ => given
  | fuel + 1, given, text =>
    match nextLine (text.length + 1) .complete [] text with
    | .line content rest =>
      match readLine? given content with
      | some after => readLines fuel after rest
      | none => given
    | _ => given

/-- The text without the mark that may stand at the start of a file. -/
def dropMark : List Char → List Char
  | '\ufeff' :: rest => rest
  | text => text

/-- The variables with those of an environment file added. -/
def load (given : Variables) (content : String) : Variables :=
  let text := dropMark content.toList
  readLines (text.length + 1) given text

end EnvironmentFile

end KeyCustody
