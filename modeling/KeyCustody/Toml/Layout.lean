/-!
# Layout of TOML text

Blanks, line breaks and comments, which stand between the parts of a document. Every function takes what
it is about off the front of the text and returns what follows.
-/

namespace KeyCustody.Toml

/-- Whether a character is a blank. -/
def isBlank (character : Char) : Bool :=
  character == ' ' || character == '\t'

/-- The text without leading blanks. -/
def skipBlanks (text : List Char) : List Char :=
  text.dropWhile isBlank

/-- Whether a character may stand in a comment: no control character but the tab. -/
def isVisible (character : Char) : Bool :=
  character == '\t' || (' ' ≤ character && character != '\x7f')

/-- The text without a leading comment. -/
def skipComment : List Char → List Char
  | '#' :: rest => rest.dropWhile isVisible
  | text => text

/-- What follows a line break. -/
def afterNewline? : List Char → Option (List Char)
  | '\n' :: rest => some rest
  | '\r' :: '\n' :: rest => some rest
  | _ => none

/-- The text without a leading line break. -/
def skipNewline (text : List Char) : List Char :=
  (afterNewline? text).getD text

/-- What follows a line break or the end of the text. -/
def afterLine? : List Char → Option (List Char)
  | [] => some []
  | text => afterNewline? text

/-- What follows the rest of a line that holds nothing but blanks and a comment. -/
def afterTrailing? (text : List Char) : Option (List Char) :=
  afterLine? (skipComment (skipBlanks text))

/-- The text without leading blanks and line breaks. -/
def skipSpace : List Char → List Char
  | '\r' :: '\n' :: rest => skipSpace rest
  | character :: rest =>
    if isBlank character || character == '\n' then skipSpace rest else character :: rest
  | [] => []

/-- The text without leading blanks, line breaks and comments. -/
def skipLayout : Nat → List Char → List Char
  | 0, text => text
  | fuel + 1, text =>
    match skipSpace text with
    | '#' :: rest => skipLayout fuel (rest.dropWhile isVisible)
    | after => after

end KeyCustody.Toml
